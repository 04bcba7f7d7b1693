namespace SiteRouting

/-- Who holds a lock, and since when in seconds. Only the holder can
renew it or release it. -/
structure MountLock where
  lockedBy : String
  lockedOn : Nat
  deriving DecidableEq, Repr

inductive LockError where
  | unknownMount (identifier : String)
  | alreadyLocked (identifier lockedBy : String)
  | notLockedBy (identifier user : String)
  deriving DecidableEq, Repr

def LockError.message : LockError → String
  | .unknownMount identifier => s!"mount '{identifier}' is unknown"
  | .alreadyLocked identifier lockedBy => s!"mount '{identifier}' is already locked by '{lockedBy}'"
  | .notLockedBy identifier user => s!"mount '{identifier}' is not locked by '{user}'"

/-- Editorial locks on mounts. They are kept by mount identifier and outlive
the registry that the mount belongs to. -/
abbrev LockTable := List (String × MountLock)

def LockTable.lockOf? (table : LockTable) (identifier : String) : Option MountLock :=
  table.lookup identifier

def LockTable.without (table : LockTable) (identifier : String) : LockTable :=
  table.filter (·.1 != identifier)

/-- Locks a mount. Its holder may lock it again, which renews the time;
anybody else is refused with the name of the holder. -/
def LockTable.lock (table : LockTable) (now : Nat) (identifier user : String) :
    Except LockError (MountLock × LockTable) :=
  let lock : MountLock := ⟨user, now⟩
  let locked := (lock, (identifier, lock) :: table.without identifier)
  match table.lockOf? identifier with
  | none => .ok locked
  | some held =>
    if held.lockedBy == user then .ok locked else .error (.alreadyLocked identifier held.lockedBy)

/-- Releases a lock. Only its holder can; releasing a mount that is
not locked does nothing. -/
def LockTable.unlock (table : LockTable) (identifier user : String) : Except LockError LockTable :=
  match table.lockOf? identifier with
  | none => .ok table
  | some held =>
    if held.lockedBy == user then .ok (table.without identifier)
    else .error (.notLockedBy identifier user)

end SiteRouting
