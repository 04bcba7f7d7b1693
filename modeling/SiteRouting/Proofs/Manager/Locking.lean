import Mathlib
import SiteRouting.Proofs.Manager.Operation

namespace SiteRouting

section Table

variable {table after : LockTable} {identifier user : String}

theorem LockTable.lockOf?_without_self (table : LockTable) (identifier : String) :
    (table.without identifier).lockOf? identifier = none := by
  rw [LockTable.lockOf?, LockTable.without, List.lookup_eq_none_iff]
  intro entry member
  have differs := (List.mem_filter.mp member).2
  rw [bne_comm]
  exact differs

theorem LockTable.without_without (table : LockTable) (identifier : String) :
    (table.without identifier).without identifier = table.without identifier := by
  rw [LockTable.without, LockTable.without, List.filter_filter]
  simp only [Bool.and_self]

/-- A lock is taken by whoever finds none of somebody else, and no
other entry changes. -/
theorem LockTable.lock_eq_ok {now : Nat} {lock : MountLock}
    (locked : table.lock now identifier user = .ok (lock, after)) :
    lock = ⟨user, now⟩ ∧ after.lockOf? identifier = some lock ∧
      after.without identifier = table.without identifier ∧
      ∀ held, table.lockOf? identifier = some held → held.lockedBy = user := by
  have taken : lock = ⟨user, now⟩ ∧ after = (identifier, ⟨user, now⟩) :: table.without identifier ∧
      ∀ held, table.lockOf? identifier = some held → held.lockedBy = user := by
    unfold LockTable.lock at locked
    dsimp only at locked
    split at locked
    · rename_i free
      cases locked
      exact ⟨rfl, rfl, fun held isHeld => by cases free.symm.trans isHeld⟩
    · rename_i current isCurrent
      split at locked
      · rename_i own
        cases locked
        refine ⟨rfl, rfl, fun held isHeld => ?_⟩
        cases isCurrent.symm.trans isHeld
        exact beq_iff_eq.mp own
      · cases locked
  obtain ⟨rfl, rfl, own⟩ := taken
  refine ⟨rfl, List.lookup_cons_self, ?_, own⟩
  rw [LockTable.without, List.filter_cons_of_neg (by simp)]
  exact table.without_without identifier

/-- A lock is released by its holder, and no other entry changes. -/
theorem LockTable.unlock_eq_ok (unlocked : table.unlock identifier user = .ok after) :
    after.lockOf? identifier = none ∧ after.without identifier = table.without identifier := by
  unfold LockTable.unlock at unlocked
  split at unlocked
  · rename_i free
    cases unlocked
    exact ⟨free, rfl⟩
  · split at unlocked
    · cases unlocked
      exact ⟨table.lockOf?_without_self identifier, table.without_without identifier⟩
    · cases unlocked

/-- Tables that differ in one entry at most have the same lock for
every other identifier. -/
theorem LockTable.lockOf?_of_without_eq {other : String}
    (same : after.without identifier = table.without identifier) (differs : other ≠ identifier) :
    after.lockOf? other = table.lockOf? other := by
  have kept : ∀ table : LockTable, (table.without identifier).lockOf? other = table.lockOf? other := by
    intro table
    induction table with
    | nil => rfl
    | cons entry rest ih =>
      by_cases removed : entry.1 = identifier
      · have missed : (other == entry.1) = false := beq_false_of_ne (removed ▸ differs)
        rw [LockTable.without, List.filter_cons_of_neg (by simp [removed]), LockTable.lockOf?,
          LockTable.lockOf?, List.lookup_cons, missed]
        exact ih
      · rw [LockTable.without, List.filter_cons_of_pos (by simp [removed]), LockTable.lockOf?,
          LockTable.lockOf?, List.lookup_cons, List.lookup_cons]
        rw [show (rest.filter _).lookup other = rest.lookup other from ih]
  rw [← kept after, same, kept table]

end Table

section Manager

variable {manager : Manager} {source : Source} {identifier user : String}

theorem Manager.rebuild_locks (manager : Manager) (source : Source) :
    (manager.rebuild source).manager.locks = manager.locks := by
  unfold Manager.rebuild
  split
  · rfl
  · dsimp only
    split <;> rfl

theorem Manager.registry_locks (manager : Manager) (source : Source) :
    (manager.registry source).manager.locks = manager.locks := by
  unfold Manager.registry
  dsimp only
  by_cases stale : manager.stale
  · simp only [stale, if_true]
    split <;> exact manager.rebuild_locks source
  · simp only [stale]
    split <;> rfl

/-- The registry in service after its own attempt to build is the one
that knows a mount. -/
theorem Manager.knows_eq_true_iff :
    (manager.knows source identifier).answer = true ↔
      ∃ registry, (manager.registry source).answer = .ok registry ∧
        (registry.mountByIdentifier identifier).isSome := by
  unfold Manager.knows
  dsimp only
  cases (manager.registry source).answer with
  | error cause => simp
  | ok registry => simp

/-- What taking a lock does to the table: nothing if it fails; otherwise
the mount is known to the registry in service, nobody else held its lock,
and only that lock changes. -/
theorem Manager.lockMount_locks (manager : Manager) (source : Source) (now : Nat)
    (identifier user : String) :
    let step := manager.lockMount source now identifier user
    (∀ cause, step.answer = .error cause → step.manager.locks = manager.locks) ∧
      ∀ lock, step.answer = .ok lock → lock = ⟨user, now⟩ ∧
        step.manager.locks.lockOf? identifier = some lock ∧
        step.manager.locks.without identifier = manager.locks.without identifier ∧
        (∀ held, manager.locks.lockOf? identifier = some held → held.lockedBy = user) ∧
        ∃ registry, (manager.registry source).answer = .ok registry ∧
          (registry.mountByIdentifier identifier).isSome := by
  have sameLocks : (manager.knows source identifier).manager.locks = manager.locks :=
    manager.registry_locks source
  unfold Manager.lockMount
  dsimp only
  split
  · rename_i known
    rw [sameLocks]
    cases locked : manager.locks.lock now identifier user with
    | error cause => exact ⟨fun _ _ => sameLocks, fun _ impossible => by cases impossible⟩
    | ok answer =>
      obtain ⟨lock, locks⟩ := answer
      refine ⟨fun _ impossible => (by cases impossible), fun same isLock => ?_⟩
      cases isLock
      obtain ⟨isUser, isHeld, others, own⟩ := LockTable.lock_eq_ok locked
      exact ⟨isUser, isHeld, others, own, Manager.knows_eq_true_iff.mp known⟩
  · exact ⟨fun _ _ => sameLocks, fun _ impossible => by cases impossible⟩

/-- What releasing a lock does to the table: nothing if it fails, and
otherwise only that lock is gone. -/
theorem Manager.unlockMount_locks (manager : Manager) (source : Source) (identifier user : String) :
    let step := manager.unlockMount source identifier user
    (∀ cause, step.answer = .error cause → step.manager.locks = manager.locks) ∧
      (step.answer = .ok () → step.manager.locks.lockOf? identifier = none ∧
        step.manager.locks.without identifier = manager.locks.without identifier) := by
  unfold Manager.unlockMount
  dsimp only
  cases held : manager.locks.lockOf? identifier with
  | none =>
    have sameLocks : (manager.knows source identifier).manager.locks = manager.locks :=
      manager.registry_locks source
    dsimp only
    rw [sameLocks]
    exact ⟨fun _ _ => rfl, fun _ => ⟨held, rfl⟩⟩
  | some lock =>
    dsimp only
    cases unlocked : manager.locks.unlock identifier user with
    | error cause => exact ⟨fun _ _ => rfl, fun impossible => by cases impossible⟩
    | ok locks =>
      exact ⟨fun _ impossible => (by cases impossible), fun _ => LockTable.unlock_eq_ok unlocked⟩

/-- A lock is released by its holder and by nobody else; no mount or
registry is needed for it. -/
theorem Manager.unlockMount_of_held {lock : MountLock}
    (held : manager.locks.lockOf? identifier = some lock) :
    (manager.unlockMount source identifier user).answer =
      if user = lock.lockedBy then .ok () else .error (.notLockedBy identifier user) := by
  simp only [Manager.unlockMount, held, LockTable.unlock]
  by_cases own : user = lock.lockedBy
  · simp [own]
  · simp [own, beq_false_of_ne (Ne.symm own)]

end Manager

def Operation.concernsLocks : Operation → Bool
  | .lockMount _ _ _ | .unlockMount _ _ => true
  | _ => false

def Deployment.Takes (deployment : Deployment) (identifier user : String) (operation : Operation) : Prop :=
  ∃ now lock, operation = .lockMount now identifier user ∧
    (deployment.manager.lockMount deployment.source now identifier user).answer = .ok lock

def Deployment.Releases (deployment : Deployment) (identifier user : String) (operation : Operation) :
    Prop :=
  operation = .unlockMount identifier user ∧
    (deployment.manager.unlockMount deployment.source identifier user).answer = .ok ()

/-- A user holds the lock of a mount. The lock stays with its holder until the
holder releases it, through every reload of the configuration on the way. -/
def Deployment.HeldBy (deployment : Deployment) (identifier user : String) : Prop :=
  ∃ lock, deployment.manager.locks.lockOf? identifier = some lock ∧ lock.lockedBy = user

section Run

variable {deployment : Deployment} {identifier user other : String} {operation : Operation}

/-- No load, replacement, invalidation or read touches the table,
whether it builds or not. -/
theorem Deployment.operate_locks (unconcerned : operation.concernsLocks = false) :
    (deployment.operate operation).locks = deployment.manager.locks := by
  have lookedUp {α : Type} (query : Registry → Registry.Step (Except MatchError α)) :
      (deployment.manager.lookUp deployment.source query).manager.locks = deployment.manager.locks := by
    rw [Manager.lookUp_manager]
    exact deployment.manager.registry_locks deployment.source
  cases operation with
  | load => exact deployment.manager.rebuild_locks deployment.source
  | replace config =>
    exact Manager.rebuild_locks { deployment.manager with pushed := some config } (.ok config)
  | invalidate => rfl
  | sourceChange source => rfl
  | registry => exact deployment.manager.registry_locks deployment.source
  | matchHost rawHost => exact lookedUp (·.matchHost rawHost)
  | matchMount rawHost contextPath path => exact lookedUp (·.matchMount rawHost contextPath path)
  | mountByIdentifier identifier => exact deployment.manager.registry_locks deployment.source
  | mountByAlias group aliasName mountType => exact deployment.manager.registry_locks deployment.source
  | lockMount now identifier user => cases unconcerned
  | unlockMount identifier user => cases unconcerned

theorem Deployment.Takes.heldBy (takes : deployment.Takes identifier user operation) :
    (deployment.next operation).HeldBy identifier user := by
  obtain ⟨now, lock, rfl, answered⟩ := takes
  obtain ⟨isUser, held, _⟩ :=
    (deployment.manager.lockMount_locks deployment.source now identifier user).2 lock answered
  exact ⟨lock, held, by rw [isUser]⟩

theorem Deployment.Takes.eq_of_heldBy (takes : deployment.Takes identifier other operation)
    (held : deployment.HeldBy identifier user) : other = user := by
  obtain ⟨now, lock, rfl, answered⟩ := takes
  obtain ⟨current, isHeld, rfl⟩ := held
  obtain ⟨_, _, _, own, _⟩ :=
    (deployment.manager.lockMount_locks deployment.source now identifier other).2 lock answered
  exact (own current isHeld).symm

/-- One operation leaves a lock with its holder unless it is its release. -/
theorem Deployment.HeldBy.next (held : deployment.HeldBy identifier user)
    (kept : ¬ deployment.Releases identifier user operation) :
    (deployment.next operation).HeldBy identifier user := by
  obtain ⟨lock, isHeld, isUser⟩ := held
  -- An operation that leaves the entry alone leaves the lock with its holder.
  have untouched (same : (deployment.operate operation).locks.lockOf? identifier =
      deployment.manager.locks.lockOf? identifier) : (deployment.next operation).HeldBy identifier user :=
    ⟨lock, same.trans isHeld, isUser⟩
  cases operation with
  | lockMount now wanted by_user =>
    obtain ⟨failed, locked⟩ :=
      deployment.manager.lockMount_locks deployment.source now wanted by_user
    cases answered : (deployment.manager.lockMount deployment.source now wanted by_user).answer with
    | error cause => exact untouched (congrArg (LockTable.lockOf? · identifier) (failed cause answered))
    | ok taken =>
      obtain ⟨_, _, others, own, _⟩ := locked taken answered
      by_cases here : identifier = wanted
      · subst here
        have takes : deployment.Takes identifier by_user (.lockMount now identifier by_user) :=
          ⟨now, taken, rfl, answered⟩
        exact isUser ▸ own lock isHeld ▸ takes.heldBy
      · exact untouched (LockTable.lockOf?_of_without_eq others here)
  | unlockMount wanted by_user =>
    obtain ⟨failed, unlocked⟩ :=
      deployment.manager.unlockMount_locks deployment.source wanted by_user
    cases answered : (deployment.manager.unlockMount deployment.source wanted by_user).answer with
    | error cause => exact untouched (congrArg (LockTable.lockOf? · identifier) (failed cause answered))
    | ok done =>
      by_cases here : identifier = wanted
      · subst here
        rw [Manager.unlockMount_of_held isHeld] at answered
        split at answered
        · rename_i own
          refine absurd ⟨?_, ?_⟩ kept
          · rw [own, isUser]
          · rw [Manager.unlockMount_of_held isHeld, if_pos isUser.symm]
        · cases answered
      · exact untouched (LockTable.lockOf?_of_without_eq (unlocked answered).2 here)
  | _ => exact untouched (congrArg (LockTable.lockOf? · identifier) (Deployment.operate_locks rfl))

/-- A run leaves a lock with its holder, or one of its operations is
the release. -/
theorem Deployment.HeldBy.run (held : deployment.HeldBy identifier user) (operations : List Operation) :
    (deployment.run operations).HeldBy identifier user ∨
      ∃ front release back, operations = front ++ release :: back ∧
        (deployment.run front).Releases identifier user release := by
  induction operations generalizing deployment with
  | nil => exact Or.inl held
  | cons operation rest ih =>
    by_cases released : deployment.Releases identifier user operation
    · exact Or.inr ⟨[], operation, rest, rfl, released⟩
    · rcases ih (held.next released) with still | ⟨front, release, back, rfl, later⟩
      · exact Or.inl still
      · exact Or.inr ⟨operation :: front, release, back, rfl, later⟩

end Run

/-- Locks in every state that a run of operations reaches. Somebody else
takes a lock only after its holder has released it. Only taking and releasing
locks touches the table, no failure does, and a success touches the entry of
its own mount only. A lock is taken only on a mount of the registry in
service. A lock that is held is released by its holder and by nobody else. -/
theorem Manager.run_locks (policy : BuildPolicy) (source : Source) (operations : List Operation) :
    let reached := (⟨Manager.new policy, source⟩ : Deployment).run operations
    (∀ identifier holder other taking between retaking, reached.Takes identifier holder taking →
        ((reached.next taking).run between).Takes identifier other retaking → other ≠ holder →
        ∃ front release back, between = front ++ release :: back ∧
          ((reached.next taking).run front).Releases identifier holder release) ∧
      (∀ operation, operation.concernsLocks = false →
        (reached.operate operation).locks = reached.manager.locks) ∧
      (∀ now identifier user,
        let step := reached.manager.lockMount reached.source now identifier user
        (∀ cause, step.answer = .error cause → step.manager.locks = reached.manager.locks) ∧
        ∀ lock, step.answer = .ok lock →
          step.manager.locks.lockOf? identifier = some ⟨user, now⟩ ∧
          step.manager.locks.without identifier = reached.manager.locks.without identifier ∧
          ∃ registry, (reached.manager.registry reached.source).answer = .ok registry ∧
            (registry.mountByIdentifier identifier).isSome) ∧
      (∀ identifier user,
        let step := reached.manager.unlockMount reached.source identifier user
        (∀ cause, step.answer = .error cause → step.manager.locks = reached.manager.locks) ∧
        (step.answer = .ok () → step.manager.locks.lockOf? identifier = none ∧
          step.manager.locks.without identifier = reached.manager.locks.without identifier)) ∧
      ∀ identifier lock, reached.manager.locks.lockOf? identifier = some lock → ∀ user,
        (reached.manager.unlockMount reached.source identifier user).answer =
          if user = lock.lockedBy then .ok () else .error (.notLockedBy identifier user) := by
  intro reached
  refine ⟨?_, fun _ => Deployment.operate_locks, ?_, ?_, ?_⟩
  · intro identifier holder other taking between retaking takes retakes differs
    rcases takes.heldBy.run between with still | released
    · exact absurd (retakes.eq_of_heldBy still) differs
    · exact released
  · intro now identifier user
    obtain ⟨failed, locked⟩ := reached.manager.lockMount_locks reached.source now identifier user
    refine ⟨failed, fun lock answered => ?_⟩
    obtain ⟨rfl, held, others, _, known⟩ := locked lock answered
    exact ⟨held, others, known⟩
  · exact fun identifier user => reached.manager.unlockMount_locks reached.source identifier user
  · exact fun identifier lock held user => Manager.unlockMount_of_held held

def singleMountSite (identifier : String) : Configuration where
  hostGroups := [{
    name := "dev"
    hosts := [.node { name := "localhost" } (some (.node { identifier := some identifier } [])) [] []] }]

example :
    let reached := (⟨Manager.new .lenient, .ok (singleMountSite "first")⟩ : Deployment).run
      [.lockMount 1 "first" "alice", .replace (singleMountSite "second")]
    (reached.manager.lockMount reached.source 2 "first" "bob").answer = .error (.unknownMount "first") ∧
      (reached.manager.unlockMount reached.source "first" "bob").answer =
        .error (.notLockedBy "first" "bob") ∧
      (reached.manager.unlockMount reached.source "first" "alice").answer = .ok () := by
  decide +kernel

end SiteRouting
