import SiteRouting.Tree

namespace SiteRouting

structure AliasKey where
  group : String
  aliasName : String
  mountType : String
  deriving DecidableEq, Repr

/-- Look-up tables over the mounts of a tree, filled in the order of
registration: by identifier, the newest one first, by group, and by
alias and type within a group. -/
structure MountIndex where
  byIdentifier : List (String × MountId) := []
  byGroup : List (String × MountId) := []
  byAlias : List (AliasKey × MountId) := []
  deriving DecidableEq, Repr

def MountIndex.identified? (index : MountIndex) (identifier : String) : Option MountId :=
  index.byIdentifier.lookup identifier

def MountIndex.ofGroup (index : MountIndex) (group : String) : List MountId :=
  (index.byGroup.filter (·.1 == group)).map (·.2)

def MountIndex.aliased? (index : MountIndex) (key : AliasKey) : Option MountId :=
  index.byAlias.lookup key

/-- The keys that a mount registers: one for each of its types, none
without an alias. -/
def Mount.aliasKeys (mount : Mount) : List AliasKey :=
  match mount.aliasName with
  | none => []
  | some aliasName => mount.types.map fun mountType => ⟨mount.group, aliasName, mountType⟩

/-- Registers a key unless it is taken; a taken one is reported with
the mount that has it. -/
def MountIndex.addAlias (tree : HostingTree) (id : MountId) (index : MountIndex) (key : AliasKey) :
    MountIndex × List Fault :=
  match index.aliased? key with
  | none => ({ index with byAlias := index.byAlias ++ [(key, id)] }, [])
  | some winner =>
    let existing := ((tree.mount? winner).map tree.describeMount).getD ""
    (index, [.aliasConflict key.group key.aliasName key.mountType existing])

def MountIndex.addAliases (tree : HostingTree) (id : MountId) (index : MountIndex) :
    List AliasKey → MountIndex × List Fault
  | [] => (index, [])
  | key :: rest =>
    let (added, faults) := index.addAlias tree id key
    let (final, others) := added.addAliases tree id rest
    (final, faults ++ others)

/-- Registers an identifier. One that is in use already is reported, and from
then on it leads to the newer mount. -/
def MountIndex.addIdentifier (index : MountIndex) (identifier : String) (id : MountId) :
    MountIndex × List Fault :=
  ({ index with byIdentifier := (identifier, id) :: index.byIdentifier },
    if (index.identified? identifier).isSome then [.duplicateIdentifier identifier] else [])

/-- Registers a mount of a tree: its group, its aliases, its identifier. -/
def MountIndex.add (index : MountIndex) (tree : HostingTree) (mount : Mount) :
    MountIndex × List Fault :=
  let grouped := { index with byGroup := index.byGroup ++ [(mount.group, mount.id)] }
  let (aliased, aliasFaults) := grouped.addAliases tree mount.id mount.aliasKeys
  let (identified, identifierFaults) := aliased.addIdentifier mount.identifier mount.id
  (identified, aliasFaults ++ identifierFaults)

end SiteRouting
