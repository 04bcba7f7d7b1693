import Mathlib
import SiteRouting.Proofs.Tree.Places

namespace SiteRouting

/-- A program on a tree, write after write. A fault ends it and takes back
nothing, so a refused call leaves the tree as it was only because it asks for
its place before the first write. -/
abbrev InPlace := EStateM Fault HostingTree

def HostingTree.pushGroup (tree : HostingTree) (group : HostGroup) : HostingTree :=
  { tree with groups := tree.groups.push group }

def HostingTree.pushHost (tree : HostingTree) (host : VirtualHost) : HostingTree :=
  { tree with hosts := tree.hosts.push host }

def HostingTree.pushMount (tree : HostingTree) (mount : Mount) : HostingTree :=
  { tree with mounts := tree.mounts.push mount }

def InPlace.addGroup (name : String) (cmsLocation : Option String) : InPlace Nat := do
  if ((← get).group? name).isSome then
    throw (.duplicateHostGroup name)
  modify (·.pushGroup { name, cmsLocation })
  return (← get).groups.size - 1

def InPlace.addRootHost (position : Nat) (host : VirtualHost) : InPlace HostId := do
  let group := (← get).groups[position]?
  if (group.bind (·.root? host.name)).isSome then
    throw (.duplicateHost ((group.map (·.name)).getD "") host.hostName)
  let id := (← get).hosts.size
  modify (·.link (.root position host.name id))
  modify (·.pushHost { host with id })
  return id

def InPlace.addChildHost (parent : HostId) (host : VirtualHost) : InPlace HostId := do
  if (((← get).host? parent).bind (·.child? host.name)).isSome then
    throw (.duplicateHost host.group host.hostName)
  let id := (← get).hosts.size
  modify (·.link (.child parent host.name id))
  modify (·.pushHost { host with id, parent := some parent })
  return id

def InPlace.addPortMount (id : HostId) (entry : PortMount) : InPlace Unit := do
  let host := (← get).host? id
  if (host.bind (·.portMount? entry.port)).isSome then
    throw (.duplicatePortMount ((host.map (·.hostName)).getD "") entry.port)
  modify (·.link (.port id entry))

/-- Without a parent there are no siblings to ask for, and no table
that the mount gets into. -/
def InPlace.addMount (parent : Option MountId) (mount : Mount) : InPlace MountId := do
  if let some id := parent then
    let above := (← get).mount? id
    if (above.bind (·.child? mount.name)).isSome then
      throw (.duplicateMount ((above.map (·.mountPath)).getD "") mount.name)
  let id := (← get).mounts.size
  if let some above := parent then
    modify (·.link (.mount above mount.name id))
  modify (·.pushMount { mount with id, parent })
  return id

inductive Growth where
  | group (name : String) (cmsLocation : Option String)
  | rootHost (group : Nat) (host : VirtualHost)
  | childHost (parent : HostId) (host : VirtualHost)
  | portMount (host : HostId) (entry : PortMount)
  | mount (parent : Option MountId) (mount : Mount)
  deriving DecidableEq, Repr

@[simp] def Growth.perform : Growth → InPlace Occupant
  | .group name cmsLocation => .node <$> InPlace.addGroup name cmsLocation
  | .rootHost position host => .node <$> InPlace.addRootHost position host
  | .childHost parent host => .node <$> InPlace.addChildHost parent host
  | .portMount id entry => do
    InPlace.addPortMount id entry
    return .entry entry
  | .mount parent new => .node <$> InPlace.addMount parent new

/-- Where what a call adds is to be found. The root of a mount tree has no
place: a port entry leads to it. -/
@[simp] def Growth.place : Growth → Option Place
  | .group name _ => some (.group name)
  | .rootHost position host => some (.root position host.name)
  | .childHost parent host => some (.child parent host.name)
  | .portMount id entry => some (.port id entry.port)
  | .mount parent new => parent.map (.mount · new.name)

/-- The parent of a call is in the tree. A group, or the root of a mount
tree, has no parent that could be missing. -/
def Growth.Valid (call : Growth) (tree : HostingTree) : Prop :=
  ∀ place, call.place = some place → place.Within tree

/-- A sibling has the name or port of a call. The root of a mount tree
has no siblings. -/
def Growth.Taken (call : Growth) (tree : HostingTree) : Prop :=
  (call.place.bind tree.occupant?).isSome

instance (call : Growth) (tree : HostingTree) : Decidable (call.Taken tree) :=
  inferInstanceAs (Decidable (_ = true))

/-- The fault of a call whose name or port is taken, with what its
message shows of the parent. -/
@[simp] def Growth.fault (tree : HostingTree) : Growth → Fault
  | .group name _ => .duplicateHostGroup name
  | .rootHost position host =>
    .duplicateHost ((tree.groups[position]?.map (·.name)).getD "") host.hostName
  | .childHost _ host => .duplicateHost host.group host.hostName
  | .portMount id entry => .duplicatePortMount (((tree.host? id).map (·.hostName)).getD "") entry.port
  | .mount parent new =>
    .duplicateMount (((parent.bind tree.mount?).map (·.mountPath)).getD "") new.name

@[simp] def Growth.occupant (tree : HostingTree) : Growth → Occupant
  | .group _ _ => .node tree.groups.size
  | .rootHost _ _ | .childHost _ _ => .node tree.hosts.size
  | .portMount _ entry => .entry entry
  | .mount _ _ => .node tree.mounts.size

/-- The tree with the node of a call behind the others, and no link to it. -/
@[simp] def Growth.pushed (tree : HostingTree) : Growth → HostingTree
  | .group name cmsLocation => tree.pushGroup { name, cmsLocation }
  | .rootHost _ host => tree.pushHost { host with id := tree.hosts.size }
  | .childHost parent host => tree.pushHost { host with id := tree.hosts.size, parent := some parent }
  | .portMount _ _ => tree
  | .mount parent new => tree.pushMount { new with id := tree.mounts.size, parent }

@[simp] def Growth.link? (tree : HostingTree) : Growth → Option Link
  | .group _ _ => none
  | .rootHost position host => some (.root position host.name tree.hosts.size)
  | .childHost parent host => some (.child parent host.name tree.hosts.size)
  | .portMount id entry => some (.port id entry)
  | .mount parent new => parent.map (.mount · new.name tree.mounts.size)

def Growth.grown (tree : HostingTree) (call : Growth) : HostingTree :=
  match call.link? tree with
  | none => call.pushed tree
  | some link => call.pushed (tree.link link)

@[simp] theorem HostingTree.size_hosts_link (tree : HostingTree) (link : Link) :
    (tree.link link).hosts.size = tree.hosts.size := by
  cases link <;> simp [HostingTree.link]

@[simp] theorem HostingTree.size_mounts_link (tree : HostingTree) (link : Link) :
    (tree.link link).mounts.size = tree.mounts.size := by
  cases link <;> simp [HostingTree.link]

section Taken

variable {tree : HostingTree}

@[simp] theorem Growth.taken_group {name : String} {cmsLocation : Option String} :
    Growth.Taken (.group name cmsLocation) tree ↔ (tree.group? name).isSome := by
  rw [Growth.Taken, Growth.place, Option.bind_some, HostingTree.occupant?, Option.isSome_map,
    HostingTree.group?, Array.isSome_find?, Array.findIdx?_isSome]

@[simp] theorem Growth.taken_rootHost {position : Nat} {host : VirtualHost} :
    Growth.Taken (.rootHost position host) tree ↔
      (tree.groups[position]?.bind (·.root? host.name)).isSome := by
  rw [Growth.Taken, Growth.place, Option.bind_some, HostingTree.occupant?, Option.isSome_map]

@[simp] theorem Growth.taken_childHost {parent : HostId} {host : VirtualHost} :
    Growth.Taken (.childHost parent host) tree ↔
      ((tree.host? parent).bind (·.child? host.name)).isSome := by
  rw [Growth.Taken, Growth.place, Option.bind_some, HostingTree.occupant?, Option.isSome_map]

@[simp] theorem Growth.taken_portMount {id : HostId} {entry : PortMount} :
    Growth.Taken (.portMount id entry) tree ↔
      ((tree.host? id).bind (·.portMount? entry.port)).isSome := by
  rw [Growth.Taken, Growth.place, Option.bind_some, HostingTree.occupant?, Option.isSome_map]

@[simp] theorem Growth.not_taken_rootMount {new : Mount} : ¬ Growth.Taken (.mount none new) tree :=
  Bool.false_ne_true

@[simp] theorem Growth.taken_childMount {parent : MountId} {new : Mount} :
    Growth.Taken (.mount (some parent) new) tree ↔
      ((tree.mount? parent).bind (·.child? new.name)).isSome := by
  rw [Growth.Taken, Growth.place, Option.map_some, Option.bind_some, HostingTree.occupant?,
    Option.isSome_map]

end Taken

/-- A call ends with its fault before it has written anything, or
nothing stops it. -/
theorem Growth.perform_run (call : Growth) (tree : HostingTree) :
    call.perform.run tree =
      if call.Taken tree then .error (call.fault tree) tree
      else .ok (call.occupant tree) (call.grown tree) := by
  cases call with
  | group name cmsLocation =>
    by_cases taken : (tree.group? name).isSome <;>
      simp [InPlace.addGroup, taken, Growth.grown, HostingTree.pushGroup]
  | rootHost position host =>
    by_cases taken : (tree.groups[position]?.bind (·.root? host.name)).isSome <;>
      simp [InPlace.addRootHost, taken, Growth.grown]
  | childHost parent host =>
    by_cases taken : ((tree.host? parent).bind (·.child? host.name)).isSome <;>
      simp [InPlace.addChildHost, taken, Growth.grown]
  | portMount id entry =>
    by_cases taken : ((tree.host? id).bind (·.portMount? entry.port)).isSome <;>
      simp [InPlace.addPortMount, taken, Growth.grown]
  | mount parent new =>
    cases parent with
    | none => simp [InPlace.addMount, Growth.grown]
    | some above =>
      by_cases taken : ((tree.mount? above).bind (·.child? new.name)).isSome <;>
        simp [InPlace.addMount, taken, Growth.grown]

@[simp] def Growth.apply (tree : HostingTree) : Growth → Except Fault (HostingTree × Occupant)
  | .group name cmsLocation => do
    let after ← tree.addGroup name cmsLocation
    return (after, .node tree.groups.size)
  | .rootHost position host => do
    let (after, linked) ← tree.addRootHost position host
    return (after, .node linked.id)
  | .childHost parent host => do
    let (after, linked) ← tree.addChildHost parent host
    return (after, .node linked.id)
  | .portMount id entry => do
    let after ← tree.addPortMount id entry
    return (after, .entry entry)
  | .mount parent new => do
    let (after, linked) ← tree.addMount parent new
    return (after, .node linked.id)

/-- A host for the top of a group is made for that group and for no parent. -/
@[simp] def Growth.Made (tree : HostingTree) : Growth → Prop
  | .rootHost position host =>
    host.parent = none ∧ ∀ group, tree.groups[position]? = some group → group.name = host.group
  | _ => True

section Apply

variable {tree : HostingTree} {call : Growth}

theorem HostingTree.HoldsGroup.made {place : GroupPlace} (held : tree.HoldsGroup place) (label : String)
    (properties : NodeProperties) :
    Growth.Made tree
      (.rootHost place.position (.detached label none place.name place.cmsLocation properties)) := by
  refine ⟨rfl, fun group declared => ?_⟩
  have placed := HostingTree.unlinked_group declared
  rw [held] at placed
  exact (congrArg HostGroup.name (Option.some.inj placed)).symm

theorem Growth.apply_eq (made : call.Made tree) :
    call.apply tree =
      if call.Taken tree then .error (call.fault tree) else .ok (call.grown tree, call.occupant tree) := by
  cases call with
  | group name cmsLocation =>
    by_cases taken : (tree.group? name).isSome <;>
      simp [HostingTree.addGroup, taken, Growth.grown, HostingTree.pushGroup]
  | rootHost position host =>
    obtain ⟨top, isGroup⟩ := made
    have linked :
        { host with id := tree.hosts.size, parent := none } = { host with id := tree.hosts.size } := by
      rw [top]
    cases declared : tree.groups[position]? with
    | none => simp [HostingTree.addRootHost, declared, linked, Growth.grown, HostingTree.link,
        HostingTree.pushHost, HostGroup.withRoot]
    | some group =>
      by_cases taken : (group.root? host.name).isSome <;>
        simp [HostingTree.addRootHost, declared, linked, taken, isGroup group declared, Growth.grown,
          HostingTree.link, HostingTree.pushHost, HostGroup.withRoot]
  | childHost parent host =>
    by_cases taken : ((tree.host? parent).bind (·.child? host.name)).isSome <;>
      simp [HostingTree.addChildHost, taken, Growth.grown, HostingTree.link, HostingTree.pushHost,
        VirtualHost.withChild]
  | portMount id entry =>
    by_cases taken : ((tree.host? id).bind (·.portMount? entry.port)).isSome <;>
      simp [HostingTree.addPortMount, HostingTree.hasPortMount, taken, Growth.grown, HostingTree.link,
        VirtualHost.withPort]
  | mount parent new =>
    cases parent with
    | none => simp [HostingTree.addMount, Growth.grown, HostingTree.pushMount]
    | some above =>
      by_cases taken : ((tree.mount? above).bind (·.child? new.name)).isSome <;>
        simp [HostingTree.addMount, taken, Growth.grown, HostingTree.link, HostingTree.pushMount,
          Mount.withChild]

/-- In place, the old tree stays where no new one is answered. -/
def InPlace.outcome {α : Type} (tree : HostingTree) :
    Except Fault (HostingTree × α) → EStateM.Result Fault HostingTree α
  | .error fault => .error fault tree
  | .ok (after, value) => .ok value after

/-- Growing a tree in place comes to the same as answering with a new one. -/
theorem Growth.perform_run_eq (made : call.Made tree) :
    call.perform.run tree = InPlace.outcome tree (call.apply tree) := by
  rw [Growth.perform_run, Growth.apply_eq made]
  split <;> rfl

end Apply

end SiteRouting
