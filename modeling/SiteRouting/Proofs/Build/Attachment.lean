import Mathlib
import SiteRouting.Proofs.Build.Faults
import SiteRouting.Proofs.Build.Run

namespace SiteRouting

/-- The names that are taken below a mount; on top of a port none is. They decide
whether a mount is attached, and they change only with the mount itself. -/
def HostingTree.childNames (tree : HostingTree) : Option MountId → List String
  | none => []
  | some id => ((tree.mount? id).map fun mount => mount.children.map (·.1)).getD []

/-- The ports that a host has entries for. They decide whether a port entry
is bound, and they change only with the host itself. -/
def HostingTree.boundPorts (tree : HostingTree) (id : HostId) : List Port :=
  ((tree.host? id).map fun host => host.portMounts.map (·.1)).getD []

theorem isSome_lookup_iff {κ β : Type} [BEq κ] [LawfulBEq κ] {table : List (κ × β)} {key : κ} :
    (table.lookup key).isSome ↔ key ∈ table.map (·.1) := by
  rw [Option.isSome_iff_ne_none, ne_eq, List.lookup_eq_none_iff, List.mem_map]
  constructor
  · intro found
    by_contra absent
    exact found fun entry member => bne_iff_ne.mpr fun same => absent ⟨entry, member, same.symm⟩
  · rintro ⟨entry, member, rfl⟩ free
    exact bne_iff_ne.mp (free entry member) rfl

section Taken

variable {tree after : HostingTree}

theorem HostingTree.hasPortMount_iff {id : HostId} {port : Port} :
    tree.hasPortMount id port ↔ port ∈ tree.boundPorts id := by
  rw [HostingTree.hasPortMount, HostingTree.boundPorts]
  cases tree.host? id with
  | none => simp
  | some host => exact isSome_lookup_iff

theorem HostingTree.isSome_child_iff {id : MountId} {name : String} :
    ((tree.mount? id).bind (·.child? name)).isSome ↔ name ∈ tree.childNames (some id) := by
  rw [HostingTree.childNames]
  cases tree.mount? id with
  | none => simp
  | some mount => exact isSome_lookup_iff

theorem HostingTree.mount?_of_holdsMount {mount : Mount} (held : tree.HoldsMount mount) :
    ∃ linked, tree.mount? mount.id = some linked ∧ linked.mountPath = mount.mountPath := by
  obtain ⟨linked, inTree, same⟩ := HostingTree.exists_mount held
  exact ⟨linked, inTree, (congrArg Mount.mountPath same :)⟩

theorem HostingTree.HoldsMount.lt_size {mount : Mount} (held : tree.HoldsMount mount) :
    mount.id < tree.mounts.size := by
  obtain ⟨linked, inTree, _⟩ := HostingTree.exists_mount held
  exact (Array.getElem?_eq_some_iff.mp inTree).1

theorem HostingTree.addMount_of_taken {parent : Option Mount} (mount : Mount)
    (held : ∀ above, parent = some above → tree.HoldsMount above)
    (taken : mount.name ∈ tree.childNames (parent.map (·.id))) :
    ∃ above, parent = some above ∧
      tree.addMount (parent.map (·.id)) mount = .error (.duplicateMount above.mountPath mount.name) := by
  cases parent with
  | none => cases taken
  | some above =>
    obtain ⟨linked, inTree, path⟩ := HostingTree.mount?_of_holdsMount (held above rfl)
    refine ⟨above, rfl, ?_⟩
    simp only [HostingTree.addMount, Option.map_some, if_pos (HostingTree.isSome_child_iff.mpr taken)]
    simp [inTree, path]

theorem HostingTree.addMount_of_free {parent : Option MountId} (mount : Mount)
    (free : mount.name ∉ tree.childNames parent) :
    ∃ grown linked, tree.addMount parent mount = .ok (grown, linked) := by
  cases parent with
  | none => exact ⟨_, _, rfl⟩
  | some above =>
    rw [HostingTree.addMount, if_neg (mt HostingTree.isSome_child_iff.mp free)]
    exact ⟨_, _, rfl⟩

theorem HostingTree.addPortMount_of_free {id : HostId} (entry : PortMount)
    (free : entry.port ∉ tree.boundPorts id) : ∃ grown, tree.addPortMount id entry = .ok grown := by
  rw [HostingTree.addPortMount, if_neg (mt HostingTree.hasPortMount_iff.mp free)]
  exact ⟨_, rfl⟩

end Taken

/-- What a tree grows by below a mount, or on top of a port: no host changes,
and no child is added to any other mount that was there. -/
structure HostingTree.GrowsBelow (after before : HostingTree) (parent : Option MountId) : Prop where
  hosts : after.hosts = before.hosts
  size : before.mounts.size ≤ after.mounts.size
  names : ∀ id : Nat, id < before.mounts.size → parent ≠ some id →
    after.childNames (some id) = before.childNames (some id)

section Growth

variable {tree after : HostingTree}

theorem HostingTree.GrowsBelow.refl (tree : HostingTree) (parent : Option MountId) :
    tree.GrowsBelow tree parent :=
  ⟨rfl, le_rfl, fun _ _ _ => rfl⟩

theorem HostingTree.GrowsBelow.trans {a b c : HostingTree} {parent : Option MountId}
    (later : c.GrowsBelow b parent) (earlier : b.GrowsBelow a parent) : c.GrowsBelow a parent where
  hosts := later.hosts.trans earlier.hosts
  size := earlier.size.trans later.size
  names id within other :=
    (later.names id (lt_of_lt_of_le within earlier.size) other).trans (earlier.names id within other)

/-- Growth below a mount that is new itself is growth below its parent. -/
theorem HostingTree.GrowsBelow.nested {a b c : HostingTree} {parent : Option MountId} {new : MountId}
    (later : c.GrowsBelow b (some new)) (earlier : b.GrowsBelow a parent) (isNew : a.mounts.size ≤ new) :
    c.GrowsBelow a parent where
  hosts := later.hosts.trans earlier.hosts
  size := earlier.size.trans later.size
  names id within other := by
    have elsewhere : (some new : Option MountId) ≠ some id := fun same =>
      Nat.ne_of_gt (lt_of_lt_of_le within isNew) (Option.some.inj same)
    exact (later.names id (lt_of_lt_of_le within earlier.size) elsewhere).trans
      (earlier.names id within other)

theorem HostingTree.childNames_addMount {parent : Option MountId} {mount linked : Mount}
    (added : tree.addMount parent mount = .ok (after, linked)) {id : Nat} (within : id < tree.mounts.size) :
    after.childNames (some id) =
      tree.childNames (some id) ++ if parent = some id then [mount.name] else [] := by
  cases parent with
  | none =>
    obtain ⟨_, rfl⟩ := HostingTree.addRootMount_eq_ok.mp added
    simp [HostingTree.childNames, HostingTree.mount?, Array.getElem?_push_lt within, within]
  | some above =>
    obtain ⟨_, _, rfl⟩ := HostingTree.addChildMount_eq_ok.mp added
    have inModified : id < (tree.mounts.modify above fun node =>
        { node with children := node.children ++ [(mount.name, tree.mounts.size)] }).size := by
      rwa [Array.size_modify]
    simp only [HostingTree.childNames, HostingTree.mount?, Array.getElem?_push_lt inModified,
      Array.getElem_modify, Array.getElem?_eq_getElem within, Option.map_some, Option.getD_some,
      Option.some.injEq]
    split <;> simp

theorem HostingTree.getElem?_addMount {parent : Option MountId} {mount linked : Mount}
    (added : tree.addMount parent mount = .ok (after, linked)) : after.mounts[linked.id]? = some linked := by
  cases parent with
  | none =>
    obtain ⟨rfl, rfl⟩ := HostingTree.addRootMount_eq_ok.mp added
    exact getElem?_push_eq_some_iff.mpr (Or.inr ⟨rfl, rfl⟩)
  | some above =>
    obtain ⟨_, rfl, rfl⟩ := HostingTree.addChildMount_eq_ok.mp added
    exact getElem?_push_eq_some_iff.mpr (Or.inr ⟨Array.size_modify.symm, rfl⟩)

theorem HostingTree.childNames_new {parent : Option MountId} {mount linked : Mount}
    (childless : mount.children = []) (added : tree.addMount parent mount = .ok (after, linked)) :
    after.childNames (some linked.id) = [] := by
  rw [HostingTree.childNames, HostingTree.mount?, HostingTree.getElem?_addMount added,
    (HostingTree.unlinked_addMount added).1]
  simp [childless]

theorem HostingTree.growsBelow_addMount {parent : Option MountId} {mount linked : Mount}
    (added : tree.addMount parent mount = .ok (after, linked)) : after.GrowsBelow tree parent where
  hosts := HostingTree.hosts_addMount added
  size := by
    cases parent with
    | none =>
      obtain ⟨_, rfl⟩ := HostingTree.addRootMount_eq_ok.mp added
      simp
    | some above =>
      obtain ⟨_, _, rfl⟩ := HostingTree.addChildMount_eq_ok.mp added
      simp
  names id within other := by
    rw [HostingTree.childNames_addMount added within, if_neg other, List.append_nil]

theorem HostingTree.boundPorts_addPortMount {host : HostId} {entry : PortMount}
    (within : host < tree.hosts.size) (added : tree.addPortMount host entry = .ok after) :
    after.boundPorts host = tree.boundPorts host ++ [entry.port] := by
  obtain ⟨_, rfl⟩ := HostingTree.addPortMount_eq_ok.mp added
  simp only [HostingTree.boundPorts, HostingTree.host?, Array.getElem?_modify,
    Array.getElem?_eq_getElem within]
  simp

theorem HostingTree.getElem?_addHost {position : Nat} {parent : Option HostId} {host linked : VirtualHost}
    (added : tree.addHost position parent host = .ok (after, linked)) :
    after.hosts[linked.id]? = some linked := by
  cases parent with
  | none =>
    obtain ⟨_, rfl, rfl⟩ := HostingTree.addRootHost_eq_ok.mp added
    exact getElem?_push_eq_some_iff.mpr (Or.inr ⟨rfl, rfl⟩)
  | some above =>
    obtain ⟨_, rfl, rfl⟩ := HostingTree.addChildHost_eq_ok.mp added
    exact getElem?_push_eq_some_iff.mpr (Or.inr ⟨Array.size_modify.symm, rfl⟩)

theorem HostingTree.boundPorts_new {position : Nat} {parent : Option HostId} {host linked : VirtualHost}
    (unbound : host.portMounts = []) (added : tree.addHost position parent host = .ok (after, linked)) :
    after.boundPorts linked.id = [] := by
  rw [HostingTree.boundPorts, HostingTree.host?, HostingTree.getElem?_addHost added,
    (HostingTree.unlinked_addHost added).1]
  simp [unbound]

end Growth

section Attach

variable (state : BuildState) {sites : List SiteNode} {place : MountPlace} {above : MountProperties}
  {location : String} {own : MountSettings}

theorem BuildState.report_report (a b : List Fault) :
    (state.report location a).report location b = state.report location (a ++ b) := by
  simp [BuildState.report]

/-- A mount without usable content is left out, with its own faults
before the one that says why. -/
theorem BuildState.attachMount_of_refused {fault : Fault}
    (refused : (own.propertiesBelow above).contentPaths sites = .error fault) :
    state.attachMount sites place above location own =
      (state.report location (own.faults ++ [fault]), none) := by
  simp only [BuildState.attachMount, refused, BuildState.report_report]

theorem BuildState.attachMount_of_taken {content : ContentPaths} {warnings : List Fault} {fault : Fault}
    (derived : (own.propertiesBelow above).contentPaths sites = .ok (content, warnings))
    (taken : state.tree.addMount (place.parent.map (·.id))
      (place.detachedMount own (own.propertiesBelow above) content) = .error fault) :
    state.attachMount sites place above location own =
      (state.report location (own.faults ++ warnings ++ [fault]), none) := by
  simp only [BuildState.attachMount, derived, BuildState.report_report]
  simp only [BuildState.report] at taken ⊢
  simp only [taken, List.map_append, List.append_assoc]

theorem BuildState.attachMount_of_added {content : ContentPaths} {warnings : List Fault}
    {tree : HostingTree} {mount : Mount}
    (derived : (own.propertiesBelow above).contentPaths sites = .ok (content, warnings))
    (added : state.tree.addMount (place.parent.map (·.id))
      (place.detachedMount own (own.propertiesBelow above) content) = .ok (tree, mount)) :
    state.attachMount sites place above location own =
      ({ state with tree, index := (state.index.add tree mount).1 }.report location
        (own.faults ++ warnings ++ (state.index.add tree mount).2), some mount) := by
  simp only [BuildState.attachMount, derived, BuildState.report_report]
  simp only [BuildState.report] at added ⊢
  simp only [added, List.map_append, List.append_assoc]

theorem BuildState.bindPort_of_added {tree : HostingTree} {host : VirtualHost} {entry : PortMount}
    (added : state.tree.addPortMount host.id entry = .ok tree) :
    state.bindPort host location entry = { state with tree } := by
  rw [BuildState.bindPort, added]

end Attach

section BuildPort

variable (state : BuildState) {after : BuildState} {sites : List SiteNode} {host : VirtualHost}
  {location : String} {node : PortNode}

theorem BuildState.buildPort_of_bound (bound : state.tree.hasPortMount host.id node.port) :
    state.buildPort sites host location node =
      state.report s!"{location}:{node.port}" [.duplicatePortMount host.hostName node.port] := by
  rw [BuildState.buildPort, if_pos bound]

theorem BuildState.buildPort_of_rootless (free : ¬ state.tree.hasPortMount host.id node.port)
    (rootless : node.root = none) :
    state.buildPort sites host location node =
      (state.report s!"{location}:{node.port}" [.missingRootMount host.hostName node.port]).bindPort host
        s!"{location}:{node.port}" ⟨node.port, none⟩ := by
  simp only [BuildState.buildPort, if_neg free, rootless]

theorem BuildState.buildPort_of_skipped {root : MountNode}
    (free : ¬ state.tree.hasPortMount host.id node.port) (isRoot : node.root = some root)
    (skipped : state.buildMount sites { host, port := node.port } (.ofHost host.properties)
      s!"{location}:{node.port}" root = (after, none)) :
    state.buildPort sites host location node = after := by
  simp only [BuildState.buildPort, if_neg free, isRoot, skipped]

theorem BuildState.buildPort_of_built {root : MountNode} {mount : Mount}
    (free : ¬ state.tree.hasPortMount host.id node.port) (isRoot : node.root = some root)
    (built : state.buildMount sites { host, port := node.port } (.ofHost host.properties)
      s!"{location}:{node.port}" root = (after, some mount)) :
    state.buildPort sites host location node =
      after.bindPort host s!"{location}:{node.port}" ⟨node.port, some mount.id⟩ := by
  simp only [BuildState.buildPort, if_neg free, isRoot, built]

end BuildPort

section AttachHost

variable (state : BuildState) {sites : List SiteNode} {group : GroupPlace} {parent : Option VirtualHost}
  {above : NodeProperties} {own : HostSettings} {ports : List PortNode} {labels : List String}

theorem BuildState.attachHost_of_chain {tree : HostingTree} {host : VirtualHost}
    (labelled : nodeLabels own.name = .ok labels)
    (chain : state.tree.addHostChain group (own.propertiesBelow above) parent labels =
      .ok (tree, some host)) :
    state.attachHost sites group parent above own ports =
      .ok (ports.foldl (BuildState.buildPort sites host s!"{group.name}/{host.hostName}")
        { state.report (hostLocation group.name own.name parent) own.faults with tree }, some host) := by
  simp only [BuildState.attachHost, labelled]
  simp only [BuildState.report, chain]

/-- A build that goes on after a node with labels has linked the hosts
of all of them. -/
theorem BuildState.chain_of_attachHost {finished : BuildState} {answer : Option VirtualHost}
    (labelled : nodeLabels own.name = .ok labels)
    (attached : state.attachHost sites group parent above own ports = .ok (finished, answer)) :
    ∃ tree, state.tree.addHostChain group (own.propertiesBelow above) parent labels =
      .ok (tree, answer) := by
  simp only [BuildState.attachHost, labelled] at attached
  simp only [BuildState.report] at attached
  split at attached
  · cases attached
  · rename_i tree chain
    cases attached
    exact ⟨tree, chain⟩
  · rename_i tree host chain
    cases attached
    exact ⟨tree, chain⟩

end AttachHost

end SiteRouting
