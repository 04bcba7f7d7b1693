import Mathlib
import SiteRouting.Proofs.MountIndex
import SiteRouting.Proofs.Tree.Ports

namespace SiteRouting

inductive HostingTree.LeadsTo (tree : HostingTree) (root : MountId) : MountId → Prop where
  | root : tree.LeadsTo root root
  | child {above id : MountId} {mount : Mount} {key : String} (leads : tree.LeadsTo root above)
      (held : tree.mounts[above]? = some mount) (linked : mount.child? key = some id) :
      tree.LeadsTo root id

/-- The port entries of a host at a position: each stands under its own port,
once, and leads to a root mount of that host and port. -/
structure HostingTree.PortsServed (tree : HostingTree) (id : Nat) (host : VirtualHost) : Prop where
  nodup : (host.portMounts.map (·.1)).Nodup
  port : ∀ port entry, (port, entry) ∈ host.portMounts → entry.port = port
  root : ∀ port entry, (port, entry) ∈ host.portMounts → ∀ root, entry.root = some root →
    ∃ mount : Mount, tree.mounts[root]? = some mount ∧ mount.parent = none ∧ mount.mountPath = "" ∧
      mount.host = id ∧ mount.group = host.group ∧ mount.port = port

/-- What every lookup in a tree relies on. Shapes and links fit together: tables
and back links say the same, a host without a parent is a root once, and a mount
is reached from the root mount of its own host and port and from no other. -/
structure HostingTree.WellFormed (tree : HostingTree) : Prop extends tree.Shaped where
  roots : ∀ (i : Nat) (group : HostGroup), tree.groups[i]? = some group →
    Tabulates group.roots tree.hosts (fun host => host.parent = none ∧ host.group = group.name) (·.name)
  topped : ∀ (id : Nat) (host : VirtualHost), tree.hosts[id]? = some host → host.parent = none →
    ∃ (i : Nat) (group : HostGroup), tree.groups[i]? = some group ∧ group.root? host.name = some id ∧
      ∀ (j : Nat) (other : HostGroup) (key : String), tree.groups[j]? = some other →
        other.root? key = some id → j = i ∧ key = host.name
  hostChildren : ∀ (id : Nat) (host : VirtualHost), tree.hosts[id]? = some host →
    Tabulates host.children tree.hosts (·.parent = some id) (·.name)
  mountChildren : ∀ (id : Nat) (mount : Mount), tree.mounts[id]? = some mount →
    Tabulates mount.children tree.mounts (·.parent = some id) (·.name)
  ports : ∀ (id : Nat) (host : VirtualHost), tree.hosts[id]? = some host → tree.PortsServed id host
  rooted : ∀ (id : Nat) (mount : Mount), tree.mounts[id]? = some mount → ∀ (at_host : HostId) (port : Port),
    (∃ host root, tree.hosts[at_host]? = some host ∧ host.rootMount? port = some root ∧
      tree.LeadsTo root id) ↔ at_host = mount.host ∧ port = mount.port

section Bare

variable {tree : HostingTree}

theorem HostingTree.HostShaped.of_unlinked {id : Nat} {host : VirtualHost}
    (shaped : tree.unlinked.HostShaped id host.unlinked) : tree.HostShaped id host where
  position := shaped.position
  grouped := by
    obtain ⟨i, bare, held, name⟩ := shaped.grouped
    obtain ⟨group, inTree, rfl⟩ := HostingTree.exists_group held
    exact ⟨i, group, inTree, name⟩
  top := shaped.top
  below parent same := by
    obtain ⟨before, bare, held, names⟩ := shaped.below parent same
    obtain ⟨above, inTree, rfl⟩ := HostingTree.exists_host held
    exact ⟨before, above, inTree, names⟩

theorem HostingTree.MountShaped.of_unlinked {id : Nat} {mount : Mount}
    (shaped : tree.unlinked.MountShaped id mount.unlinked) : tree.MountShaped id mount where
  position := shaped.position
  hosted := by
    obtain ⟨bare, held, group⟩ := shaped.hosted
    obtain ⟨host, inTree, rfl⟩ := HostingTree.exists_host held
    exact ⟨host, inTree, group⟩
  top := shaped.top
  below parent same := by
    obtain ⟨before, bare, held, names⟩ := shaped.below parent same
    obtain ⟨above, inTree, rfl⟩ := HostingTree.exists_mount held
    exact ⟨before, above, inTree, names⟩

theorem HostingTree.Shaped.of_unlinked (shaped : tree.unlinked.Shaped) : tree.Shaped where
  names i j _ _ atI atJ same :=
    shaped.names i j _ _ (HostingTree.unlinked_group atI) (HostingTree.unlinked_group atJ) same
  hosts id _ held := .of_unlinked (shaped.hosts id _ (HostingTree.unlinked_host held))
  mounts id _ held := .of_unlinked (shaped.mounts id _ (HostingTree.unlinked_mount held))

/-- A table that leads to the right nodes without their links leads to
the right nodes. -/
theorem Tabulates.of_map {α : Type} {table : List (String × Nat)} {nodes : Array α} {bare : α → α}
    {Here : α → Prop} {name : α → String} (tabulates : Tabulates table (nodes.map bare) Here name)
    (here : ∀ node, Here (bare node) ↔ Here node) (named : ∀ node, name (bare node) = name node) :
    Tabulates table nodes Here name where
  nodup := tabulates.nodup
  lookup_iff key id := by
    rw [tabulates.lookup_iff]
    constructor
    · rintro ⟨node, held, stands, rfl⟩
      rw [Array.getElem?_map] at held
      obtain ⟨old, inTree, rfl⟩ := Option.map_eq_some_iff.mp held
      exact ⟨old, inTree, (here old).mp stands, (named old).symm⟩
    · rintro ⟨node, held, stands, rfl⟩
      refine ⟨bare node, ?_, (here node).mpr stands, named node⟩
      rw [Array.getElem?_map, held, Option.map_some]

end Bare

section Rooted

variable {tree : HostingTree}

theorem HostingTree.Shaped.leadsTo_place (shaped : tree.Shaped)
    (children : ∀ (id : Nat) (mount : Mount), tree.mounts[id]? = some mount →
      Tabulates mount.children tree.mounts (·.parent = some id) (·.name))
    {root id : MountId} {top : Mount} (atRoot : tree.mounts[root]? = some top)
    (leads : tree.LeadsTo root id) :
    ∃ mount, tree.mounts[id]? = some mount ∧ mount.host = top.host ∧ mount.port = top.port := by
  induction leads with
  | root => exact ⟨top, atRoot, rfl, rfl⟩
  | @child above id mount key leads held linked ih =>
    obtain ⟨same, inTree, host, port⟩ := ih
    cases held.symm.trans inTree
    obtain ⟨child, inMounts, below, _⟩ := ((children above mount held).lookup_iff key id).mp linked
    obtain ⟨_, parent, isParent, _, sameHost, _, samePort⟩ :=
      (shaped.mounts id child inMounts).below above below
    cases held.symm.trans isParent
    exact ⟨child, inMounts, sameHost.trans host, samePort.trans port⟩

/-- Every mount is reached from the root mount of its host and port,
by way of its parents. -/
theorem HostingTree.Shaped.exists_leadsTo (shaped : tree.Shaped)
    (children : ∀ (id : Nat) (mount : Mount), tree.mounts[id]? = some mount →
      Tabulates mount.children tree.mounts (·.parent = some id) (·.name))
    (bound : ∀ (id : Nat) (mount : Mount), tree.mounts[id]? = some mount → mount.parent = none →
      ∃ host, tree.hosts[mount.host]? = some host ∧ host.rootMount? mount.port = some id)
    (id : Nat) (mount : Mount) (held : tree.mounts[id]? = some mount) :
    ∃ host root, tree.hosts[mount.host]? = some host ∧ host.rootMount? mount.port = some root ∧
      tree.LeadsTo root id := by
  -- A parent stands before its children, so the way up to the root mount ends.
  induction id using Nat.strongRecOn generalizing mount with
  | ind id ih =>
    cases parent : mount.parent with
    | none =>
      obtain ⟨host, inHosts, rooted⟩ := bound id mount held parent
      exact ⟨host, id, inHosts, rooted, .root⟩
    | some above =>
      obtain ⟨before, parentMount, inTree, _, sameHost, _, samePort⟩ :=
        (shaped.mounts id mount held).below above parent
      have linked : parentMount.child? mount.name = some id :=
        ((children above parentMount inTree).lookup_iff mount.name id).mpr ⟨mount, held, parent, rfl⟩
      obtain ⟨host, root, inHosts, rooted, leads⟩ := ih above before parentMount inTree
      rw [sameHost, samePort]
      exact ⟨host, root, inHosts, rooted, leads.child inTree linked⟩

theorem HostingTree.ports_of_host {id : Nat} {host : VirtualHost}
    (held : tree.hosts[id]? = some host) : tree.ports[id]? = some host.portMounts := by
  rw [HostingTree.ports, Array.getElem?_map, held, Option.map_some]

theorem HostingTree.Bound.portsServed (bound : tree.Bound none) (shaped : tree.Shaped) {id : Nat}
    {host : VirtualHost} (held : tree.hosts[id]? = some host) : tree.PortsServed id host := by
  have served := bound.tables id _ (HostingTree.ports_of_host held)
  refine ⟨served.nodup, served.port, ?_⟩
  intro port entry member root leads
  obtain ⟨bare, inTree, top, atHost, atPort⟩ := served.root port entry member root leads
  obtain ⟨mount, inMounts, rfl⟩ := HostingTree.exists_mount inTree
  have shape := shaped.mounts root mount inMounts
  obtain ⟨owner, inHosts, group⟩ := shape.hosted
  have isOwner : tree.hosts[id]? = some owner := atHost ▸ inHosts
  cases held.symm.trans isOwner
  exact ⟨mount, inMounts, top, shape.top top, atHost, group, atPort⟩

theorem HostingTree.Bound.exists_rootMount (bound : tree.Bound none) {id : Nat} {mount : Mount}
    (held : tree.mounts[id]? = some mount) (top : mount.parent = none) :
    ∃ host, tree.hosts[mount.host]? = some host ∧ host.rootMount? mount.port = some id := by
  rcases bound.roots id _ (HostingTree.unlinked_mount held) top with
    waits | ⟨table, entry, inTree, found, leads⟩
  · cases waits
  · rw [HostingTree.ports, Array.getElem?_map] at inTree
    obtain ⟨host, inHosts, rfl⟩ := Option.map_eq_some_iff.mp inTree
    refine ⟨host, inHosts, ?_⟩
    rw [VirtualHost.rootMount?, VirtualHost.portMount?]
    exact found ▸ leads

theorem HostingTree.PortsServed.root_of_rootMount {id : Nat} {host : VirtualHost} {port : Port}
    {root : MountId} (served : tree.PortsServed id host) (found : host.rootMount? port = some root) :
    ∃ mount : Mount, tree.mounts[root]? = some mount ∧ mount.host = id ∧ mount.port = port := by
  obtain ⟨entry, isEntry, leads⟩ := Option.bind_eq_some_iff.mp found
  obtain ⟨mount, inTree, _, _, atHost, _, atPort⟩ :=
    served.root port entry (mem_of_lookup isEntry) root leads
  exact ⟨mount, inTree, atHost, atPort⟩

/-- The invariants of a growing tree make a well-formed one once no
root mount is waiting. -/
theorem HostingTree.wellFormed_of_bound (bare : tree.unlinked.Shaped) (linked : tree.Linked)
    (bound : tree.Bound none) : tree.WellFormed := by
  have shaped : tree.Shaped := .of_unlinked bare
  have children : ∀ (id : Nat) (mount : Mount), tree.mounts[id]? = some mount →
      Tabulates mount.children tree.mounts (·.parent = some id) (·.name) := fun id mount held =>
    (linked.mounts id mount held).of_map (fun _ => Iff.rfl) (fun _ => rfl)
  have roots : ∀ (i : Nat) (group : HostGroup), tree.groups[i]? = some group →
      Tabulates group.roots tree.hosts (fun host => host.parent = none ∧ host.group = group.name)
        (·.name) := fun i group held =>
    (linked.roots i group held).of_map (fun _ => Iff.rfl) (fun _ => rfl)
  refine ⟨shaped, roots, ?_, ?_, children, fun id host held => bound.portsServed shaped held, ?_⟩
  · intro id host held top
    obtain ⟨i, group, inGroups, named⟩ := (shaped.hosts id host held).grouped
    refine ⟨i, group, inGroups, ?_, ?_⟩
    · exact ((roots i group inGroups).lookup_iff host.name id).mpr ⟨host, held, ⟨top, named.symm⟩, rfl⟩
    · intro j other key isOther isRoot
      obtain ⟨same, inTree, ⟨_, inOther⟩, isKey⟩ := ((roots j other isOther).lookup_iff key id).mp isRoot
      cases held.symm.trans inTree
      exact ⟨shaped.names j i other group isOther inGroups (inOther.symm.trans named.symm), isKey.symm⟩
  · intro id host held
    exact (linked.hosts id host held).of_map (fun _ => Iff.rfl) (fun _ => rfl)
  · intro id mount held at_host port
    constructor
    · rintro ⟨host, root, inHosts, found, leads⟩
      obtain ⟨top, inMounts, topHost, topPort⟩ :=
        (bound.portsServed shaped inHosts).root_of_rootMount found
      obtain ⟨same, inTree, sameHost, samePort⟩ := shaped.leadsTo_place children inMounts leads
      cases held.symm.trans inTree
      exact ⟨(sameHost.trans topHost).symm, (samePort.trans topPort).symm⟩
    · rintro ⟨rfl, rfl⟩
      exact shaped.exists_leadsTo children (fun _ _ inMounts top => bound.exists_rootMount inMounts top)
        id mount held

end Rooted

/-- Every position that a tree or its index stores is one of a node. -/
structure HostingTree.IdsInRange (tree : HostingTree) (index : MountIndex) : Prop where
  roots : ∀ group ∈ tree.groups, ∀ entry ∈ group.roots, entry.2 < tree.hosts.size
  hostParents : ∀ host ∈ tree.hosts, ∀ parent, host.parent = some parent → parent < tree.hosts.size
  hostChildren : ∀ host ∈ tree.hosts, ∀ entry ∈ host.children, entry.2 < tree.hosts.size
  portMounts : ∀ host ∈ tree.hosts, ∀ entry ∈ host.portMounts, ∀ root, entry.2.root = some root →
    root < tree.mounts.size
  mountHosts : ∀ mount ∈ tree.mounts, mount.host < tree.hosts.size
  mountParents : ∀ mount ∈ tree.mounts, ∀ parent, mount.parent = some parent →
    parent < tree.mounts.size
  mountChildren : ∀ mount ∈ tree.mounts, ∀ entry ∈ mount.children, entry.2 < tree.mounts.size
  byIdentifier : ∀ entry ∈ index.byIdentifier, entry.2 < tree.mounts.size
  byGroup : ∀ entry ∈ index.byGroup, entry.2 < tree.mounts.size
  byAlias : ∀ entry ∈ index.byAlias, entry.2 < tree.mounts.size

theorem HostingTree.WellFormed.idsInRange {tree : HostingTree} {index : MountIndex}
    (wellFormed : tree.WellFormed) (points : index.PointsInto tree) : tree.IdsInRange index where
  roots group member entry inTable := by
    obtain ⟨i, held⟩ := Array.mem_iff_getElem?.mp member
    exact (wellFormed.roots i group held).lt_size inTable
  hostParents host member parent same := by
    obtain ⟨i, held⟩ := Array.mem_iff_getElem?.mp member
    obtain ⟨_, above, inTree, _⟩ := (wellFormed.hosts i host held).below parent same
    exact (Array.getElem?_eq_some_iff.mp inTree).1
  hostChildren host member entry inTable := by
    obtain ⟨i, held⟩ := Array.mem_iff_getElem?.mp member
    exact (wellFormed.hostChildren i host held).lt_size inTable
  portMounts host member entry inTable root leads := by
    obtain ⟨i, held⟩ := Array.mem_iff_getElem?.mp member
    obtain ⟨mount, inTree, _⟩ := (wellFormed.ports i host held).root entry.1 entry.2 inTable root leads
    exact (Array.getElem?_eq_some_iff.mp inTree).1
  mountHosts mount member := by
    obtain ⟨i, held⟩ := Array.mem_iff_getElem?.mp member
    obtain ⟨host, inTree, _⟩ := (wellFormed.mounts i mount held).hosted
    exact (Array.getElem?_eq_some_iff.mp inTree).1
  mountParents mount member parent same := by
    obtain ⟨i, held⟩ := Array.mem_iff_getElem?.mp member
    obtain ⟨_, above, inTree, _⟩ := (wellFormed.mounts i mount held).below parent same
    exact (Array.getElem?_eq_some_iff.mp inTree).1
  mountChildren mount member entry inTable := by
    obtain ⟨i, held⟩ := Array.mem_iff_getElem?.mp member
    exact (wellFormed.mountChildren i mount held).lt_size inTable
  byIdentifier entry member := (points.byIdentifier entry member).lt_size
  byGroup entry member := (points.byGroup entry member).lt_size
  byAlias entry member := (points.byAlias entry member).lt_size

end SiteRouting
