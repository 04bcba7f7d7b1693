import Mathlib
import SiteRouting.Proofs.Tree.Links

namespace SiteRouting

def HostingTree.ports (tree : HostingTree) : Array (List (Port × PortMount)) :=
  tree.hosts.map (·.portMounts)

/-- A table of a host: every entry stands under its own port and leads to a
root mount of that host and port. -/
structure HostingTree.PortsBound (tree : HostingTree) (id : Nat) (table : List (Port × PortMount)) :
    Prop where
  nodup : (table.map (·.1)).Nodup
  port : ∀ port entry, (port, entry) ∈ table → entry.port = port
  root : ∀ port entry, (port, entry) ∈ table → ∀ root, entry.root = some root →
    ∃ mount : Mount, tree.unlinked.mounts[root]? = some mount ∧ mount.parent = none ∧
      mount.host = id ∧ mount.port = port

/-- All tables are as they should be: every root mount is the root of
exactly one entry, the one of its own host and port, except for one
whose entry is still to come. -/
structure HostingTree.Bound (tree : HostingTree) (waiting : Option MountId) : Prop where
  tables : ∀ (id : Nat) (table : List (Port × PortMount)), tree.ports[id]? = some table →
    tree.PortsBound id table
  roots : ∀ (id : Nat) (mount : Mount), tree.unlinked.mounts[id]? = some mount →
    mount.parent = none → waiting = some id ∨ ∃ table entry, tree.ports[mount.host]? = some table ∧
      table.lookup mount.port = some entry ∧ entry.root = some id

section Growth

variable {tree after : HostingTree} {waiting : Option MountId}

theorem HostingTree.PortsBound.extends {id : Nat} {table : List (Port × PortMount)}
    (bound : tree.PortsBound id table) (grown : after.Extends tree) : after.PortsBound id table where
  nodup := bound.nodup
  port := bound.port
  root port entry member root leads := by
    obtain ⟨mount, held, facts⟩ := bound.root port entry member root leads
    exact ⟨mount, grown.mounts held, facts⟩

theorem HostingTree.bound_empty : HostingTree.Bound {} none := by
  constructor <;> simp [HostingTree.ports, HostingTree.unlinked]

theorem HostingTree.Bound.addGroup {name : String} {cmsLocation : Option String}
    (bound : tree.Bound waiting) (added : tree.addGroup name cmsLocation = .ok after) :
    after.Bound waiting := by
  have bare := HostingTree.unlinked_addGroup added
  have grown := HostingTree.extends_addGroup added
  obtain ⟨_, rfl⟩ := HostingTree.addGroup_eq_ok.mp added
  refine ⟨fun id table held => (bound.tables id table held).extends grown, ?_⟩
  rw [bare]
  exact bound.roots

theorem HostingTree.ports_addHost {position : Nat} {parent : Option HostId} {host linked : VirtualHost}
    (no_ports : host.portMounts = [])
    (added : tree.addHost position parent host = .ok (after, linked)) :
    after.ports = tree.ports.push [] := by
  cases parent with
  | none =>
    obtain ⟨_, rfl, rfl⟩ := HostingTree.addRootHost_eq_ok.mp added
    simp only [HostingTree.ports, Array.map_push, no_ports]
  | some above =>
    obtain ⟨_, rfl, rfl⟩ := HostingTree.addChildHost_eq_ok.mp added
    simp only [HostingTree.ports, Array.map_push, no_ports]
    rw [map_modify_eq_map]
    exact fun _ => rfl

theorem HostingTree.Bound.addHost {position : Nat} {parent : Option HostId} {host linked : VirtualHost}
    (bound : tree.Bound waiting) (no_ports : host.portMounts = [])
    (added : tree.addHost position parent host = .ok (after, linked)) : after.Bound waiting := by
  have bare := (HostingTree.unlinked_addHost added).2
  have grown := HostingTree.extends_addHost added
  have ports := HostingTree.ports_addHost no_ports added
  constructor
  · intro id table held
    rw [ports] at held
    rcases getElem?_push_eq_some_iff.mp held with old | ⟨_, rfl⟩
    · exact (bound.tables id table old).extends grown
    · exact ⟨List.nodup_nil, nofun, nofun⟩
  · intro id mount held top
    rw [bare] at held
    rcases bound.roots id mount held top with waits | ⟨table, entry, inTree, leads⟩
    · exact Or.inl waits
    · rw [ports]
      exact Or.inr ⟨table, entry, getElem?_push_eq_some_iff.mpr (Or.inl inTree), leads⟩

theorem HostingTree.Bound.addRootMount {mount linked : Mount} (bound : tree.Bound none)
    (added : tree.addMount none mount = .ok (after, linked)) : after.Bound (some linked.id) := by
  have grown := HostingTree.extends_addMount added
  obtain ⟨same, bare⟩ := HostingTree.unlinked_addMount added
  obtain ⟨_, rfl⟩ := HostingTree.addRootMount_eq_ok.mp added
  refine ⟨fun id table held => (bound.tables id table held).extends grown, ?_⟩
  intro id root held top
  rw [bare] at held
  rcases getElem?_push_eq_some_iff.mp held with old | ⟨rfl, rfl⟩
  · rcases bound.roots id root old top with waits | inTable
    · cases waits
    · exact Or.inr inTable
  · left
    rw [same]
    simp [HostingTree.unlinked]

theorem HostingTree.Bound.addChildMount {parent : MountId} {mount linked : Mount}
    (bound : tree.Bound waiting) (added : tree.addMount (some parent) mount = .ok (after, linked)) :
    after.Bound waiting := by
  have grown := HostingTree.extends_addMount added
  obtain ⟨same, bare⟩ := HostingTree.unlinked_addMount added
  obtain ⟨_, _, rfl⟩ := HostingTree.addChildMount_eq_ok.mp added
  refine ⟨fun id table held => (bound.tables id table held).extends grown, ?_⟩
  intro id root held top
  rw [bare] at held
  rcases getElem?_push_eq_some_iff.mp held with old | ⟨_, rfl⟩
  · exact bound.roots id root old top
  · rw [same] at top
    cases top

/-- A host gets an entry behind the ones that it has, none of which is
for the same port. -/
theorem HostingTree.ports_addPortMount {host : HostId} {entry : PortMount}
    (added : tree.addPortMount host entry = .ok after) :
    after.ports = tree.ports.modify host (· ++ [(entry.port, entry)]) ∧
      ∀ table, tree.ports[host]? = some table → table.lookup entry.port = none := by
  obtain ⟨free, rfl⟩ := HostingTree.addPortMount_eq_ok.mp added
  constructor
  · ext i
    · simp [HostingTree.ports]
    · simp only [HostingTree.ports, Array.getElem_map, Array.getElem_modify]
      split <;> rfl
  · intro table held
    rw [HostingTree.ports, Array.getElem?_map] at held
    obtain ⟨current, inTree, rfl⟩ := Option.map_eq_some_iff.mp held
    rw [HostingTree.host?, inTree] at free
    exact free

theorem HostingTree.Bound.addPortMount {host : HostId} {entry : PortMount}
    (bound : tree.Bound entry.root) (inRange : host < tree.hosts.size)
    (root : ∀ root, entry.root = some root → ∃ mount : Mount,
      tree.unlinked.mounts[root]? = some mount ∧ mount.parent = none ∧ mount.host = host ∧
      mount.port = entry.port)
    (added : tree.addPortMount host entry = .ok after) : after.Bound none := by
  have bare := HostingTree.unlinked_addPortMount added
  have grown := HostingTree.extends_addPortMount added
  obtain ⟨ports, free⟩ := HostingTree.ports_addPortMount added
  constructor
  · intro id table held
    rw [ports] at held
    obtain ⟨old, inTree, ⟨rfl, rfl⟩ | ⟨_, rfl⟩⟩ := getElem?_modify_eq_some held
    · have before := bound.tables _ old inTree
      refine HostingTree.PortsBound.extends ?_ grown
      refine ⟨nodup_keys_append before.nodup (free old inTree) entry, ?_, ?_⟩
      · intro port other member
        rcases List.mem_append.mp member with earlier | last
        · exact before.port port other earlier
        · cases List.mem_singleton.mp last
          rfl
      · intro port other member id leads
        rcases List.mem_append.mp member with earlier | last
        · exact before.root port other earlier id leads
        · cases List.mem_singleton.mp last
          exact root id leads
    · exact (bound.tables id _ inTree).extends grown
  · intro id mount held top
    rw [bare] at held
    rw [ports]
    right
    -- The mount that was waiting is in the new entry, every other one in the entry it was in.
    rcases bound.roots id mount held top with waits | ⟨table, other, inTree, found, leads⟩
    · obtain ⟨same, inMounts, _, atHost, atPort⟩ := root id waits
      cases held.symm.trans inMounts
      have table : tree.ports[host]? = some (tree.hosts[host].portMounts) := by
        simp [HostingTree.ports, inRange]
      refine ⟨tree.hosts[host].portMounts ++ [(entry.port, entry)], entry, ?_, ?_, waits⟩
      · rw [atHost, Array.getElem?_modify, if_pos rfl, table]
        rfl
      · exact lookup_append_eq_some_iff.mpr (Or.inr ⟨atPort ▸ free _ table, atPort.symm, rfl⟩)
    · by_cases here : host = mount.host
      · refine ⟨table ++ [(entry.port, entry)], other, ?_, ?_, leads⟩
        · rw [Array.getElem?_modify, if_pos here, inTree]
          rfl
        · exact lookup_append_eq_some_iff.mpr (Or.inl found)
      · refine ⟨table, other, ?_, found, leads⟩
        rw [Array.getElem?_modify, if_neg here, inTree]

end Growth

end SiteRouting
