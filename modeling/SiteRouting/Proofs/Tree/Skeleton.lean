import Mathlib
import SiteRouting.Build

namespace SiteRouting

def HostGroup.unlinked (group : HostGroup) : HostGroup := { group with roots := [] }

def VirtualHost.unlinked (host : VirtualHost) : VirtualHost :=
  { host with children := [], portMounts := [] }

def Mount.unlinked (mount : Mount) : Mount := { mount with children := [] }

/-- A tree with no links from the top down. Without them a node is in a
growing tree for good as it was added. -/
def HostingTree.unlinked (tree : HostingTree) : HostingTree where
  groups := tree.groups.map HostGroup.unlinked
  hosts := tree.hosts.map VirtualHost.unlinked
  mounts := tree.mounts.map Mount.unlinked

section Unlinked

variable {tree : HostingTree} {id : Nat}

theorem HostingTree.unlinked_group {group : HostGroup} (held : tree.groups[id]? = some group) :
    tree.unlinked.groups[id]? = some group.unlinked := by
  simp [HostingTree.unlinked, held]

theorem HostingTree.unlinked_host {host : VirtualHost} (held : tree.hosts[id]? = some host) :
    tree.unlinked.hosts[id]? = some host.unlinked := by
  simp [HostingTree.unlinked, held]

theorem HostingTree.unlinked_mount {mount : Mount} (held : tree.mounts[id]? = some mount) :
    tree.unlinked.mounts[id]? = some mount.unlinked := by
  simp [HostingTree.unlinked, held]

theorem HostingTree.exists_group {bare : HostGroup} (held : tree.unlinked.groups[id]? = some bare) :
    ∃ group, tree.groups[id]? = some group ∧ group.unlinked = bare := by
  simpa [HostingTree.unlinked] using held

theorem HostingTree.exists_host {bare : VirtualHost} (held : tree.unlinked.hosts[id]? = some bare) :
    ∃ host, tree.hosts[id]? = some host ∧ host.unlinked = bare := by
  simpa [HostingTree.unlinked] using held

theorem HostingTree.exists_mount {bare : Mount} (held : tree.unlinked.mounts[id]? = some bare) :
    ∃ mount, tree.mounts[id]? = some mount ∧ mount.unlinked = bare := by
  simpa [HostingTree.unlinked] using held

end Unlinked

theorem map_modify_eq_map {α β : Type} {nodes : Array α} {i : Nat} {change : α → α} {view : α → β}
    (same : ∀ node, view (change node) = view node) :
    (nodes.modify i change).map view = nodes.map view := by
  ext j
  · simp
  · simp [Array.getElem_modify, apply_ite view, same]

theorem attached_eq_ok_iff {α β : Type} {taken : Option α} {fault : Fault} {grown result : β} :
    (if taken.isSome then Except.error fault else Except.ok grown) = .ok result ↔
      taken = none ∧ result = grown := by
  cases taken with
  | some node => simp
  | none => simp [eq_comm]

section Growth

variable {tree after : HostingTree}

theorem HostingTree.addGroup_eq_ok {name : String} {cmsLocation : Option String} :
    tree.addGroup name cmsLocation = .ok after ↔ tree.group? name = none ∧
      after = { tree with groups := tree.groups.push { name, cmsLocation } } := by
  rw [HostingTree.addGroup, attached_eq_ok_iff]

theorem HostingTree.addRootHost_eq_ok {position : Nat} {host linked : VirtualHost} :
    tree.addRootHost position host = .ok (after, linked) ↔
      tree.groups[position]?.bind (·.root? host.name) = none ∧
      linked = { host with id := tree.hosts.size, parent := none } ∧
      after = { tree with
        groups := tree.groups.modify position fun group =>
          { group with roots := group.roots ++ [(host.name, tree.hosts.size)] }
        hosts := tree.hosts.push linked } := by
  unfold HostingTree.addRootHost
  dsimp only
  rw [attached_eq_ok_iff, Prod.mk.injEq]
  constructor
  · rintro ⟨free, rfl, rfl⟩
    exact ⟨free, rfl, rfl⟩
  · rintro ⟨free, rfl, rfl⟩
    exact ⟨free, rfl, rfl⟩

theorem HostingTree.addChildHost_eq_ok {parent : HostId} {host linked : VirtualHost} :
    tree.addChildHost parent host = .ok (after, linked) ↔
      (tree.host? parent).bind (·.child? host.name) = none ∧
      linked = { host with id := tree.hosts.size, parent := some parent } ∧
      after = { tree with
        hosts := (tree.hosts.modify parent fun above =>
          { above with children := above.children ++ [(host.name, tree.hosts.size)] }).push linked } := by
  unfold HostingTree.addChildHost
  dsimp only
  rw [attached_eq_ok_iff, Prod.mk.injEq]
  constructor
  · rintro ⟨free, rfl, rfl⟩
    exact ⟨free, rfl, rfl⟩
  · rintro ⟨free, rfl, rfl⟩
    exact ⟨free, rfl, rfl⟩

theorem HostingTree.addPortMount_eq_ok {id : HostId} {entry : PortMount} :
    tree.addPortMount id entry = .ok after ↔
      (tree.host? id).bind (·.portMount? entry.port) = none ∧
      after = { tree with
        hosts := tree.hosts.modify id fun host =>
          { host with portMounts := host.portMounts ++ [(entry.port, entry)] } } := by
  rw [HostingTree.addPortMount, HostingTree.hasPortMount, attached_eq_ok_iff]

theorem HostingTree.addRootMount_eq_ok {mount linked : Mount} :
    tree.addMount none mount = .ok (after, linked) ↔
      linked = { mount with id := tree.mounts.size, parent := none } ∧
      after = { tree with mounts := tree.mounts.push linked } := by
  unfold HostingTree.addMount
  simp only [Except.ok.injEq, Prod.mk.injEq]
  constructor
  · rintro ⟨grown, rfl⟩
    exact ⟨rfl, grown.symm⟩
  · rintro ⟨rfl, grown⟩
    exact ⟨grown.symm, rfl⟩

theorem HostingTree.addChildMount_eq_ok {parent : MountId} {mount linked : Mount} :
    tree.addMount (some parent) mount = .ok (after, linked) ↔
      (tree.mount? parent).bind (·.child? mount.name) = none ∧
      linked = { mount with id := tree.mounts.size, parent := some parent } ∧
      after = { tree with
        mounts := (tree.mounts.modify parent fun above =>
          { above with children := above.children ++ [(mount.name, tree.mounts.size)] }).push linked } := by
  unfold HostingTree.addMount
  dsimp only
  rw [attached_eq_ok_iff, Prod.mk.injEq]
  constructor
  · rintro ⟨free, rfl, rfl⟩
    exact ⟨free, rfl, rfl⟩
  · rintro ⟨free, rfl, rfl⟩
    exact ⟨free, rfl, rfl⟩

theorem HostingTree.unlinked_addGroup {name : String} {cmsLocation : Option String}
    (added : tree.addGroup name cmsLocation = .ok after) :
    after.unlinked =
      { tree.unlinked with groups := tree.unlinked.groups.push { name, cmsLocation } } := by
  obtain ⟨_, rfl⟩ := HostingTree.addGroup_eq_ok.mp added
  simp [HostingTree.unlinked, HostGroup.unlinked]

theorem HostingTree.unlinked_addHost {position : Nat} {parent : Option HostId}
    {host linked : VirtualHost} (added : tree.addHost position parent host = .ok (after, linked)) :
    linked = { host with id := tree.hosts.size, parent } ∧
      after.unlinked = { tree.unlinked with hosts := tree.unlinked.hosts.push linked.unlinked } := by
  cases parent with
  | none =>
    obtain ⟨_, same, rfl⟩ := HostingTree.addRootHost_eq_ok.mp added
    refine ⟨same, ?_⟩
    simp only [HostingTree.unlinked, Array.map_push]
    rw [map_modify_eq_map]
    exact fun _ => rfl
  | some above =>
    obtain ⟨_, same, rfl⟩ := HostingTree.addChildHost_eq_ok.mp added
    refine ⟨same, ?_⟩
    simp only [HostingTree.unlinked, Array.map_push]
    rw [map_modify_eq_map]
    exact fun _ => rfl

theorem HostingTree.unlinked_addPortMount {id : HostId} {entry : PortMount}
    (added : tree.addPortMount id entry = .ok after) : after.unlinked = tree.unlinked := by
  obtain ⟨_, rfl⟩ := HostingTree.addPortMount_eq_ok.mp added
  simp only [HostingTree.unlinked]
  rw [map_modify_eq_map]
  exact fun _ => rfl

theorem HostingTree.unlinked_addMount {parent : Option MountId} {mount linked : Mount}
    (added : tree.addMount parent mount = .ok (after, linked)) :
    linked = { mount with id := tree.mounts.size, parent } ∧
      after.unlinked = { tree.unlinked with mounts := tree.unlinked.mounts.push linked.unlinked } := by
  cases parent with
  | none =>
    obtain ⟨same, rfl⟩ := HostingTree.addRootMount_eq_ok.mp added
    refine ⟨same, ?_⟩
    simp only [HostingTree.unlinked, Array.map_push]
  | some above =>
    obtain ⟨_, same, rfl⟩ := HostingTree.addChildMount_eq_ok.mp added
    refine ⟨same, ?_⟩
    simp only [HostingTree.unlinked, Array.map_push]
    rw [map_modify_eq_map]
    exact fun _ => rfl

end Growth

/-- Every node of the tree before is in its place, except for its links.
Every operation adds at most one node behind the others. -/
structure HostingTree.Extends (after before : HostingTree) : Prop where
  groups : ∀ {id : Nat} {group : HostGroup}, before.unlinked.groups[id]? = some group →
    after.unlinked.groups[id]? = some group
  hosts : ∀ {id : HostId} {host : VirtualHost}, before.unlinked.hosts[id]? = some host →
    after.unlinked.hosts[id]? = some host
  mounts : ∀ {id : MountId} {mount : Mount}, before.unlinked.mounts[id]? = some mount →
    after.unlinked.mounts[id]? = some mount

theorem HostingTree.Extends.refl (tree : HostingTree) : tree.Extends tree :=
  ⟨id, id, id⟩

theorem HostingTree.Extends.trans {a b c : HostingTree} (later : c.Extends b) (earlier : b.Extends a) :
    c.Extends a where
  groups held := later.groups (earlier.groups held)
  hosts held := later.hosts (earlier.hosts held)
  mounts held := later.mounts (earlier.mounts held)

theorem getElem?_push_eq_some_iff {α : Type} {nodes : Array α} {new node : α} {i : Nat} :
    (nodes.push new)[i]? = some node ↔ nodes[i]? = some node ∨ i = nodes.size ∧ node = new := by
  rw [Array.getElem?_push]
  by_cases last : i = nodes.size
  · simp [last, eq_comm]
  · simp [last]

section Extends

variable {tree after : HostingTree}

theorem HostingTree.extends_addGroup {name : String} {cmsLocation : Option String}
    (added : tree.addGroup name cmsLocation = .ok after) : after.Extends tree := by
  have grown := HostingTree.unlinked_addGroup added
  refine ⟨fun held => ?_, fun held => ?_, fun held => ?_⟩
  · rw [grown]
    exact getElem?_push_eq_some_iff.mpr (Or.inl held)
  · rw [grown]
    exact held
  · rw [grown]
    exact held

theorem HostingTree.extends_addHost {position : Nat} {parent : Option HostId}
    {host linked : VirtualHost} (added : tree.addHost position parent host = .ok (after, linked)) :
    after.Extends tree := by
  obtain ⟨_, grown⟩ := HostingTree.unlinked_addHost added
  refine ⟨fun held => ?_, fun held => ?_, fun held => ?_⟩
  · rw [grown]
    exact held
  · rw [grown]
    exact getElem?_push_eq_some_iff.mpr (Or.inl held)
  · rw [grown]
    exact held

theorem HostingTree.extends_addPortMount {id : HostId} {entry : PortMount}
    (added : tree.addPortMount id entry = .ok after) : after.Extends tree := by
  have same := HostingTree.unlinked_addPortMount added
  exact ⟨fun held => same ▸ held, fun held => same ▸ held, fun held => same ▸ held⟩

theorem HostingTree.extends_addMount {parent : Option MountId} {mount linked : Mount}
    (added : tree.addMount parent mount = .ok (after, linked)) : after.Extends tree := by
  obtain ⟨_, grown⟩ := HostingTree.unlinked_addMount added
  refine ⟨fun held => ?_, fun held => ?_, fun held => ?_⟩
  · rw [grown]
    exact held
  · rw [grown]
    exact held
  · rw [grown]
    exact getElem?_push_eq_some_iff.mpr (Or.inl held)

end Extends

def HostingTree.HoldsGroup (tree : HostingTree) (place : GroupPlace) : Prop :=
  tree.unlinked.groups[place.position]? = some { name := place.name, cmsLocation := place.cmsLocation }

def HostingTree.HoldsHost (tree : HostingTree) (host : VirtualHost) : Prop :=
  tree.unlinked.hosts[host.id]? = some host.unlinked

def HostingTree.HoldsMount (tree : HostingTree) (mount : Mount) : Prop :=
  tree.unlinked.mounts[mount.id]? = some mount.unlinked

/-- Where a host is built there are its group and a host of that group. -/
structure HostingTree.HoldsHostPlace (tree : HostingTree) (place : GroupPlace)
    (parent : Option VirtualHost) : Prop where
  group : tree.HoldsGroup place
  parent : ∀ above, parent = some above → tree.HoldsHost above ∧ above.group = place.name

/-- Where a mount is built there are its host and a mount of that host
and port. -/
structure HostingTree.HoldsMountPlace (tree : HostingTree) (place : MountPlace) : Prop where
  host : tree.HoldsHost place.host
  parent : ∀ above, place.parent = some above → tree.HoldsMount above ∧
    above.host = place.host.id ∧ above.group = place.host.group ∧ above.port = place.port

section Holds

variable {tree after : HostingTree}

theorem HostingTree.HoldsHostPlace.extends {place : GroupPlace} {parent : Option VirtualHost}
    (held : tree.HoldsHostPlace place parent) (grown : after.Extends tree) :
    after.HoldsHostPlace place parent where
  group := grown.groups held.group
  parent above same := ⟨grown.hosts (held.parent above same).1, (held.parent above same).2⟩

theorem HostingTree.HoldsMountPlace.extends {place : MountPlace} (held : tree.HoldsMountPlace place)
    (grown : after.Extends tree) : after.HoldsMountPlace place where
  host := grown.hosts held.host
  parent above same := ⟨grown.mounts (held.parent above same).1, (held.parent above same).2⟩

theorem HostingTree.holdsHost_addHost {position : Nat} {parent : Option HostId}
    {host linked : VirtualHost} (added : tree.addHost position parent host = .ok (after, linked)) :
    after.HoldsHost linked := by
  obtain ⟨same, grown⟩ := HostingTree.unlinked_addHost added
  have last : linked.id = tree.unlinked.hosts.size := by simp [same, HostingTree.unlinked]
  rw [HostingTree.HoldsHost, grown]
  exact getElem?_push_eq_some_iff.mpr (Or.inr ⟨last, rfl⟩)

theorem HostingTree.holdsMount_addMount {parent : Option MountId} {mount linked : Mount}
    (added : tree.addMount parent mount = .ok (after, linked)) : after.HoldsMount linked := by
  obtain ⟨same, grown⟩ := HostingTree.unlinked_addMount added
  have last : linked.id = tree.unlinked.mounts.size := by simp [same, HostingTree.unlinked]
  rw [HostingTree.HoldsMount, grown]
  exact getElem?_push_eq_some_iff.mpr (Or.inr ⟨last, rfl⟩)

end Holds

end SiteRouting
