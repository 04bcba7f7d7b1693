import Mathlib
import SiteRouting.Proofs.Tree.Skeleton

namespace SiteRouting

def movedBy (distance : Nat) (table : List (String × Nat)) : List (String × Nat) :=
  table.map fun (key, id) => (key, distance + id)

def HostGroup.behind (front : HostingTree) (group : HostGroup) : HostGroup :=
  { group with roots := movedBy front.hosts.size group.roots }

def PortMount.behind (front : HostingTree) (entry : PortMount) : PortMount :=
  { entry with root := entry.root.map (front.mounts.size + ·) }

def VirtualHost.behind (front : HostingTree) (host : VirtualHost) : VirtualHost :=
  { host with
    id := front.hosts.size + host.id
    parent := host.parent.map (front.hosts.size + ·)
    children := movedBy front.hosts.size host.children
    portMounts := host.portMounts.map fun (port, entry) => (port, entry.behind front) }

def Mount.behind (front : HostingTree) (mount : Mount) : Mount :=
  { mount with
    id := front.mounts.size + mount.id
    parent := mount.parent.map (front.mounts.size + ·)
    children := movedBy front.mounts.size mount.children
    host := front.hosts.size + mount.host }

/-- A tree with all nodes of another one behind its own. They keep their
order, and every position moves by the number of nodes in front; there the
other tree grows as it grows alone. -/
def HostingTree.append (front back : HostingTree) : HostingTree where
  groups := front.groups ++ back.groups.map (·.behind front)
  hosts := front.hosts ++ back.hosts.map (·.behind front)
  mounts := front.mounts ++ back.mounts.map (·.behind front)

theorem lookup_map_values {κ β γ : Type} [BEq κ] (table : List (κ × β)) (change : β → γ) (key : κ) :
    (table.map fun (k, value) => (k, change value)).lookup key = (table.lookup key).map change := by
  induction table with
  | nil => rfl
  | cons entry rest ih =>
    obtain ⟨k, value⟩ := entry
    rw [List.map_cons, List.lookup_cons, List.lookup_cons]
    cases key == k with
    | true => rfl
    | false => exact ih

section Arrays

variable {α : Type} {front back : Array α} {view link linked : α → α} {i : Nat}

theorem modify_behind (commutes : ∀ node, linked (view node) = view (link node)) :
    (front ++ back.map view).modify (front.size + i) linked = front ++ (back.modify i link).map view := by
  ext j
  · simp
  simp only [Array.getElem_modify, Array.getElem_append, Array.getElem_map]
  by_cases inFront : j < front.size
  · have elsewhere : front.size + i ≠ j := by omega
    simp [inFront, elsewhere]
  · have same : front.size + i = j ↔ i = j - front.size := by omega
    simp only [inFront, dite_false, same]
    split
    · exact commutes _
    · rfl

theorem push_behind (new : α) : (front ++ back.map view).push (view new) = front ++ (back.push new).map view := by
  rw [Array.map_push, Array.append_push]

theorem push_modify_behind {new : α} (commutes : ∀ node, linked (view node) = view (link node)) :
    ((front ++ back.map view).modify (front.size + i) linked).push (view new) =
      front ++ ((back.modify i link).push new).map view := by
  rw [modify_behind commutes, push_behind]

end Arrays

section Nodes

variable (front back : HostingTree)

theorem HostGroup.root?_behind (group : HostGroup) (label : String) :
    (group.behind front).root? label = (group.root? label).map (front.hosts.size + ·) :=
  lookup_map_values group.roots _ label

theorem VirtualHost.child?_behind (host : VirtualHost) (label : String) :
    (host.behind front).child? label = (host.child? label).map (front.hosts.size + ·) :=
  lookup_map_values host.children _ label

theorem VirtualHost.portMount?_behind (host : VirtualHost) (port : Port) :
    (host.behind front).portMount? port = (host.portMount? port).map (·.behind front) :=
  lookup_map_values host.portMounts _ port

theorem Mount.child?_behind (mount : Mount) (name : String) :
    (mount.behind front).child? name = (mount.child? name).map (front.mounts.size + ·) :=
  lookup_map_values mount.children _ name

theorem HostingTree.getElem?_groups_append (position : Nat) :
    (front.append back).groups[front.groups.size + position]? =
      back.groups[position]?.map (·.behind front) := by
  simp [HostingTree.append, Array.getElem?_append]

theorem HostingTree.host?_append (id : HostId) :
    (front.append back).host? (front.hosts.size + id) = (back.host? id).map (·.behind front) := by
  simp [HostingTree.append, HostingTree.host?, Array.getElem?_append]

theorem HostingTree.mount?_append (id : MountId) :
    (front.append back).mount? (front.mounts.size + id) = (back.mount? id).map (·.behind front) := by
  simp [HostingTree.append, HostingTree.mount?, Array.getElem?_append]

theorem HostingTree.host?_append_of_held {id : HostId} {host : VirtualHost}
    (held : front.host? id = some host) : (front.append back).host? id = some host := by
  have inFront : id < front.hosts.size := (Array.getElem?_eq_some_iff.mp held).1
  rw [HostingTree.host?, HostingTree.append, Array.getElem?_append_left inFront]
  exact held

theorem HostingTree.mount?_append_of_held {id : MountId} {mount : Mount}
    (held : front.mount? id = some mount) : (front.append back).mount? id = some mount := by
  have inFront : id < front.mounts.size := (Array.getElem?_eq_some_iff.mp held).1
  rw [HostingTree.mount?, HostingTree.append, Array.getElem?_append_left inFront]
  exact held

theorem HostingTree.append_empty : front.append {} = front := by
  simp [HostingTree.append]

end Nodes

section Growth

variable {front back : HostingTree}

/-- A group is added behind as it is alone, if no group in front has its name. -/
theorem HostingTree.addGroup_append {name : String} (cmsLocation : Option String)
    (free : front.group? name = none) :
    (front.append back).addGroup name cmsLocation = (back.addGroup name cmsLocation).map front.append := by
  have same : (front.append back).group? name = (back.group? name).map (·.behind front) := by
    rw [HostingTree.group?] at free
    rw [HostingTree.group?, HostingTree.group?, HostingTree.append, Array.find?_append, free,
      Option.none_or, Array.find?_map]
    rfl
  unfold HostingTree.addGroup
  rw [same, Option.isSome_map]
  split
  · rfl
  · simp [Except.map, HostingTree.append, HostGroup.behind, movedBy]

theorem HostingTree.addHost_append (position : Nat) (parent : Option HostId) {host : VirtualHost}
    (childless : host.children = []) (unbound : host.portMounts = []) :
    (front.append back).addHost (front.groups.size + position) (parent.map (front.hosts.size + ·)) host =
      (back.addHost position parent host).map fun (tree, linked) =>
        (front.append tree, linked.behind front) := by
  have linked (parent : Option HostId) :
      { host with id := front.hosts.size + back.hosts.size, parent := parent.map (front.hosts.size + ·) } =
        ({ host with id := back.hosts.size, parent } : VirtualHost).behind front := by
    simp [VirtualHost.behind, childless, unbound, movedBy]
  cases parent with
  | none =>
    have taken : ((front.append back).groups[front.groups.size + position]?.bind (·.root? host.name)).isSome =
        (back.groups[position]?.bind (·.root? host.name)).isSome := by
      rw [HostingTree.getElem?_groups_append]
      cases back.groups[position]? with
      | none => rfl
      | some group => simp [HostGroup.root?_behind]
    have top := linked none
    simp only [HostingTree.addHost, HostingTree.addRootHost, Option.map_none, taken] at top ⊢
    split
    · rfl
    simp only [Except.map, HostingTree.append, Array.size_append, Array.size_map, top]
    refine congrArg Except.ok (Prod.ext ?_ rfl)
    rw [HostingTree.mk.injEq]
    refine ⟨modify_behind fun group => ?_, push_behind _, rfl⟩
    simp [HostGroup.behind, movedBy]
  | some above =>
    have taken : (((front.append back).host? (front.hosts.size + above)).bind (·.child? host.name)).isSome =
        ((back.host? above).bind (·.child? host.name)).isSome := by
      rw [HostingTree.host?_append]
      cases back.host? above with
      | none => rfl
      | some parent => simp [VirtualHost.child?_behind]
    have below := linked (some above)
    simp only [HostingTree.addHost, HostingTree.addChildHost, Option.map_some, taken] at below ⊢
    split
    · rfl
    simp only [Except.map, HostingTree.append, Array.size_append, Array.size_map, below]
    refine congrArg Except.ok (Prod.ext ?_ rfl)
    rw [HostingTree.mk.injEq]
    refine ⟨rfl, push_modify_behind fun node => ?_, rfl⟩
    simp [VirtualHost.behind, movedBy]

theorem HostingTree.hasPortMount_append (id : HostId) (port : Port) :
    (front.append back).hasPortMount (front.hosts.size + id) port = back.hasPortMount id port := by
  rw [HostingTree.hasPortMount, HostingTree.hasPortMount, HostingTree.host?_append]
  cases back.host? id with
  | none => rfl
  | some host => simp [VirtualHost.portMount?_behind]

theorem HostingTree.addPortMount_append (id : HostId) (entry : PortMount) :
    (front.append back).addPortMount (front.hosts.size + id) (entry.behind front) =
      (back.addPortMount id entry).map front.append := by
  have name : ((front.append back).host? (front.hosts.size + id)).map (·.hostName) =
      (back.host? id).map (·.hostName) := by
    rw [HostingTree.host?_append, Option.map_map]
    rfl
  have port : (entry.behind front).port = entry.port := rfl
  unfold HostingTree.addPortMount
  rw [port, HostingTree.hasPortMount_append, name]
  split
  · rfl
  simp only [Except.map, HostingTree.append]
  refine congrArg Except.ok ?_
  rw [HostingTree.mk.injEq]
  refine ⟨rfl, modify_behind fun host => ?_, rfl⟩
  simp [VirtualHost.behind]

theorem HostingTree.addMount_append (parent : Option MountId) {mount : Mount}
    (childless : mount.children = []) :
    (front.append back).addMount (parent.map (front.mounts.size + ·))
      { mount with host := front.hosts.size + mount.host } =
      (back.addMount parent mount).map fun (tree, linked) => (front.append tree, linked.behind front) := by
  have linked (parent : Option MountId) : { mount with
      id := front.mounts.size + back.mounts.size
      parent := parent.map (front.mounts.size + ·)
      host := front.hosts.size + mount.host } =
      ({ mount with id := back.mounts.size, parent } : Mount).behind front := by
    simp [Mount.behind, childless, movedBy]
  cases parent with
  | none =>
    have top := linked none
    simp only [HostingTree.addMount, Option.map_none] at top ⊢
    simp only [Except.map, HostingTree.append, Array.size_append, Array.size_map, top, push_behind]
  | some above =>
    have taken : (((front.append back).mount? (front.mounts.size + above)).bind (·.child? mount.name)).isSome =
        ((back.mount? above).bind (·.child? mount.name)).isSome := by
      rw [HostingTree.mount?_append]
      cases back.mount? above with
      | none => rfl
      | some parent => simp [Mount.child?_behind]
    have path : ((front.append back).mount? (front.mounts.size + above)).map (·.mountPath) =
        (back.mount? above).map (·.mountPath) := by
      rw [HostingTree.mount?_append, Option.map_map]
      rfl
    have below := linked (some above)
    simp only [HostingTree.addMount, Option.map_some, taken, path] at below ⊢
    split
    · rfl
    simp only [Except.map, HostingTree.append, Array.size_append, Array.size_map, below]
    refine congrArg Except.ok (Prod.ext ?_ rfl)
    rw [HostingTree.mk.injEq]
    refine ⟨rfl, rfl, push_modify_behind fun node => ?_⟩
    simp [Mount.behind, movedBy]

end Growth

end SiteRouting
