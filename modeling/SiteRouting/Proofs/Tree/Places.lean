import Mathlib
import SiteRouting.Proofs.Tree.Links

namespace SiteRouting

/-- Where a node or a port entry is looked up: among its siblings, by its
name or port. A tree is known by its nodes without their links and by
what stands at every place. -/
inductive Place where
  | group (name : String)
  | root (group : Nat) (label : String)
  | child (host : HostId) (label : String)
  | port (host : HostId) (port : Port)
  | mount (parent : MountId) (name : String)
  deriving DecidableEq, Repr

def Place.OfHosts : Place → Prop
  | .root _ _ | .child _ _ => True
  | .group _ | .port _ _ | .mount _ _ => False

/-- What stands at a place: a node, by its position, or a port entry. -/
inductive Occupant where
  | node (id : Nat)
  | entry (entry : PortMount)
  deriving DecidableEq, Repr

def HostingTree.occupant? (tree : HostingTree) : Place → Option Occupant
  | .group name => (tree.groups.findIdx? (·.name == name)).map .node
  | .root group label => (tree.groups[group]?.bind (·.root? label)).map .node
  | .child host label => ((tree.host? host).bind (·.child? label)).map .node
  | .port host port => ((tree.host? host).bind (·.portMount? port)).map .entry
  | .mount parent name => ((tree.mount? parent).bind (·.child? name)).map .node

theorem HostingTree.occupant?_root {tree : HostingTree} {position : Nat} {group : HostGroup}
    (declared : tree.groups[position]? = some group) (label : String) :
    tree.occupant? (.root position label) = (group.root? label).map .node := by
  rw [HostingTree.occupant?, declared, Option.bind_some]

theorem HostingTree.occupant?_child {tree : HostingTree} {id : HostId} {host : VirtualHost}
    (held : tree.host? id = some host) (label : String) :
    tree.occupant? (.child id label) = (host.child? label).map .node := by
  rw [HostingTree.occupant?, held, Option.bind_some]

/-- The node that a place is below is in the tree. The place of a
group is below no node. -/
def Place.Within (tree : HostingTree) : Place → Prop
  | .group _ => True
  | .root position _ => position < tree.groups.size
  | .child host _ | .port host _ => host < tree.hosts.size
  | .mount parent _ => parent < tree.mounts.size

/-- An entry for the table of a node: the roots of a group, the children or
port entries of a host, or the children of a mount. -/
inductive Link where
  | root (group : Nat) (label : String) (id : HostId)
  | child (host : HostId) (label : String) (id : HostId)
  | port (host : HostId) (entry : PortMount)
  | mount (parent : MountId) (name : String) (id : MountId)
  deriving DecidableEq, Repr

def Link.place : Link → Place
  | .root group label _ => .root group label
  | .child host label _ => .child host label
  | .port host entry => .port host entry.port
  | .mount parent name _ => .mount parent name

def Link.occupant : Link → Occupant
  | .root _ _ id | .child _ _ id | .mount _ _ id => .node id
  | .port _ entry => .entry entry

def HostGroup.withRoot (label : String) (id : HostId) (group : HostGroup) : HostGroup :=
  { group with roots := group.roots ++ [(label, id)] }

def VirtualHost.withChild (label : String) (id : HostId) (host : VirtualHost) : VirtualHost :=
  { host with children := host.children ++ [(label, id)] }

def VirtualHost.withPort (entry : PortMount) (host : VirtualHost) : VirtualHost :=
  { host with portMounts := host.portMounts ++ [(entry.port, entry)] }

def Mount.withChild (name : String) (id : MountId) (mount : Mount) : Mount :=
  { mount with children := mount.children ++ [(name, id)] }

def HostingTree.link (tree : HostingTree) : Link → HostingTree
  | .root position label id => { tree with groups := tree.groups.modify position (·.withRoot label id) }
  | .child host label id => { tree with hosts := tree.hosts.modify host (·.withChild label id) }
  | .port host entry => { tree with hosts := tree.hosts.modify host (·.withPort entry) }
  | .mount parent name id => { tree with mounts := tree.mounts.modify parent (·.withChild name id) }

section Tables

variable {α β κ : Type} {nodes : Array α} {change : α → α} {p : Nat}

theorem bind_modify_of_same (view : α → Option β) (same : ∀ node, view (change node) = view node)
    (i : Nat) : (nodes.modify p change)[i]?.bind view = nodes[i]?.bind view := by
  rw [Array.getElem?_modify]
  split
  · cases nodes[i]? with
    | none => rfl
    | some node => exact same node
  · rfl

/-- A free key of a table gets its entry, and every other key leads
where it did. -/
theorem bind_modify_lookup [DecidableEq κ] (table : α → List (κ × β)) {key : κ} {value : β}
    (added : ∀ node, table (change node) = table node ++ [(key, value)]) (inRange : p < nodes.size)
    (free : (nodes[p]?.bind fun node => (table node).lookup key) = none) (i : Nat) (k : κ) :
    ((nodes.modify p change)[i]?.bind fun node => (table node).lookup k) =
      if p = i ∧ key = k then some value else nodes[i]?.bind fun node => (table node).lookup k := by
  rw [Array.getElem?_modify]
  by_cases here : p = i
  · subst here
    rw [Array.getElem?_eq_getElem inRange] at free ⊢
    simp only [Option.bind_some, Option.map_some, if_true, true_and, added] at free ⊢
    rw [List.lookup_append]
    by_cases same : key = k
    · subst same
      simp [free]
    · have other : (k == key) = false := beq_eq_false_iff_ne.mpr (Ne.symm same)
      simp [List.lookup_cons, other, same]
  · simp [here]

theorem findIdx?_modify_of_same (view : α → β) (same : ∀ node, view (change node) = view node)
    (accepts : β → Bool) :
    (nodes.modify p change).findIdx? (fun node => accepts (view node)) =
      nodes.findIdx? (fun node => accepts (view node)) := by
  have mapped (all : Array α) :
      (all.map view).findIdx? accepts = all.findIdx? (fun node => accepts (view node)) :=
    Array.findIdx?_map
  rw [← mapped, ← mapped, map_modify_eq_map same]

end Tables

section Links

variable {tree : HostingTree}

theorem HostingTree.unlinked_link (tree : HostingTree) (link : Link) :
    (tree.link link).unlinked = tree.unlinked := by
  cases link <;> simp only [HostingTree.link, HostingTree.unlinked] <;> rw [map_modify_eq_map] <;>
    exact fun _ => rfl

/-- A link fills its own place, which has to be free, and no other. -/
theorem HostingTree.occupant?_link {link : Link} (within : link.place.Within tree)
    (free : tree.occupant? link.place = none) (place : Place) :
    (tree.link link).occupant? place =
      if link.place = place then some link.occupant else tree.occupant? place := by
  cases link with
  | root position label id =>
    have named (group : HostGroup) : (group.withRoot label id).name = group.name := rfl
    have added (group : HostGroup) : (group.withRoot label id).roots = group.roots ++ [(label, id)] := rfl
    have read := bind_modify_lookup HostGroup.roots added within (Option.map_eq_none_iff.mp free)
    cases place with
    | group name =>
      exact congrArg (Option.map Occupant.node) (findIdx?_modify_of_same HostGroup.name named (· == name))
    | root other key =>
      simp only [HostingTree.occupant?, HostingTree.link, HostGroup.root?, read, apply_ite (Option.map _),
        Option.map_some, Link.place, Link.occupant, Place.root.injEq]
    | child | port | mount => rfl
  | child host label id =>
    have kept (key : Port) (above : VirtualHost) :
        (above.withChild label id).portMount? key = above.portMount? key := rfl
    have added (above : VirtualHost) :
        (above.withChild label id).children = above.children ++ [(label, id)] := rfl
    have read := bind_modify_lookup VirtualHost.children added within (Option.map_eq_none_iff.mp free)
    cases place with
    | child other key =>
      simp only [HostingTree.occupant?, HostingTree.link, HostingTree.host?, VirtualHost.child?, read,
        apply_ite (Option.map _), Option.map_some, Link.place, Link.occupant, Place.child.injEq]
    | port other key =>
      exact congrArg (Option.map Occupant.entry)
        (bind_modify_of_same (VirtualHost.portMount? · key) (kept key) other)
    | group | root | mount => rfl
  | port host entry =>
    have kept (key : String) (above : VirtualHost) : (above.withPort entry).child? key = above.child? key :=
      rfl
    have added (above : VirtualHost) :
        (above.withPort entry).portMounts = above.portMounts ++ [(entry.port, entry)] := rfl
    have read := bind_modify_lookup VirtualHost.portMounts added within (Option.map_eq_none_iff.mp free)
    cases place with
    | port other key =>
      simp only [HostingTree.occupant?, HostingTree.link, HostingTree.host?, VirtualHost.portMount?, read,
        apply_ite (Option.map _), Option.map_some, Link.place, Link.occupant, Place.port.injEq]
    | child other key =>
      exact congrArg (Option.map Occupant.node)
        (bind_modify_of_same (VirtualHost.child? · key) (kept key) other)
    | group | root | mount => rfl
  | mount parent name id =>
    have added (above : Mount) : (above.withChild name id).children = above.children ++ [(name, id)] := rfl
    have read := bind_modify_lookup Mount.children added within (Option.map_eq_none_iff.mp free)
    cases place with
    | mount other key =>
      simp only [HostingTree.occupant?, HostingTree.link, HostingTree.mount?, Mount.child?, read,
        apply_ite (Option.map _), Option.map_some, Link.place, Link.occupant, Place.mount.injEq]
    | group | root | child | port => rfl

end Links

end SiteRouting
