import Mathlib
import SiteRouting.Proofs.Tree.Places
import SiteRouting.Proofs.Tree.WellFormed
import SiteRouting.Tree.Walk

namespace SiteRouting

/-- A tree that walks do not fall out of: hosts know their positions, and
roots and children are hosts. -/
structure HostingTree.Walkable (tree : HostingTree) : Prop where
  position : ∀ (id : HostId) (host : VirtualHost), tree.host? id = some host → host.id = id
  roots : ∀ (i : Nat) (group : HostGroup) (label : String) (id : HostId), tree.groups[i]? = some group →
    group.root? label = some id → ∃ host, tree.host? id = some host
  children : ∀ (id : HostId) (host : VirtualHost) (label : String) (child : HostId),
    tree.host? id = some host → host.child? label = some child → ∃ host, tree.host? child = some host

/-- The place that a walk down from a host finds empty, if it does not get
to the end of the labels. -/
def HostingTree.stopBelow? (tree : HostingTree) (host : VirtualHost) : List String → Option Place
  | [] => none
  | label :: rest =>
    match host.child? label with
    | none => some (.child host.id label)
    | some id =>
      match tree.host? id with
      | none => none
      | some child => tree.stopBelow? child rest

/-- The place that a walk from the top of the group at a position finds
empty, if it finds one. The walk goes down from place to place until then,
and what it answers stands at the wildcard beside that place. -/
def HostingTree.stop? (tree : HostingTree) (position : Nat) (group : HostGroup) (labels : List String) :
    Option Place :=
  match labels.reverse with
  | [] => none
  | last :: rest =>
    match (group.root? last).bind tree.host? with
    | none => some (.root position last)
    | some root => tree.stopBelow? root rest

def Place.wildcard : Place → Place
  | .child host _ => .child host wildcardLabel
  | place => place

theorem HostingTree.WellFormed.walkable {tree : HostingTree} (wellFormed : tree.WellFormed) :
    tree.Walkable where
  position id host held := (wellFormed.hosts id host held).position
  roots i group label id held linked := by
    obtain ⟨root, inTree, _⟩ := ((wellFormed.roots i group held).lookup_iff label id).mp linked
    exact ⟨root, inTree⟩
  children id host label child held linked := by
    obtain ⟨node, inTree, _⟩ := ((wellFormed.hostChildren id host held).lookup_iff label child).mp linked
    exact ⟨node, inTree⟩

section Stop

variable {tree : HostingTree} {id : HostId} {host : VirtualHost} {empty : Place}

theorem HostingTree.Walkable.childHost?_id (walkable : tree.Walkable) (held : tree.host? id = some host)
    (label : String) : (tree.childHost? host label).map (·.id) = host.child? label := by
  rw [HostingTree.childHost?]
  cases linked : host.child? label with
  | none => rfl
  | some child =>
    obtain ⟨node, inTree⟩ := walkable.children id host label child held linked
    rw [Option.bind_some, inTree, Option.map_some, walkable.position child node inTree]

/-- A walk down that stops at an empty place answers what stands at
the wildcard beside it. -/
theorem HostingTree.Walkable.descend_of_stop (walkable : tree.Walkable) {labels : List String}
    (held : tree.host? id = some host) (stopped : tree.stopBelow? host labels = some empty) :
    tree.occupant? empty = none ∧
      ((tree.descend host labels).map (·.id)).map .node = tree.occupant? empty.wildcard := by
  induction labels generalizing id host with
  | nil => cases stopped
  | cons label rest ih =>
    rw [HostingTree.stopBelow?] at stopped
    rw [HostingTree.descend]
    cases linked : host.child? label with
    | none =>
      rw [linked, Option.some.injEq, walkable.position id host held] at stopped
      subst stopped
      rw [HostingTree.occupant?_child held, linked, Place.wildcard, HostingTree.occupant?_child held]
      exact ⟨rfl, congrArg _ (walkable.childHost?_id held wildcardLabel)⟩
    | some child =>
      obtain ⟨node, inTree⟩ := walkable.children id host label child held linked
      simp only [linked, inTree] at stopped ⊢
      exact ih inTree stopped

/-- A walk that stops answers what stands at the wildcard beside the place
that it found empty. Among the roots of a group there is no wildcard, and
the place itself is empty. -/
theorem HostingTree.Walkable.findHost_of_stop (walkable : tree.Walkable) {position : Nat} {group : HostGroup}
    (declared : tree.groups[position]? = some group) {labels : List String}
    (stopped : tree.stop? position group labels = some empty) :
    tree.occupant? empty = none ∧
      ((tree.findHost group labels).map (·.id)).map .node = tree.occupant? empty.wildcard := by
  rw [HostingTree.stop?] at stopped
  rw [HostingTree.findHost]
  cases reversed : labels.reverse with
  | nil =>
    rw [reversed] at stopped
    cases stopped
  | cons last rest =>
    simp only [reversed] at stopped ⊢
    cases rooted : (group.root? last).bind tree.host? with
    | none =>
      simp only [rooted, Option.some.injEq] at stopped ⊢
      subst stopped
      have missing : group.root? last = none := by
        cases linked : group.root? last with
        | none => rfl
        | some id =>
          obtain ⟨root, inTree⟩ := walkable.roots position group last id declared linked
          rw [linked, Option.bind_some, inTree] at rooted
          cases rooted
      have nothing : tree.occupant? (.root position last) = none := by
        rw [HostingTree.occupant?_root declared, missing, Option.map_none]
      exact ⟨nothing, nothing.symm⟩
    | some root =>
      simp only [rooted] at stopped ⊢
      obtain ⟨id, _, inTree⟩ := Option.bind_eq_some_iff.mp rooted
      exact walkable.descend_of_stop inTree stopped

end Stop

end SiteRouting
