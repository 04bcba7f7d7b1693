import Mathlib
import SiteRouting.Proofs.Tree.Skeleton

namespace SiteRouting

def HostingTree.HasMount (tree : HostingTree) (id : MountId) : Prop :=
  ∃ mount, tree.unlinked.mounts[id]? = some mount

theorem HostingTree.HasMount.extends {tree after : HostingTree} {id : MountId}
    (has : tree.HasMount id) (grown : after.Extends tree) : after.HasMount id := by
  obtain ⟨mount, held⟩ := has
  exact ⟨mount, grown.mounts held⟩

theorem HostingTree.HasMount.lt_size {tree : HostingTree} {id : MountId} (has : tree.HasMount id) :
    id < tree.mounts.size := by
  obtain ⟨bare, held⟩ := has
  obtain ⟨mount, inTree, _⟩ := HostingTree.exists_mount held
  exact (Array.getElem?_eq_some_iff.mp inTree).1

/-- Every position that a look-up table holds is that of a mount of the
tree, in all three tables. -/
structure MountIndex.PointsInto (index : MountIndex) (tree : HostingTree) : Prop where
  byIdentifier : ∀ entry ∈ index.byIdentifier, tree.HasMount entry.2
  byGroup : ∀ entry ∈ index.byGroup, tree.HasMount entry.2
  byAlias : ∀ entry ∈ index.byAlias, tree.HasMount entry.2

section PointsInto

variable {index : MountIndex} {tree : HostingTree} {id : MountId}

theorem MountIndex.pointsInto_empty : MountIndex.PointsInto {} tree := by
  constructor <;> simp

theorem MountIndex.PointsInto.extends {after : HostingTree} (points : index.PointsInto tree)
    (grown : after.Extends tree) : index.PointsInto after where
  byIdentifier entry member := (points.byIdentifier entry member).extends grown
  byGroup entry member := (points.byGroup entry member).extends grown
  byAlias entry member := (points.byAlias entry member).extends grown

theorem MountIndex.PointsInto.addAlias (points : index.PointsInto tree) (has : tree.HasMount id)
    (key : AliasKey) : (index.addAlias tree id key).1.PointsInto tree := by
  unfold MountIndex.addAlias
  split
  · refine ⟨points.byIdentifier, points.byGroup, ?_⟩
    intro entry member
    rcases List.mem_append.mp member with old | new
    · exact points.byAlias entry old
    · rw [List.mem_singleton.mp new]
      exact has
  · exact points

theorem MountIndex.PointsInto.addAliases (points : index.PointsInto tree) (has : tree.HasMount id)
    (keys : List AliasKey) : (index.addAliases tree id keys).1.PointsInto tree := by
  induction keys generalizing index with
  | nil => exact points
  | cons key rest ih => exact ih (points.addAlias has key)

theorem MountIndex.PointsInto.addIdentifier (points : index.PointsInto tree) (has : tree.HasMount id)
    (identifier : String) : (index.addIdentifier identifier id).1.PointsInto tree := by
  refine ⟨?_, points.byGroup, points.byAlias⟩
  intro entry member
  rcases List.mem_cons.mp member with new | old
  · rw [new]
    exact has
  · exact points.byIdentifier entry old

theorem MountIndex.PointsInto.add {mount : Mount} (points : index.PointsInto tree)
    (has : tree.HasMount mount.id) : (index.add tree mount).1.PointsInto tree := by
  have grouped : MountIndex.PointsInto
      { index with byGroup := index.byGroup ++ [(mount.group, mount.id)] } tree := by
    refine ⟨points.byIdentifier, ?_, points.byAlias⟩
    intro entry member
    rcases List.mem_append.mp member with old | new
    · exact points.byGroup entry old
    · rw [List.mem_singleton.mp new]
      exact has
  exact (grouped.addAliases has mount.aliasKeys).addIdentifier has mount.identifier

end PointsInto

end SiteRouting
