import Mathlib
import SiteRouting.Proofs.Build.WellFormed

namespace SiteRouting

def HostingTree.identifiers (tree : HostingTree) : List (String × MountId) :=
  (tree.mounts.toList.map fun mount => (mount.identifier, mount.id)).reverse

section Index

variable {index : MountIndex} {tree after : HostingTree}

theorem MountIndex.addAliases_byIdentifier {id : MountId} {keys : List AliasKey} :
    (index.addAliases tree id keys).1.byIdentifier = index.byIdentifier := by
  induction keys generalizing index with
  | nil => rfl
  | cons key rest ih =>
    have one : (index.addAlias tree id key).1.byIdentifier = index.byIdentifier := by
      unfold MountIndex.addAlias
      split <;> rfl
    exact ih.trans one

theorem MountIndex.byIdentifier_add (mount : Mount) :
    (index.add tree mount).1.byIdentifier = (mount.identifier, mount.id) :: index.byIdentifier :=
  congrArg (List.cons _) MountIndex.addAliases_byIdentifier

theorem HostingTree.identifiers_unlinked (tree : HostingTree) :
    tree.unlinked.identifiers = tree.identifiers := by
  rw [HostingTree.identifiers, HostingTree.unlinked, Array.toList_map, List.map_map]
  rfl

theorem HostingTree.identifiers_of_mounts (same : after.unlinked.mounts = tree.unlinked.mounts) :
    after.identifiers = tree.identifiers := by
  rw [← after.identifiers_unlinked, ← tree.identifiers_unlinked, HostingTree.identifiers, same]
  rfl

theorem HostingTree.identifiers_addMount {parent : Option MountId} {mount linked : Mount}
    (added : tree.addMount parent mount = .ok (after, linked)) :
    after.identifiers = (linked.identifier, linked.id) :: tree.identifiers := by
  rw [← after.identifiers_unlinked, (HostingTree.unlinked_addMount added).2, ← tree.identifiers_unlinked]
  simp only [HostingTree.identifiers, Array.toList_push, List.map_append, List.reverse_append]
  rfl

end Index

/-- The index has every mount of the arena under its identifier, the
newest first. -/
def BuildState.IdentifiersListed (state : BuildState) : Prop :=
  state.index.byIdentifier = state.tree.identifiers

section Run

variable {config : Configuration}

theorem Draft.Step.identifiersListed {before after : Draft} (step : Draft.Step config before after)
    (listed : before.state.IdentifiersListed) : after.state.IdentifiersListed := by
  cases step with
  | reported location faults => exact listed
  | groupAdded declared added =>
    have same := congrArg HostingTree.mounts (HostingTree.unlinked_addGroup added)
    exact listed.trans (HostingTree.identifiers_of_mounts same).symm
  | @hostsAdded state tree place parent last node labels declared held labelled added =>
    let Holds (tree : HostingTree) : Prop := tree.unlinked.mounts = state.tree.unlinked.mounts
    have start : Holds state.tree := rfl
    have same : Holds tree := by
      refine (HostingTree.addHostChain_preserves ?_ start held added).1
      intro current next above label linked holds placed member one
      exact (congrArg HostingTree.mounts (HostingTree.unlinked_addHost one).2).trans holds
    exact listed.trans (HostingTree.identifiers_of_mounts same).symm
  | mountAdded location declared held free inherits derived added =>
    refine (MountIndex.byIdentifier_add _).trans ?_
    rw [listed]
    exact (HostingTree.identifiers_addMount added).symm
  | portBound held root added =>
    have same := congrArg HostingTree.mounts (HostingTree.unlinked_addPortMount added)
    exact listed.trans (HostingTree.identifiers_of_mounts same).symm

theorem Draft.Reaches.identifiersListed {before after : Draft} (reaches : Draft.Reaches config before after)
    (listed : before.state.IdentifiersListed) : after.state.IdentifiersListed := by
  induction reaches with
  | refl => exact listed
  | tail _ step ih => exact step.identifiersListed ih

end Run

theorem lookup_map_eq_find? {α : Type} (nodes : List α) (name : α → String) (id : α → Nat) (key : String) :
    (nodes.map fun node => (name node, id node)).lookup key = (nodes.find? (name · == key)).map id := by
  induction nodes with
  | nil => rfl
  | cons node rest ih =>
    rw [List.map_cons, List.lookup_cons, List.find?_cons, ih, BEq.comm (a := key)]
    cases name node == key <;> rfl

/-- An identifier leads to the last mount of the arena that has it. -/
theorem Configuration.mountByIdentifier_eq {config : Configuration} {policy : BuildPolicy}
    {generation : Nat} {registry : Registry} (built : config.build policy generation = .ok registry)
    (identifier : String) :
    registry.mountByIdentifier identifier =
      registry.tree.mounts.toList.reverse.find? (·.identifier == identifier) := by
  obtain ⟨state, assembled, _, rfl⟩ := Configuration.build_eq_ok_iff.mp built
  have shaped : state.tree.Shaped := .of_unlinked (Configuration.assemble_good assembled).shaped
  have listed : state.IdentifiersListed := (Configuration.assemble_reaches assembled).identifiersListed rfl
  have index : state.index.identified? identifier =
      (state.tree.mounts.toList.reverse.find? (·.identifier == identifier)).map (·.id) := by
    rw [MountIndex.identified?, listed, HostingTree.identifiers, ← List.map_reverse]
    exact lookup_map_eq_find? _ _ _ identifier
  change (state.index.identified? identifier).bind state.tree.mount? =
    state.tree.mounts.toList.reverse.find? (·.identifier == identifier)
  rw [index]
  cases found : state.tree.mounts.toList.reverse.find? (·.identifier == identifier) with
  | none => rfl
  | some mount =>
    have member : mount ∈ state.tree.mounts :=
      Array.mem_toList_iff.mp (List.mem_reverse.mp (List.mem_of_find?_eq_some found))
    obtain ⟨id, held⟩ := Array.mem_iff_getElem?.mp member
    have position : mount.id = id := (shaped.mounts id mount held).position
    rw [Option.map_some, Option.bind_some, HostingTree.mount?, position]
    exact held

end SiteRouting
