import Mathlib
import SiteRouting.MountIndex

namespace SiteRouting

def Fault.isAliasConflict : Fault → Bool
  | .aliasConflict _ _ _ _ => true
  | _ => false

theorem Text.nodup_firstOccurrences (texts : List String) : (Text.firstOccurrences texts).Nodup := by
  induction texts with
  | nil => exact List.nodup_nil
  | cons text rest ih =>
    refine List.nodup_cons.mpr ⟨?_, ih.filter _⟩
    simp

theorem Mount.nodup_aliasKeys (mount : Mount) : mount.aliasKeys.Nodup := by
  unfold Mount.aliasKeys
  split
  · exact List.nodup_nil
  · refine (Text.nodup_firstOccurrences _).map ?_
    intro a b same
    cases same
    rfl

theorem Mount.mem_aliasKeys_iff {mount : Mount} {key : AliasKey} :
    key ∈ mount.aliasKeys ↔
      mount.group = key.group ∧ mount.aliasName = some key.aliasName ∧ key.mountType ∈ mount.types := by
  unfold Mount.aliasKeys
  split
  · rename_i unnamed
    simp [unnamed]
  · rename_i aliasName named
    obtain ⟨group, wanted, mountType⟩ := key
    simp only [List.mem_map, AliasKey.mk.injEq, named, Option.some.injEq]
    constructor
    · rintro ⟨type, member, sameGroup, sameAlias, rfl⟩
      exact ⟨sameGroup, sameAlias, member⟩
    · rintro ⟨sameGroup, sameAlias, member⟩
      exact ⟨mountType, member, sameGroup, sameAlias, rfl⟩

section Index

variable {index : MountIndex} {tree : HostingTree} {id : MountId} {key : AliasKey} {keys : List AliasKey}

theorem MountIndex.aliased?_addAlias (other : AliasKey) :
    (index.addAlias tree id key).1.aliased? other =
      (index.aliased? other).or (if other = key then some id else none) := by
  unfold MountIndex.addAlias
  split
  · simp only [MountIndex.aliased?, List.lookup_append, List.lookup]
    by_cases same : other = key
    · simp [same]
    · simp [same, beq_false_of_ne same]
  · rename_i winner taken
    by_cases same : other = key
    · rw [same, taken]
      rfl
    · simp [same]

theorem MountIndex.aliased?_addAliases (other : AliasKey) :
    (index.addAliases tree id keys).1.aliased? other =
      (index.aliased? other).or (if other ∈ keys then some id else none) := by
  induction keys generalizing index with
  | nil => simp [MountIndex.addAliases]
  | cons key rest ih =>
    rw [MountIndex.addAliases]
    dsimp only
    rw [ih, MountIndex.aliased?_addAlias, Option.or_assoc]
    by_cases same : other = key
    · simp [same]
    · simp [same]

/-- The fault of a key that is taken, with the mount that has it. -/
def MountIndex.taken? (index : MountIndex) (tree : HostingTree) (key : AliasKey) : Option Fault :=
  (index.aliased? key).map fun winner =>
    .aliasConflict key.group key.aliasName key.mountType
      (((tree.mount? winner).map tree.describeMount).getD "")

theorem MountIndex.addAlias_faults :
    (index.addAlias tree id key).2 = (index.taken? tree key).toList := by
  unfold MountIndex.addAlias MountIndex.taken?
  cases index.aliased? key <;> rfl

/-- Of different keys every one that is taken is reported, with the mount
that has had it first; those before it in the list do not count. -/
theorem MountIndex.addAliases_faults (distinct : keys.Nodup) :
    (index.addAliases tree id keys).2 = keys.filterMap (index.taken? tree) := by
  induction keys generalizing index with
  | nil => rfl
  | cons key rest ih =>
    obtain ⟨fresh, distinctRest⟩ := List.nodup_cons.mp distinct
    have unaffected : ∀ other ∈ rest,
        (index.addAlias tree id key).1.taken? tree other = index.taken? tree other := by
      intro other member
      have differs : other ≠ key := fun same => fresh (same ▸ member)
      rw [MountIndex.taken?, MountIndex.aliased?_addAlias, if_neg differs, Option.or_none]
      rfl
    rw [MountIndex.addAliases]
    dsimp only
    rw [ih distinctRest, MountIndex.addAlias_faults, List.filterMap_congr unaffected,
      List.filterMap_cons]
    cases index.taken? tree key <;> rfl

theorem MountIndex.addAliases_byGroup : (index.addAliases tree id keys).1.byGroup = index.byGroup := by
  induction keys generalizing index with
  | nil => rfl
  | cons key rest ih =>
    have one : (index.addAlias tree id key).1.byGroup = index.byGroup := by
      unfold MountIndex.addAlias
      split <;> rfl
    exact ih.trans one

theorem MountIndex.aliased?_add (mount : Mount) (key : AliasKey) :
    (index.add tree mount).1.aliased? key =
      (index.aliased? key).or (if key ∈ mount.aliasKeys then some mount.id else none) :=
  MountIndex.aliased?_addAliases key

theorem MountIndex.byGroup_add (mount : Mount) :
    (index.add tree mount).1.byGroup = index.byGroup ++ [(mount.group, mount.id)] :=
  MountIndex.addAliases_byGroup

theorem MountIndex.isAliasConflict_of_taken {fault : Fault} (taken : index.taken? tree key = some fault) :
    fault.isAliasConflict = true := by
  obtain ⟨winner, _, rfl⟩ := Option.map_eq_some_iff.mp taken
  rfl

/-- The alias conflicts of a mount are those of its keys that are taken. -/
theorem MountIndex.add_aliasConflicts (mount : Mount) :
    (index.add tree mount).2.filter (·.isAliasConflict) =
      mount.aliasKeys.filterMap (index.taken? tree) := by
  have identified : ∀ (index : MountIndex) (identifier : String),
      (index.addIdentifier identifier mount.id).2.filter (·.isAliasConflict) = [] := by
    intro index identifier
    unfold MountIndex.addIdentifier
    dsimp only
    split <;> rfl
  let grouped := { index with byGroup := index.byGroup ++ [(mount.group, mount.id)] }
  have aliased : ((grouped.addAliases tree mount.id mount.aliasKeys).2.filter (·.isAliasConflict)) =
      mount.aliasKeys.filterMap (grouped.taken? tree) := by
    rw [MountIndex.addAliases_faults mount.nodup_aliasKeys, List.filter_eq_self]
    intro fault member
    obtain ⟨key, _, taken⟩ := List.mem_filterMap.mp member
    exact MountIndex.isAliasConflict_of_taken taken
  rw [MountIndex.add]
  dsimp only
  rw [List.filter_append, identified, List.append_nil]
  exact aliased

end Index

end SiteRouting
