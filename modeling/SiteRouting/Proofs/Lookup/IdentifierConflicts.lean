import Mathlib
import SiteRouting.Proofs.Build.Correspondence
import SiteRouting.Proofs.Lookup.Identifiers

namespace SiteRouting

def Fault.isDuplicateIdentifier : Fault → Bool
  | .duplicateIdentifier _ => true
  | _ => false

/-- The texts of a list that stand earlier in it too, or among the given ones. -/
def repeatedTexts (earlier : List String) : List String → List String
  | [] => []
  | text :: rest => (if text ∈ earlier then [text] else []) ++ repeatedTexts (text :: earlier) rest

theorem repeatedTexts_concat (earlier texts : List String) (last : String) :
    repeatedTexts earlier (texts ++ [last]) =
      repeatedTexts earlier texts ++ if last ∈ earlier ∨ last ∈ texts then [last] else [] := by
  induction texts generalizing earlier with
  | nil => simp [repeatedTexts]
  | cons text rest ih =>
    have same : (last ∈ text :: earlier ∨ last ∈ rest) ↔ (last ∈ earlier ∨ last ∈ text :: rest) := by
      simp only [List.mem_cons]
      tauto
    rw [List.cons_append, repeatedTexts, ih, repeatedTexts, List.append_assoc]
    simp only [same]

theorem repeatedTexts_eq_nil {earlier texts : List String} (distinct : texts.Nodup)
    (fresh : ∀ text ∈ texts, text ∉ earlier) : repeatedTexts earlier texts = [] := by
  induction texts generalizing earlier with
  | nil => rfl
  | cons text rest ih =>
    obtain ⟨once, distinctRest⟩ := List.nodup_cons.mp distinct
    rw [repeatedTexts, if_neg (fresh text List.mem_cons_self), List.nil_append]
    refine ih distinctRest fun other member => ?_
    have differs : other ≠ text := fun same => once (same ▸ member)
    exact List.not_mem_cons_of_ne_of_not_mem differs (fresh other (List.mem_cons_of_mem _ member))

section Index

variable {index : MountIndex} {tree : HostingTree}

theorem MountIndex.addAliases_noDuplicates (id : MountId) (keys : List AliasKey) :
    (index.addAliases tree id keys).2.filter (·.isDuplicateIdentifier) = [] := by
  induction keys generalizing index with
  | nil => rfl
  | cons key rest ih =>
    have one : (index.addAlias tree id key).2.filter (·.isDuplicateIdentifier) = [] := by
      unfold MountIndex.addAlias
      split <;> rfl
    rw [MountIndex.addAliases]
    dsimp only
    rw [List.filter_append, one, ih, List.append_nil]

theorem MountIndex.add_duplicates (mount : Mount) :
    (index.add tree mount).2.filter (·.isDuplicateIdentifier) =
      if mount.identifier ∈ index.byIdentifier.map (·.1) then [.duplicateIdentifier mount.identifier]
      else [] := by
  let grouped := { index with byGroup := index.byGroup ++ [(mount.group, mount.id)] }
  have listed : ((grouped.addAliases tree mount.id mount.aliasKeys).1.identified? mount.identifier).isSome ↔
      mount.identifier ∈ index.byIdentifier.map (·.1) := by
    rw [MountIndex.identified?, MountIndex.addAliases_byIdentifier, List.lookup_isSome_iff]
    simp only [List.mem_map, beq_iff_eq]
    exact exists_congr fun entry => and_congr_right fun _ => eq_comm
  rw [MountIndex.add]
  dsimp only
  rw [List.filter_append, MountIndex.addAliases_noDuplicates, List.nil_append, MountIndex.addIdentifier]
  dsimp only
  simp only [grouped] at listed
  simp only [listed]
  split <;> rfl

end Index

def HostingTree.identifierTexts (tree : HostingTree) : List String :=
  tree.mounts.toList.map (·.identifier)

theorem HostingTree.map_identifiers (tree : HostingTree) :
    tree.identifiers.map (·.1) = tree.identifierTexts.reverse := by
  rw [HostingTree.identifiers, HostingTree.identifierTexts, List.map_reverse, List.map_map]
  rfl

/-- The index has every mount under its identifier, and each mount that comes
with the identifier of an earlier one is reported, by that identifier. -/
structure TwinBuild.Identified (twin : TwinBuild) : Prop where
  listed : twin.index.byIdentifier = twin.tree.identifiers
  reported : (twin.issues.map (·.fault)).filter (·.isDuplicateIdentifier) =
    (repeatedTexts [] twin.tree.identifierTexts).map .duplicateIdentifier

section Step

variable {config : Configuration} {before after : TwinBuild}

theorem Fault.isDuplicateIdentifier_eq_false {fault : Fault} (noConflict : fault.isConflict = false) :
    fault.isDuplicateIdentifier = false := by
  cases fault <;> first | rfl | cases noConflict

theorem AreNotes.filter_duplicates {faults : List Fault} (notes : AreNotes faults) :
    faults.filter (·.isDuplicateIdentifier) = [] :=
  List.filter_eq_nil_iff.mpr fun fault member =>
    Bool.eq_false_iff.mp (Fault.isDuplicateIdentifier_eq_false (notes fault member).2)

theorem map_fault_issuesAt (location : String) (faults : List Fault) :
    (issuesAt location faults).map (·.fault) = faults := by
  rw [issuesAt, List.map_map]
  exact List.map_id faults

theorem TwinBuild.Identified.of_mounts (identified : before.Identified) (index : after.index = before.index)
    (issues : (after.issues.map (·.fault)).filter (·.isDuplicateIdentifier) =
      (before.issues.map (·.fault)).filter (·.isDuplicateIdentifier))
    (mounts : after.tree.unlinked.mounts = before.tree.unlinked.mounts) : after.Identified := by
  have same := HostingTree.identifiers_of_mounts mounts
  have texts : after.tree.identifierTexts = before.tree.identifierTexts := by
    rw [← List.reverse_inj, ← HostingTree.map_identifiers, same, HostingTree.map_identifiers]
  refine ⟨?_, ?_⟩
  · rw [index, same, identified.listed]
  · rw [issues, texts, identified.reported]

theorem TwinBuild.Step.identified (step : TwinBuild.Step config before after)
    (identified : before.Identified) : after.Identified := by
  cases step with
  | noted location notes =>
    refine identified.of_mounts rfl ?_ rfl
    rw [TwinBuild.note]
    simp only [List.map_append, map_fault_issuesAt, List.filter_append, notes.filter_duplicates,
      List.append_nil]
  | @skipped faults cut notes severe =>
    refine identified.of_mounts rfl ?_ rfl
    have noConflict : cut.issue.fault.isDuplicateIdentifier = false := by
      cases isFault : cut.issue.fault <;> first | rfl | (rw [isFault] at severe; cases severe)
    rw [TwinBuild.skip]
    simp [map_fault_issuesAt, notes.filter_duplicates, noConflict]
  | groupAdded added =>
    have same := congrArg HostingTree.mounts (HostingTree.unlinked_addGroup added)
    exact identified.of_mounts rfl rfl same
  | hostAdded placed entered added =>
    have same := congrArg HostingTree.mounts (HostingTree.unlinked_addHost added).2
    exact identified.of_mounts rfl rfl same
  | portBound added =>
    have same := congrArg HostingTree.mounts (HostingTree.unlinked_addPortMount added)
    exact identified.of_mounts rfl rfl same
  | @mountAdded tree place above own content warnings mount placed derived added =>
    have grown := HostingTree.identifiers_addMount added
    have notes := (NodeSettings.areNotes_faults own.toNodeSettings).append
      (MountProperties.contentPaths_warnings derived)
    have texts : tree.identifierTexts = before.tree.identifierTexts ++ [mount.identifier] := by
      rw [← List.reverse_inj, ← HostingTree.map_identifiers, grown, List.map_cons,
        HostingTree.map_identifiers]
      simp
    have listed : mount.identifier ∈ before.index.byIdentifier.map (·.1) ↔
        mount.identifier ∈ before.tree.identifierTexts := by
      rw [identified.listed, HostingTree.map_identifiers, List.mem_reverse]
    refine ⟨?_, ?_⟩
    · rw [TwinBuild.withMount, MountIndex.byIdentifier_add, identified.listed]
      exact grown.symm
    · have quiet : (own.faults ++ warnings).filter (·.isDuplicateIdentifier) = [] := notes.filter_duplicates
      simp only [TwinBuild.withMount, TwinBuild.note, List.map_append, map_fault_issuesAt,
        List.filter_append (own.faults ++ warnings), List.filter_append (before.issues.map _), quiet,
        MountIndex.add_duplicates, identified.reported, List.nil_append, texts, repeatedTexts_concat,
        listed, List.not_mem_nil, false_or]
      split <;> rfl

theorem TwinBuild.Reaches.identified (reaches : TwinBuild.Reaches config before after)
    (identified : before.Identified) : after.Identified := by
  induction reaches with
  | refl => exact identified
  | tail _ step ih => exact step.identified ih

end Step

/-- An accepted build reports an identifier once for each mount that has it
and is not the first one. -/
theorem Configuration.build_duplicates {config : Configuration} {policy : BuildPolicy} {generation : Nat}
    {registry : Registry} (built : config.build policy generation = .ok registry) :
    (registry.issues.map (·.fault)).filter (·.isDuplicateIdentifier) =
      (repeatedTexts [] registry.tree.identifierTexts).map .duplicateIdentifier := by
  obtain ⟨state, assembled, _, rfl⟩ := Configuration.build_eq_ok_iff.mp built
  obtain ⟨after, runs, rfl, _⟩ := Configuration.assemble_twin assembled
  have identified : after.Identified := runs.reaches.identified ⟨rfl, rfl⟩
  exact identified.reported

end SiteRouting
