import Mathlib
import SiteRouting.Proofs.Lookup.IdentifierConflicts
import SiteRouting.Proofs.Lookup.Isolation

namespace SiteRouting

/-- Whether a mount has the identifier of one that stands before it in
the arena. -/
def HostingTree.repeatsIdentifier (tree : HostingTree) (mount : Mount) : Bool :=
  tree.mounts.toList.any fun other => decide (other.id < mount.id) && other.identifier == mount.identifier

/-- An issue for each mount that has the identifier of an earlier one. -/
def HostingTree.identifierConflicts (tree : HostingTree) (lineages : List MountLineage) : List Issue :=
  (tree.mounts.toList.zip lineages).flatMap fun (mount, lineage) =>
    issuesAt lineage.location
      (if tree.repeatsIdentifier mount then [.duplicateIdentifier mount.identifier] else [])

/-- What the tables of a registry say about the mounts of its tree. Between
them the host groups list every mount once, in the order of the arena; an
identifier leads to the last mount that has it, and every mount that comes
with the identifier of an earlier one is reported in its place. -/
structure Registry.Tabulates (registry : Registry) (config : Configuration) : Prop where
  -- The arena has the mounts in declared order, each one before those below it.
  declared : registry.tree.Shows config config.prune.kept.hostLineages config.prune.kept.mountLineages
  distinctMounts : registry.tree.mounts.toList.Nodup
  distinctGroups : (config.hostGroups.map (·.name)).Nodup
  ofGroup : ∀ name, registry.mountsOfGroup name = registry.tree.mounts.toList.filter (·.group == name)
  ofNoGroup : ∀ name, name ∉ config.hostGroups.map (·.name) → registry.mountsOfGroup name = []
  ofAllGroups : ((config.hostGroups.map (·.name)).flatMap registry.mountsOfGroup).Perm
    registry.tree.mounts.toList
  identified_iff : ∀ identifier mount, registry.mountByIdentifier identifier = some mount ↔
    mount ∈ registry.tree.mounts ∧ mount.identifier = identifier ∧
      ∀ other ∈ registry.tree.mounts, other.identifier = identifier → other.id ≤ mount.id
  unidentified_iff : ∀ identifier, registry.mountByIdentifier identifier = none ↔
    ∀ mount ∈ registry.tree.mounts, mount.identifier ≠ identifier
  conflicts : registry.issues.filter (·.fault.isDuplicateIdentifier) =
    registry.tree.identifierConflicts config.prune.kept.mountLineages
  warnings : ∀ issue ∈ registry.tree.identifierConflicts config.prune.kept.mountLineages,
    issue.severity = .warning
  conflictCount : (registry.tree.identifierConflicts config.prune.kept.mountLineages).length +
    registry.tree.identifierTexts.toFinset.card = registry.tree.mounts.size

section Texts

theorem length_repeatedTexts (texts : List String) :
    (repeatedTexts [] texts).length + texts.toFinset.card = texts.length := by
  induction texts using List.reverseRecOn with
  | nil => rfl
  | append_singleton front last ih =>
    have union : (front ++ [last]).toFinset = insert last front.toFinset := by
      rw [List.toFinset_append, Finset.union_comm]
      rfl
    rw [repeatedTexts_concat, union, List.length_append, List.length_append, List.length_singleton]
    by_cases earlier : last ∈ front
    · rw [if_pos (Or.inr earlier), List.length_singleton,
        Finset.insert_eq_of_mem (List.mem_toFinset.mpr earlier)]
      omega
    · rw [if_neg (by simpa using earlier), List.length_nil,
        Finset.card_insert_of_notMem (by simpa using earlier)]
      omega

/-- Sorted by different names that cover all of them, the nodes of a list
are all there, once each. -/
theorem flatMap_filter_perm {α : Type} (name : α → String) {names : List String} {nodes : List α}
    (distinct : names.Nodup) (covered : ∀ node ∈ nodes, name node ∈ names) :
    (names.flatMap fun wanted => nodes.filter (name · == wanted)).Perm nodes := by
  induction names generalizing nodes with
  | nil =>
    have nobody : nodes = [] := List.eq_nil_iff_forall_not_mem.mpr fun node member => by
      simpa using covered node member
    rw [nobody]
    rfl
  | cons first rest ih =>
    obtain ⟨once, distinctRest⟩ := List.nodup_cons.mp distinct
    let others := nodes.filter fun node => !(name node == first)
    have coveredOthers : ∀ node ∈ others, name node ∈ rest := by
      intro node member
      obtain ⟨inNodes, differs⟩ := List.mem_filter.mp member
      exact (List.mem_cons.mp (covered node inNodes)).resolve_left (by simpa using differs)
    -- The others of a later name are all nodes of that name.
    have later : ∀ wanted ∈ rest, nodes.filter (name · == wanted) = others.filter (name · == wanted) := by
      intro wanted inRest
      have apart : wanted ≠ first := fun same => once (same ▸ inRest)
      rw [List.filter_filter]
      refine List.filter_congr fun node _ => ?_
      by_cases isWanted : name node = wanted
      · simp [isWanted, apart]
      · simp [isWanted]
    rw [List.flatMap_cons, List.flatMap_congr later]
    exact ((ih distinctRest coveredOthers).append_left _).trans (List.filter_append_perm _ nodes)

end Texts

section Conflicts

variable {tree after : HostingTree} {lineages : List MountLineage} {lineage : MountLineage} {mount : Mount}

theorem HostingTree.repeatsIdentifier_iff :
    tree.repeatsIdentifier mount = true ↔
      ∃ other ∈ tree.mounts, other.id < mount.id ∧ other.identifier = mount.identifier := by
  simp only [HostingTree.repeatsIdentifier, List.any_eq_true, Array.mem_toList_iff, Bool.and_eq_true,
    decide_eq_true_eq, beq_iff_eq]

theorem HostingTree.identifierConflicts_unlinked (lineages : List MountLineage) :
    tree.unlinked.identifierConflicts lineages = tree.identifierConflicts lineages := by
  have mounts : tree.unlinked.mounts.toList = tree.mounts.toList.map Mount.unlinked := by
    rw [HostingTree.unlinked, Array.toList_map]
  have repeats (mount : Mount) : tree.unlinked.repeatsIdentifier mount.unlinked =
      tree.repeatsIdentifier mount := by
    rw [HostingTree.repeatsIdentifier, mounts, List.any_map]
    rfl
  rw [HostingTree.identifierConflicts, mounts, List.zip_map_left, List.flatMap_map,
    HostingTree.identifierConflicts]
  refine List.flatMap_congr fun entry _ => ?_
  obtain ⟨mount, lineage⟩ := entry
  dsimp only [Prod.map]
  rw [repeats]
  rfl

theorem HostingTree.identifierTexts_unlinked (tree : HostingTree) :
    tree.unlinked.identifierTexts = tree.identifierTexts := by
  rw [HostingTree.identifierTexts, HostingTree.unlinked, Array.toList_map, List.map_map]
  rfl

theorem HostingTree.identifierConflicts_of_mounts (same : after.unlinked.mounts = tree.unlinked.mounts) :
    after.identifierConflicts lineages = tree.identifierConflicts lineages := by
  rw [← after.identifierConflicts_unlinked, ← tree.identifierConflicts_unlinked]
  simp only [HostingTree.identifierConflicts, HostingTree.repeatsIdentifier, same]
  rfl

/-- A mount behind the others is no conflict for them, and is one itself
if its identifier is there. -/
theorem HostingTree.identifierConflicts_push (grown : after.mounts = tree.mounts.push mount)
    (isLast : ∀ other ∈ tree.mounts, other.id < mount.id) (counted : tree.mounts.size = lineages.length) :
    after.identifierConflicts (lineages ++ [lineage]) =
      tree.identifierConflicts lineages ++ issuesAt lineage.location
        (if mount.identifier ∈ tree.identifierTexts then [.duplicateIdentifier mount.identifier] else []) := by
  have lengths : tree.mounts.toList.length = lineages.length := by simpa using counted
  have repeats : after.repeatsIdentifier mount = true ↔ mount.identifier ∈ tree.identifierTexts := by
    rw [HostingTree.repeatsIdentifier_iff, grown, HostingTree.identifierTexts, List.mem_map]
    constructor
    · rintro ⟨other, member, before, same⟩
      rcases Array.mem_push.mp member with earlier | rfl
      · exact ⟨other, Array.mem_toList_iff.mpr earlier, same⟩
      · exact absurd before (lt_irrefl _)
    · rintro ⟨other, member, same⟩
      have earlier := Array.mem_toList_iff.mp member
      exact ⟨other, Array.mem_push.mpr (Or.inl earlier), isLast other earlier, same⟩
  rw [HostingTree.identifierConflicts, grown, Array.toList_push, List.zip_append lengths,
    List.flatMap_append]
  congr 1
  · refine List.flatMap_congr fun entry member => ?_
    obtain ⟨other, told⟩ := entry
    have behind := not_lt_of_gt (isLast other (Array.mem_toList_iff.mp (List.of_mem_zip member).1))
    dsimp only
    rw [HostingTree.repeatsIdentifier, grown, Array.toList_push, List.any_append]
    simp [HostingTree.repeatsIdentifier, behind]
  · simp [repeats]

end Conflicts

/-- Every repeated identifier is reported in the place of the mount
that repeats it. -/
def TwinBuild.ReportsRepeated (twin : TwinBuild) : Prop :=
  twin.issues.filter (·.fault.isDuplicateIdentifier) = twin.tree.identifierConflicts twin.mounts

section Step

variable {config : Configuration} {before after : TwinBuild}

theorem AreNotes.filter_duplicateIssues {faults : List Fault} (notes : AreNotes faults) (location : String) :
    (issuesAt location faults).filter (·.fault.isDuplicateIdentifier) = [] :=
  filter_issuesAt_eq_nil location fun fault member =>
    Fault.isDuplicateIdentifier_eq_false (notes fault member).2

theorem TwinBuild.Shown.mount_id_lt (shown : before.Shown config) :
    ∀ mount ∈ before.tree.unlinked.mounts, mount.id < before.tree.unlinked.mounts.size := by
  intro mount member
  obtain ⟨id, held⟩ := Array.mem_iff_getElem?.mp member
  obtain ⟨_, _, _, position, _⟩ := shown.mount id mount held
  exact position ▸ (Array.getElem?_eq_some_iff.mp held).1

theorem TwinBuild.ReportsRepeated.of_mounts (reports : before.ReportsRepeated)
    (issues : after.issues.filter (·.fault.isDuplicateIdentifier) =
      before.issues.filter (·.fault.isDuplicateIdentifier))
    (lineages : after.mounts = before.mounts)
    (mounts : after.tree.unlinked.mounts = before.tree.unlinked.mounts) : after.ReportsRepeated := by
  rw [TwinBuild.ReportsRepeated, issues, lineages, HostingTree.identifierConflicts_of_mounts mounts]
  exact reports

theorem TwinBuild.ReportsRepeated.addMount {tree : HostingTree} {place : MountPlace} {above : MountLineage}
    {own : MountSettings} {content : ContentPaths} {warnings : List Fault} {mount : Mount}
    (reports : before.ReportsRepeated) (identified : before.Identified) (shown : before.Shown config)
    (derived : ((above.below own).properties config.hosts).contentPaths config.sites =
      .ok (content, warnings))
    (added : before.tree.addMount (place.parent.map (·.id))
      (place.detachedMount own ((above.below own).properties config.hosts) content) = .ok (tree, mount)) :
    (before.withMount tree mount (above.below own) (own.faults ++ warnings)).ReportsRepeated := by
  obtain ⟨same, grown⟩ := HostingTree.unlinked_addMount added
  have notes := (NodeSettings.areNotes_faults own.toNodeSettings).append
    (MountProperties.contentPaths_warnings derived)
  have quiet : (own.faults ++ warnings).filter (·.isDuplicateIdentifier) = [] := notes.filter_duplicates
  have mounts : tree.unlinked.mounts = before.tree.unlinked.mounts.push mount.unlinked := by rw [grown]
  have isLast : ∀ other ∈ before.tree.unlinked.mounts, other.id < mount.unlinked.id := by
    intro other member
    have position : mount.unlinked.id = before.tree.unlinked.mounts.size := by
      simp [same, HostingTree.unlinked, Mount.unlinked]
    rw [position]
    exact shown.mount_id_lt other member
  have listed : mount.identifier ∈ before.index.byIdentifier.map (·.1) ↔
      mount.unlinked.identifier ∈ before.tree.unlinked.identifierTexts := by
    rw [identified.listed, HostingTree.map_identifiers, List.mem_reverse, HostingTree.identifierTexts_unlinked]
    rfl
  rw [TwinBuild.ReportsRepeated, ← HostingTree.identifierConflicts_unlinked]
  simp only [TwinBuild.withMount, TwinBuild.note]
  rw [HostingTree.identifierConflicts_push mounts isLast shown.mountCount, List.filter_append, reports,
    filter_issuesAt, List.filter_append, quiet, List.nil_append, MountIndex.add_duplicates,
    HostingTree.identifierConflicts_unlinked]
  simp only [listed]
  rfl

theorem TwinBuild.Step.reportsRepeated (step : TwinBuild.Step config before after)
    (shown : before.Shown config) (identified : before.Identified) (reports : before.ReportsRepeated) :
    after.ReportsRepeated := by
  cases step with
  | noted location notes =>
    refine reports.of_mounts ?_ rfl rfl
    rw [TwinBuild.note, List.filter_append, notes.filter_duplicateIssues, List.append_nil]
  | @skipped faults cut notes severe =>
    refine reports.of_mounts ?_ rfl rfl
    have quiet : ∀ fault ∈ faults ++ [cut.issue.fault], fault.isDuplicateIdentifier = false := by
      intro fault member
      rcases List.mem_append.mp member with isNote | isCut
      · exact Fault.isDuplicateIdentifier_eq_false (notes fault isNote).2
      · rw [List.mem_singleton] at isCut
        subst isCut
        cases isFault : cut.issue.fault <;> first | rfl | (rw [isFault] at severe; cases severe)
    rw [TwinBuild.skip, List.filter_append, filter_issuesAt_eq_nil _ quiet, List.append_nil]
  | groupAdded added =>
    have same := congrArg HostingTree.mounts (HostingTree.unlinked_addGroup added)
    exact reports.of_mounts rfl rfl same
  | hostAdded placed entered added =>
    have same := congrArg HostingTree.mounts (HostingTree.unlinked_addHost added).2
    exact reports.of_mounts rfl rfl same
  | mountAdded placed derived added => exact reports.addMount identified shown derived added
  | portBound added =>
    have same := congrArg HostingTree.mounts (HostingTree.unlinked_addPortMount added)
    exact reports.of_mounts rfl rfl same

theorem TwinBuild.Reaches.reportsRepeated (reaches : TwinBuild.Reaches config before after)
    (shown : before.Shown config) (identified : before.Identified) (reports : before.ReportsRepeated) :
    after.ReportsRepeated := by
  induction reaches with
  | refl => exact reports
  | tail earlier step ih =>
    have stillShown := TwinBuild.Reaches.shown earlier shown
    exact step.reportsRepeated stillShown (TwinBuild.Reaches.identified earlier identified) ih

end Step

section Registry

variable {config : Configuration} {policy : BuildPolicy} {generation : Nat} {registry : Registry}
  {tree : HostingTree} {hosts : List HostLineage} {mounts : List MountLineage}

theorem HostingTree.Shows.pairwise_id_lt (shown : tree.Shows config hosts mounts) :
    tree.mounts.toList.Pairwise (·.id < ·.id) := by
  rw [List.pairwise_iff_getElem]
  intro i j inRange inRangeToo before
  have position (k : Nat) (within : k < tree.mounts.toList.length) : tree.mounts.toList[k].id = k := by
    obtain ⟨_, _, _, same, _⟩ := shown.mount k tree.mounts.toList[k] (by simp)
    exact same
  rw [position i inRange, position j inRangeToo]
  exact before

/-- With the nodes in order, the first one found from behind is the
last one of all. -/
theorem find?_reverse_eq_some_iff {nodes : List Mount} {wanted : Mount → Bool} {mount : Mount}
    (sorted : nodes.Pairwise (·.id < ·.id)) :
    nodes.reverse.find? wanted = some mount ↔
      mount ∈ nodes ∧ wanted mount = true ∧ ∀ other ∈ nodes, wanted other = true → other.id ≤ mount.id := by
  have isLast {mount : Mount} (found : nodes.reverse.find? wanted = some mount) :
      ∀ other ∈ nodes, wanted other = true → other.id ≤ mount.id := by
    obtain ⟨_, behind, before, split, skipped⟩ := List.find?_eq_some_iff_append.mp found
    have ordered := List.pairwise_reverse.mpr sorted
    rw [split] at ordered
    have earlier := (List.pairwise_cons.mp (List.pairwise_append.mp ordered).2.1).1
    intro other member isWanted
    rw [← List.mem_reverse, split] at member
    rcases List.mem_append.mp member with isBehind | isHere
    · have unwanted := skipped other isBehind
      rw [isWanted] at unwanted
      cases unwanted
    · rcases List.mem_cons.mp isHere with rfl | isBefore
      · exact le_rfl
      · exact (earlier other isBefore).le
  constructor
  · intro found
    exact ⟨List.mem_reverse.mp (List.mem_of_find?_eq_some found), List.find?_some found, isLast found⟩
  · rintro ⟨member, isWanted, last⟩
    cases found : nodes.reverse.find? wanted with
    | none =>
      exact absurd isWanted (List.find?_eq_none.mp found mount (List.mem_reverse.mpr member))
    | some other =>
      have inNodes := List.mem_reverse.mp (List.mem_of_find?_eq_some found)
      have sameId := le_antisymm (last other inNodes (List.find?_some found)) (isLast found mount member isWanted)
      have apart : (nodes.map (·.id)).Nodup := List.pairwise_map.mpr (sorted.imp fun before => before.ne)
      rw [List.inj_on_of_nodup_map apart inNodes member sameId]

theorem Configuration.nodup_groups_of_build (built : config.build policy generation = .ok registry) :
    (config.hostGroups.map (·.name)).Nodup := by
  obtain ⟨state, assembled, _, _⟩ := Configuration.build_eq_ok_iff.mp built
  have nodup := (Configuration.names_of_assemble assembled).nodup_iff.mp
    (Configuration.assemble_good assembled).named_tree.nodup
  exact (config.nodup_names_iff.mp nodup).1

theorem Configuration.group_mem_of_build (built : config.build policy generation = .ok registry) :
    ∀ mount ∈ registry.tree.mounts, mount.group ∈ config.hostGroups.map (·.name) := by
  obtain ⟨state, assembled, _, rfl⟩ := Configuration.build_eq_ok_iff.mp built
  intro mount member
  obtain ⟨group, declared, name⟩ := Configuration.exists_group_of_mount assembled member
  exact List.mem_map.mpr ⟨group, declared, name⟩

theorem Configuration.build_reports_repeated (built : config.build policy generation = .ok registry) :
    registry.issues.filter (·.fault.isDuplicateIdentifier) =
      registry.tree.identifierConflicts config.prune.kept.mountLineages := by
  obtain ⟨state, assembled, _, rfl⟩ := Configuration.build_eq_ok_iff.mp built
  obtain ⟨after, runs, rfl, _⟩ := Configuration.assemble_twin assembled
  have reports : after.ReportsRepeated :=
    runs.reaches.reportsRepeated HostingTree.shows_empty ⟨rfl, rfl⟩ rfl
  have mounts : after.mounts = config.prune.kept.mountLineages := runs.mounts
  rw [TwinBuild.ReportsRepeated, mounts] at reports
  exact reports

theorem Configuration.length_conflicts_of_build (built : config.build policy generation = .ok registry) :
    (registry.tree.identifierConflicts config.prune.kept.mountLineages).length +
      registry.tree.identifierTexts.toFinset.card = registry.tree.mounts.size := by
  have faults := congrArg List.length (Configuration.build_duplicates built)
  rw [List.filter_map, List.length_map, List.length_map] at faults
  have issues := congrArg List.length (Configuration.build_reports_repeated built)
  have all := length_repeatedTexts registry.tree.identifierTexts
  have size : registry.tree.identifierTexts.length = registry.tree.mounts.size := by
    simp [HostingTree.identifierTexts]
  rw [← issues, ← size, ← all, ← faults]
  rfl

/-- The host groups of an accepted build list all mounts of its tree, each one
once and in order; an identifier leads to the last mount with it; and there is
one warning for every mount that is not the first with its identifier. -/
theorem Configuration.build_tabulates (built : config.build policy generation = .ok registry) :
    registry.Tabulates config := by
  have shown := Configuration.build_shows built
  have sorted := shown.pairwise_id_lt
  have conflicts := Configuration.build_reports_repeated built
  have inGroup := Configuration.group_mem_of_build built
  have distinctGroups := Configuration.nodup_groups_of_build built
  have ofGroup := Configuration.mountsOfGroup_eq built
  constructor
  case declared => exact shown
  case distinctMounts => exact sorted.imp fun before same => before.ne (congrArg Mount.id same)
  case distinctGroups => exact distinctGroups
  case ofGroup => exact ofGroup
  case ofNoGroup =>
    intro name unknown
    rw [ofGroup, List.filter_eq_nil_iff]
    intro mount member same
    have declared := inGroup mount (Array.mem_toList_iff.mp member)
    rw [beq_iff_eq.mp same] at declared
    exact unknown declared
  case ofAllGroups =>
    rw [funext ofGroup]
    exact flatMap_filter_perm (·.group) distinctGroups fun mount member =>
      inGroup mount (Array.mem_toList_iff.mp member)
  case identified_iff =>
    intro identifier mount
    rw [Configuration.mountByIdentifier_eq built, find?_reverse_eq_some_iff sorted]
    simp only [beq_iff_eq, Array.mem_toList_iff]
  case unidentified_iff =>
    intro identifier
    rw [Configuration.mountByIdentifier_eq built, List.find?_eq_none]
    simp only [List.mem_reverse, beq_iff_eq, Array.mem_toList_iff]
  case conflicts => exact conflicts
  case warnings =>
    intro issue member
    rw [← conflicts] at member
    have isDuplicate := (List.mem_filter.mp member).2
    obtain ⟨location, fault⟩ := issue
    cases fault <;> first | rfl | cases isDuplicate
  case conflictCount => exact Configuration.length_conflicts_of_build built

end Registry

/-- Three mounts of two groups that share an identifier, and one more
behind a node that is left out. -/
def sharedIdentifierSite : Configuration where
  hostGroups := [
    { name := "prod"
      hosts := [.node { name := "com" }
        (some (.node { identifier := some "home" } [
          .node { name := "news", identifier := some "home" } [],
          .node { name := "news", identifier := some "lost" } [],
          .node { name := "shop", identifier := some "shop" } []])) [] []] },
    { name := "test"
      hosts := [.node { name := "org" } (some (.node { identifier := some "home" } [])) [] []] }]

theorem sharedIdentifierSite_tabulated :
    ∃ registry, sharedIdentifierSite.build .lenient 1 = .ok registry ∧
      registry.Tabulates sharedIdentifierSite ∧
      ["prod", "test", "dev"].map (fun name => (registry.mountsOfGroup name).map (·.mountPath)) =
        [["", "/news", "/shop"], [""], []] ∧
      ["home", "lost"].map (fun identifier => (registry.mountByIdentifier identifier).map (·.group)) =
        [some "test", none] ∧
      registry.issues.filter (·.fault.isDuplicateIdentifier) =
        [⟨"prod/com:0/hst:root/news", .duplicateIdentifier "home"⟩,
          ⟨"test/org:0/hst:root", .duplicateIdentifier "home"⟩] := by
  have shown : (sharedIdentifierSite.build .lenient 1).toOption.map (fun registry =>
      (["prod", "test", "dev"].map (fun name => (registry.mountsOfGroup name).map (·.mountPath)),
        ["home", "lost"].map (fun identifier => (registry.mountByIdentifier identifier).map (·.group)),
        registry.issues.filter (·.fault.isDuplicateIdentifier))) =
      some ([["", "/news", "/shop"], [""], []], [some "test", none],
        [⟨"prod/com:0/hst:root/news", .duplicateIdentifier "home"⟩,
          ⟨"test/org:0/hst:root", .duplicateIdentifier "home"⟩]) := by
    decide +kernel
  obtain ⟨registry, built, viewed⟩ := Configuration.build_of_view shown
  obtain ⟨groups, rest⟩ := Prod.mk.inj viewed
  obtain ⟨identifiers, reported⟩ := Prod.mk.inj rest
  exact ⟨registry, built, Configuration.build_tabulates built, groups, identifiers, reported⟩

end SiteRouting
