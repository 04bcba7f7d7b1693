import Mathlib
import SiteRouting.Proofs.Build.Correspondence
import SiteRouting.Proofs.Lookup.AliasIndex

namespace SiteRouting

def HostingTree.firstHolder? (tree : HostingTree) (key : AliasKey) : Option Mount :=
  tree.mounts.toList.find? fun mount => mount.aliasKeys.contains key

/-- A mount that is not the first one with a key, and the one that is. -/
def HostingTree.aliasConflict? (tree : HostingTree) (mount : Mount) (key : AliasKey) : Option Fault :=
  match tree.firstHolder? key with
  | none => none
  | some winner =>
    if winner.id = mount.id then none
    else some (.aliasConflict key.group key.aliasName key.mountType (tree.describeMount winner))

/-- An issue for each mount and each of its keys that another mount had
first, together with the mount that it lost to. -/
def HostingTree.aliasConflicts (tree : HostingTree) (lineages : List MountLineage) : List Issue :=
  (tree.mounts.toList.zip lineages).flatMap fun (mount, lineage) =>
    issuesAt lineage.location (mount.aliasKeys.filterMap (tree.aliasConflict? mount))

section Grown

variable {tree after : HostingTree} {mount new : Mount} {key : AliasKey}

theorem HostingTree.mem_of_firstHolder? {winner : Mount} (first : tree.firstHolder? key = some winner) :
    winner ∈ tree.mounts :=
  Array.mem_toList_iff.mp (List.mem_of_find?_eq_some first)

/-- A mount with a key comes after the first one with it, or is that one. -/
theorem HostingTree.exists_firstHolder (member : mount ∈ tree.mounts) (has : key ∈ mount.aliasKeys) :
    ∃ winner, tree.firstHolder? key = some winner := by
  rw [← Option.isSome_iff_exists, HostingTree.firstHolder?, List.find?_isSome]
  exact ⟨mount, Array.mem_toList_iff.mpr member, by simpa using has⟩

theorem HostingTree.firstHolder?_push (grown : after.mounts = tree.mounts.push new) (key : AliasKey) :
    after.firstHolder? key =
      (tree.firstHolder? key).or (if key ∈ new.aliasKeys then some new else none) := by
  rw [HostingTree.firstHolder?, grown, Array.toList_push, List.find?_append]
  by_cases has : key ∈ new.aliasKeys
  · simp [HostingTree.firstHolder?, has]
  · simp [HostingTree.firstHolder?, has]

/-- Where the host of a mount is still in its place, the mount is
described as before. -/
theorem HostingTree.describeMount_of_hosts
    (kept : ∀ (id : Nat) (host : VirtualHost), tree.hosts[id]? = some host → after.hosts[id]? = some host)
    (hosted : ∃ host, tree.hosts[mount.host]? = some host) :
    after.describeMount mount = tree.describeMount mount := by
  obtain ⟨host, held⟩ := hosted
  simp only [HostingTree.describeMount, HostingTree.host?, held, kept _ _ held]

/-- Trees in which the first holders of a key and their hosts are the
same have the same conflicts. -/
theorem HostingTree.aliasConflict?_of_grown
    (kept : ∀ (id : Nat) (host : VirtualHost), tree.hosts[id]? = some host → after.hosts[id]? = some host)
    (hosted : ∀ winner ∈ tree.mounts, ∃ host, tree.hosts[winner.host]? = some host)
    (same : after.firstHolder? key = tree.firstHolder? key) :
    after.aliasConflict? mount key = tree.aliasConflict? mount key := by
  rw [HostingTree.aliasConflict?, HostingTree.aliasConflict?, same]
  cases first : tree.firstHolder? key with
  | none => rfl
  | some winner =>
    dsimp only
    rw [HostingTree.describeMount_of_hosts kept (hosted winner (HostingTree.mem_of_firstHolder? first))]

theorem HostingTree.aliasConflicts_of_hosts {lineages : List MountLineage}
    (kept : ∀ (id : Nat) (host : VirtualHost), tree.hosts[id]? = some host → after.hosts[id]? = some host)
    (hosted : ∀ winner ∈ tree.mounts, ∃ host, tree.hosts[winner.host]? = some host)
    (same : after.mounts = tree.mounts) :
    after.aliasConflicts lineages = tree.aliasConflicts lineages := by
  have conflict : ∀ mount key, after.aliasConflict? mount key = tree.aliasConflict? mount key := by
    intro mount key
    refine HostingTree.aliasConflict?_of_grown kept hosted ?_
    rw [HostingTree.firstHolder?, same, HostingTree.firstHolder?]
  have conflicts : after.aliasConflict? = tree.aliasConflict? := funext₂ conflict
  rw [HostingTree.aliasConflicts, HostingTree.aliasConflicts, same, conflicts]

theorem HostingTree.aliasConflicts_push {lineages : List MountLineage} {lineage : MountLineage}
    (grown : after.mounts = tree.mounts.push new) (hosts : after.hosts = tree.hosts)
    (hosted : ∀ winner ∈ tree.mounts, ∃ host, tree.hosts[winner.host]? = some host)
    (counted : tree.mounts.size = lineages.length) :
    after.aliasConflicts (lineages ++ [lineage]) =
      tree.aliasConflicts lineages ++
        issuesAt lineage.location (new.aliasKeys.filterMap (after.aliasConflict? new)) := by
  have lengths : tree.mounts.toList.length = lineages.length := by simpa using counted
  rw [HostingTree.aliasConflicts, grown, Array.toList_push, List.zip_append lengths, List.flatMap_append]
  congr 1
  · refine List.flatMap_congr fun (mount, lineage) member => ?_
    have inTree : mount ∈ tree.mounts := Array.mem_toList_iff.mp (List.of_mem_zip member).1
    dsimp only
    congr 1
    refine List.filterMap_congr fun key has => ?_
    obtain ⟨winner, first⟩ := HostingTree.exists_firstHolder inTree has
    refine HostingTree.aliasConflict?_of_grown (fun id host held => hosts ▸ held) hosted ?_
    rw [HostingTree.firstHolder?_push grown, first]
    rfl
  · simp

theorem HostingTree.aliasConflict?_new (grown : after.mounts = tree.mounts.push new)
    (isNew : ∀ winner ∈ tree.mounts, winner.id ≠ new.id) (has : key ∈ new.aliasKeys) :
    after.aliasConflict? new key = (tree.firstHolder? key).map fun winner =>
      .aliasConflict key.group key.aliasName key.mountType (after.describeMount winner) := by
  rw [HostingTree.aliasConflict?, HostingTree.firstHolder?_push grown, if_pos has]
  cases first : tree.firstHolder? key with
  | none => simp
  | some winner => simp [isNew winner (HostingTree.mem_of_firstHolder? first)]

end Grown

/-- The index and the issues of both builds follow from the mounts
that are linked. -/
structure TwinBuild.Indexed (twin : TwinBuild) : Prop where
  aliased : ∀ key, twin.index.aliased? key = (twin.tree.unlinked.firstHolder? key).map (·.id)
  grouped : twin.index.byGroup = twin.tree.unlinked.mounts.toList.map fun mount => (mount.group, mount.id)
  conflicts : twin.issues.filter (·.fault.isAliasConflict) =
    twin.tree.unlinked.aliasConflicts twin.mounts

section Step

variable {config : Configuration} {twin : TwinBuild}

theorem Fault.isAliasConflict_eq_false {fault : Fault} (noConflict : fault.isConflict = false) :
    fault.isAliasConflict = false := by
  cases fault <;> first | rfl | cases noConflict

theorem AreNotes.filter_aliasConflicts {faults : List Fault} (notes : AreNotes faults) (location : String) :
    (issuesAt location faults).filter (·.fault.isAliasConflict) = [] :=
  filter_issuesAt_eq_nil location fun fault member => Fault.isAliasConflict_eq_false (notes fault member).2

theorem TwinBuild.Shown.hosted (shown : twin.Shown config) :
    ∀ mount ∈ twin.tree.unlinked.mounts, ∃ host, twin.tree.unlinked.hosts[mount.host]? = some host := by
  intro mount member
  obtain ⟨id, held⟩ := Array.mem_iff_getElem?.mp member
  obtain ⟨lineage, _, _, _, _, _, hosted, _⟩ := shown.mount id mount held
  have within := (List.getElem?_eq_some_iff.mp hosted).1
  rw [← shown.hostCount] at within
  exact ⟨_, Array.getElem?_eq_getElem within⟩

theorem HostingTree.describeMount_unlinked (tree : HostingTree) (mount : Mount) :
    tree.unlinked.describeMount mount.unlinked = tree.describeMount mount := by
  have hostName : ((tree.unlinked.hosts[mount.host]?).map (·.hostName)) =
      (tree.hosts[mount.host]?).map (·.hostName) := by
    rw [HostingTree.unlinked, Array.getElem?_map, Option.map_map]
    rfl
  simp only [HostingTree.describeMount, HostingTree.host?, Mount.unlinked, hostName]

/-- What the index reports for a key of a new mount is that it is not
the first one with it. -/
theorem TwinBuild.Indexed.taken?_eq {tree : HostingTree} {mount : Mount} {key : AliasKey}
    (indexed : twin.Indexed) (shown : twin.Shown config)
    (mounts : tree.unlinked.mounts = twin.tree.unlinked.mounts.push mount.unlinked)
    (last : mount.id = twin.tree.unlinked.mounts.size) (has : key ∈ mount.aliasKeys) :
    twin.index.taken? tree key = tree.unlinked.aliasConflict? mount.unlinked key := by
  have position : ∀ winner ∈ twin.tree.unlinked.mounts,
      twin.tree.unlinked.mounts[winner.id]? = some winner := by
    intro winner member
    obtain ⟨id, held⟩ := Array.mem_iff_getElem?.mp member
    obtain ⟨_, _, _, same, _⟩ := shown.mount id winner held
    exact same ▸ held
  have isNew : ∀ winner ∈ twin.tree.unlinked.mounts, winner.id ≠ mount.unlinked.id := by
    intro winner member same
    have within := (Array.getElem?_eq_some_iff.mp (position winner member)).1
    exact Nat.ne_of_lt within (same.trans last)
  rw [HostingTree.aliasConflict?_new mounts isNew has, MountIndex.taken?, indexed.aliased, Option.map_map]
  cases first : twin.tree.unlinked.firstHolder? key with
  | none => rfl
  | some winner =>
    have held := position winner (HostingTree.mem_of_firstHolder? first)
    have inTree : tree.unlinked.mounts[winner.id]? = some winner := by
      rw [mounts]
      exact getElem?_push_eq_some_iff.mpr (Or.inl held)
    obtain ⟨linked, found, rfl⟩ := HostingTree.exists_mount inTree
    have found' : tree.mount? linked.unlinked.id = some linked := found
    simp [found', HostingTree.describeMount_unlinked]

theorem TwinBuild.Indexed.addMount {tree : HostingTree} {place : MountPlace} {above : MountLineage}
    {own : MountSettings} {content : ContentPaths} {warnings : List Fault} {mount : Mount}
    (indexed : twin.Indexed) (shown : twin.Shown config)
    (derived : ((above.below own).properties config.hosts).contentPaths config.sites =
      .ok (content, warnings))
    (added : twin.tree.addMount (place.parent.map (·.id))
      (place.detachedMount own ((above.below own).properties config.hosts) content) = .ok (tree, mount)) :
    (twin.withMount tree mount (above.below own) (own.faults ++ warnings)).Indexed := by
  obtain ⟨same, grown⟩ := HostingTree.unlinked_addMount added
  have mounts : tree.unlinked.mounts = twin.tree.unlinked.mounts.push mount.unlinked := by rw [grown]
  have hosts : tree.unlinked.hosts = twin.tree.unlinked.hosts := by rw [grown]
  refine ⟨?_, ?_, ?_⟩
  · intro key
    rw [TwinBuild.withMount, MountIndex.aliased?_add, indexed.aliased]
    dsimp only
    rw [HostingTree.firstHolder?_push mounts, Option.map_or]
    have keys : mount.unlinked.aliasKeys = mount.aliasKeys := rfl
    rw [keys]
    split <;> rfl
  · rw [TwinBuild.withMount, MountIndex.byGroup_add, indexed.grouped]
    dsimp only
    rw [mounts, Array.toList_push, List.map_append]
    rfl
  · have notes := (NodeSettings.areNotes_faults own.toNodeSettings).append
      (MountProperties.contentPaths_warnings derived)
    have last : mount.id = twin.tree.unlinked.mounts.size := by simp [same, HostingTree.unlinked]
    have lost : mount.aliasKeys.filterMap (twin.index.taken? tree) =
        mount.unlinked.aliasKeys.filterMap (tree.unlinked.aliasConflict? mount.unlinked) :=
      List.filterMap_congr fun key has => indexed.taken?_eq shown mounts last has
    simp only [TwinBuild.withMount, TwinBuild.note, List.filter_append, indexed.conflicts]
    rw [HostingTree.aliasConflicts_push mounts hosts shown.hosted shown.mountCount, ← lost,
      ← MountIndex.add_aliasConflicts, ← filter_issuesAt, issuesAt, List.map_append,
      List.filter_append]
    congr 1
    exact (congrArg (· ++ _) (notes.filter_aliasConflicts _)).trans (List.nil_append _)

/-- Faults that are no conflicts change neither the index nor what it
has reported. -/
theorem TwinBuild.Indexed.report {location : String} {faults : List Fault} (indexed : twin.Indexed)
    (quiet : (issuesAt location faults).filter (·.fault.isAliasConflict) = []) :
    (twin.issues ++ issuesAt location faults).filter (·.fault.isAliasConflict) =
      twin.tree.unlinked.aliasConflicts twin.mounts := by
  rw [List.filter_append, quiet, List.append_nil]
  exact indexed.conflicts

theorem TwinBuild.indexed_start : TwinBuild.Indexed {} := by
  constructor <;> simp [HostingTree.firstHolder?, HostingTree.aliasConflicts, HostingTree.unlinked,
    MountIndex.aliased?]

theorem TwinBuild.Step.indexed {before after : TwinBuild} (step : TwinBuild.Step config before after)
    (shown : before.Shown config) (indexed : before.Indexed) : after.Indexed := by
  cases step with
  | noted location notes =>
    exact ⟨indexed.aliased, indexed.grouped, indexed.report (notes.filter_aliasConflicts location)⟩
  | @skipped faults cut notes severe =>
    refine ⟨indexed.aliased, indexed.grouped, indexed.report ?_⟩
    rw [issuesAt, List.map_append, List.filter_append]
    have noConflict : cut.issue.fault.isAliasConflict = false := by
      cases isFault : cut.issue.fault <;> first | rfl | (rw [isFault] at severe; cases severe)
    have quiet := notes.filter_aliasConflicts cut.issue.location
    rw [issuesAt] at quiet
    simp [quiet, noConflict]
  | groupAdded added =>
    have same := HostingTree.unlinked_addGroup added
    refine ⟨?_, ?_, ?_⟩
    · exact fun key => (indexed.aliased key).trans (by rw [same]; rfl)
    · exact indexed.grouped.trans (by rw [same])
    · refine indexed.conflicts.trans (HostingTree.aliasConflicts_of_hosts ?_ shown.hosted ?_).symm
      · exact fun id host held => by rwa [same]
      · rw [same]
  | hostAdded placed entered added =>
    have same := (HostingTree.unlinked_addHost added).2
    refine ⟨?_, ?_, ?_⟩
    · exact fun key => (indexed.aliased key).trans (by rw [TwinBuild.withHost, same]; rfl)
    · exact indexed.grouped.trans (by rw [TwinBuild.withHost, same])
    · refine indexed.conflicts.trans (HostingTree.aliasConflicts_of_hosts ?_ shown.hosted ?_).symm
      · exact fun id host held => (HostingTree.extends_addHost added).hosts held
      · rw [TwinBuild.withHost, same]
  | mountAdded placed derived added => exact indexed.addMount shown derived added
  | portBound added =>
    have same := HostingTree.unlinked_addPortMount added
    refine ⟨?_, ?_, ?_⟩
    · exact fun key => (indexed.aliased key).trans (by rw [same])
    · exact indexed.grouped.trans (by rw [same])
    · exact indexed.conflicts.trans (by rw [same])

theorem TwinBuild.Reaches.indexed {before after : TwinBuild}
    (reaches : TwinBuild.Reaches config before after) (shown : before.Shown config)
    (indexed : before.Indexed) : after.Indexed := by
  induction reaches with
  | refl => exact indexed
  | tail earlier step ih => exact step.indexed (TwinBuild.Reaches.shown earlier shown) ih

end Step

section Linked

variable {tree : HostingTree}

theorem HostingTree.firstHolder?_unlinked (key : AliasKey) :
    tree.unlinked.firstHolder? key = (tree.firstHolder? key).map Mount.unlinked := by
  rw [HostingTree.firstHolder?, HostingTree.unlinked, Array.toList_map, List.find?_map]
  rfl

theorem HostingTree.aliasConflicts_unlinked (lineages : List MountLineage) :
    tree.unlinked.aliasConflicts lineages = tree.aliasConflicts lineages := by
  have conflict : ∀ (mount : Mount) (key : AliasKey),
      tree.unlinked.aliasConflict? mount.unlinked key = tree.aliasConflict? mount key := by
    intro mount key
    rw [HostingTree.aliasConflict?, HostingTree.firstHolder?_unlinked, HostingTree.aliasConflict?]
    cases tree.firstHolder? key with
    | none => rfl
    | some winner =>
      simp only [Option.map_some, HostingTree.describeMount_unlinked]
      rfl
  have conflicts : ∀ mount : Mount,
      tree.unlinked.aliasConflict? mount.unlinked = tree.aliasConflict? mount :=
    fun mount => funext (conflict mount)
  have mounts : tree.unlinked.mounts.toList = tree.mounts.toList.map Mount.unlinked := by
    rw [HostingTree.unlinked, Array.toList_map]
  rw [HostingTree.aliasConflicts, mounts, List.zip_map_left, List.flatMap_map, HostingTree.aliasConflicts]
  refine List.flatMap_congr fun entry _ => ?_
  obtain ⟨mount, lineage⟩ := entry
  dsimp only [Prod.map]
  rw [conflicts]
  rfl

theorem HostingTree.Shows.mount?_id {config : Configuration} {hosts : List HostLineage}
    {mounts : List MountLineage} {mount : Mount} (shown : tree.Shows config hosts mounts)
    (member : mount ∈ tree.mounts) : tree.mount? mount.id = some mount := by
  obtain ⟨id, held⟩ := Array.mem_iff_getElem?.mp member
  obtain ⟨_, _, _, same, _⟩ := shown.mount id mount held
  exact same ▸ held

/-- The first holder of a key is the first mount of its group with its
alias and type. -/
theorem HostingTree.firstHolder?_eq (key : AliasKey) :
    tree.firstHolder? key = (tree.mounts.toList.filter (·.group == key.group)).find? fun mount =>
      mount.aliasName == some key.aliasName && mount.types.contains key.mountType := by
  rw [HostingTree.firstHolder?, List.find?_filter]
  congr 1
  funext mount
  rw [Bool.eq_iff_iff]
  simp [Mount.mem_aliasKeys_iff]

end Linked

section Registry

variable {config : Configuration} {policy : BuildPolicy} {generation : Nat} {registry : Registry}

/-- What the index and the issues of an accepted build say about the
mounts of its tree. -/
theorem Configuration.build_indexed (built : config.build policy generation = .ok registry) :
    (∀ key, registry.index.aliased? key = (registry.tree.firstHolder? key).map (·.id)) ∧
      registry.index.byGroup = registry.tree.mounts.toList.map (fun mount => (mount.group, mount.id)) ∧
      registry.issues.filter (·.fault.isAliasConflict) =
        registry.tree.aliasConflicts config.prune.kept.mountLineages := by
  obtain ⟨state, assembled, _, rfl⟩ := Configuration.build_eq_ok_iff.mp built
  obtain ⟨after, runs, rfl, _⟩ := Configuration.assemble_twin assembled
  have indexed : after.Indexed :=
    runs.reaches.indexed HostingTree.shows_empty TwinBuild.indexed_start
  have mounts : after.mounts = config.prune.kept.mountLineages := runs.mounts
  refine ⟨?_, ?_, ?_⟩
  · intro key
    refine (indexed.aliased key).trans ?_
    rw [HostingTree.firstHolder?_unlinked, Option.map_map]
    rfl
  · refine indexed.grouped.trans ?_
    rw [HostingTree.unlinked, Array.toList_map, List.map_map]
    rfl
  · refine indexed.conflicts.trans ?_
    rw [HostingTree.aliasConflicts_unlinked, mounts]
    rfl

/-- The mounts of a group are registered in the order of the arena. -/
theorem Registry.mountsOfGroup_eq {hosts : List HostLineage} {mounts : List MountLineage}
    (group : String) (shown : registry.tree.Shows config hosts mounts)
    (grouped : registry.index.byGroup = registry.tree.mounts.toList.map fun mount => (mount.group, mount.id)) :
    registry.mountsOfGroup group = registry.tree.mounts.toList.filter (·.group == group) := by
  rw [Registry.mountsOfGroup, MountIndex.ofGroup, grouped, List.filter_map, List.map_map, List.filterMap_map]
  have found : ∀ mount ∈ registry.tree.mounts.toList.filter (·.group == group),
      registry.tree.mount? mount.id = some mount := fun mount member =>
    shown.mount?_id (Array.mem_toList_iff.mp (List.mem_of_mem_filter member))
  exact (List.filterMap_congr found).trans List.filterMap_some

/-- An alias leads to the first mount of its group, in the order of
registration, that is configured with it and has the type; letter case in
aliases makes no difference. Each mount is reported once for each of its
types with which another one had its alias first, together with that one. -/
theorem Configuration.build_aliases (built : config.build policy generation = .ok registry) :
    registry.tree.Shows config config.prune.kept.hostLineages config.prune.kept.mountLineages ∧
      (∀ group, registry.mountsOfGroup group = registry.tree.mounts.toList.filter (·.group == group)) ∧
      (∀ group aliasName mountType, aliasName ≠ "" → mountType ≠ "" →
        registry.mountByAlias group aliasName mountType =
          .ok ((registry.mountsOfGroup group).find? fun mount =>
            mount.aliasName == some (Text.lowercase aliasName) && mount.types.contains mountType)) ∧
      registry.issues.filter (·.fault.isAliasConflict) =
        registry.tree.aliasConflicts config.prune.kept.mountLineages := by
  obtain ⟨aliased, grouped, conflicts⟩ := Configuration.build_indexed built
  have shown := Configuration.build_shows built
  have groups := fun group => Registry.mountsOfGroup_eq group shown grouped
  refine ⟨shown, groups, ?_, conflicts⟩
  intro group aliasName mountType named typed
  let key : AliasKey := ⟨group, Text.lowercase aliasName, mountType⟩
  have found : (registry.index.aliased? key).bind registry.tree.mount? = registry.tree.firstHolder? key := by
    rw [aliased]
    cases first : registry.tree.firstHolder? key with
    | none => rfl
    | some winner => exact shown.mount?_id (HostingTree.mem_of_firstHolder? first)
  rw [Registry.mountByAlias, if_neg (by simpa using named), if_neg (by simpa using typed), groups]
  exact congrArg Except.ok (found.trans (HostingTree.firstHolder?_eq key))

end Registry

/-- Two mounts of one group that share an alias and one of their types,
and one of another group. -/
def sharedAliasSite : Configuration where
  hostGroups := [
    { name := "prod"
      hosts := [.node { name := "com" }
        (some (.node { aliasName := some "Shop" } [
          .node { name := "sale", aliasName := some "shop", types := some ["mobile"] } []])) [] []] },
    { name := "test"
      hosts := [.node { name := "org" } (some (.node { aliasName := some "shop" } [])) [] []] }]

theorem sharedAliasSite_aliases :
    ∃ registry, sharedAliasSite.build .lenient 1 = .ok registry ∧
      registry.mountByAlias "prod" "SHOP" "mobile" =
        .ok ((registry.mountsOfGroup "prod").find? fun mount =>
          mount.aliasName == some "shop" && mount.types.contains "mobile") ∧
      (registry.mountsOfGroup "prod").map (·.mountPath) = ["", "/sale"] ∧
      registry.issues.filter (·.fault.isAliasConflict) =
        [⟨"prod/com:0/hst:root/sale", .aliasConflict "prod" "shop" "live" "com:0"⟩] := by
  have shown : (sharedAliasSite.build .lenient 1).toOption.map (fun registry =>
      ((registry.mountsOfGroup "prod").map (·.mountPath),
        registry.tree.aliasConflicts sharedAliasSite.prune.kept.mountLineages)) =
      some (["", "/sale"], [⟨"prod/com:0/hst:root/sale", .aliasConflict "prod" "shop" "live" "com:0"⟩]) := by
    decide +kernel
  have lowered : Text.lowercase "SHOP" = "shop" := by decide +kernel
  obtain ⟨registry, built, viewed⟩ := Configuration.build_of_view shown
  obtain ⟨mounts, conflicts⟩ := Prod.mk.inj viewed
  obtain ⟨_, _, aliases, reported⟩ := Configuration.build_aliases built
  have found := aliases "prod" "SHOP" "mobile" (by decide) (by decide)
  rw [lowered] at found
  exact ⟨registry, built, found, mounts, reported.trans conflicts⟩

end SiteRouting
