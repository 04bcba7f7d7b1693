import Mathlib
import SiteRouting.Proofs.Build.Appended
import SiteRouting.Proofs.Build.Rejection
import SiteRouting.Proofs.Lookup.Aliases
import SiteRouting.Proofs.Lookup.Choice
import SiteRouting.Proofs.Lookup.Identifiers

namespace SiteRouting

/-- A registry with a new group behind the others, as seen by the others. The
new group is that of a registry that has no other one; its nodes have moved. -/
structure Registry.Joined (larger small alone : Registry) (newcomer : String) : Prop where
  tree : larger.tree = small.tree.append alone.tree
  groups : small.tree.groups.toList <+: larger.tree.groups.toList
  hosts : small.tree.hosts.toList <+: larger.tree.hosts.toList
  mounts : small.tree.mounts.toList <+: larger.tree.mounts.toList
  issues : small.issues <+: larger.issues
  mountsOfGroup : ∀ group, group ≠ newcomer → larger.mountsOfGroup group = small.mountsOfGroup group
  mountByAlias : ∀ group aliasName mountType, group ≠ newcomer →
    larger.mountByAlias group aliasName mountType = small.mountByAlias group aliasName mountType
  mountByIdentifier : ∀ identifier,
    (∀ mount ∈ larger.mountsOfGroup newcomer, mount.identifier ≠ identifier) →
      larger.mountByIdentifier identifier = small.mountByIdentifier identifier
  -- A host lookup without the new group has found the exact port, or any port with nobody in the new
  -- group for the exact one, or any port with somebody there, or nothing.
  exact : ∀ name port found, small.tree.matchHost name port = some found → found.matchedPort = port →
    larger.tree.matchHost name port = some { found with tree := larger.tree }
  unserved : ∀ name port found, small.tree.matchHost name port = some found →
    (∀ group ∈ alone.tree.groups, ∀ host, alone.tree.findHost group (hostLabels name) = some host →
      host.rootMount? port = none) →
    larger.tree.matchHost name port = some { found with tree := larger.tree }
  overtaken : ∀ name port found other, small.tree.matchHost name port = some found →
    found.matchedPort ≠ port → alone.tree.matchHost name port = some other → other.matchedPort = port →
    larger.tree.matchHost name port = some (other.behind small.tree)
  missing : ∀ name port, small.tree.matchHost name port = none →
    larger.tree.matchHost name port = (alone.tree.matchHost name port).map (·.behind small.tree)

section Groups

variable {config : Configuration} {state : BuildState}

theorem Configuration.DeclaresHost.exists_group {name : String} {node : HostNode}
    (declared : config.DeclaresHost name node) : ∃ group ∈ config.hostGroups, group.name = name := by
  induction declared with
  | @top group node member here => exact ⟨group, member, rfl⟩
  | nested declared here ih => exact ih

theorem Configuration.exists_group_of_mount (assembled : config.assemble = .ok state) {mount : Mount}
    (member : mount ∈ state.tree.mounts) : ∃ group ∈ config.hostGroups, group.name = mount.group := by
  have good := Configuration.assemble_good assembled
  have shaped : state.tree.Shaped := .of_unlinked good.shaped
  obtain ⟨id, held⟩ := Array.mem_iff_getElem?.mp member
  obtain ⟨host, inTree, sameGroup⟩ := (shaped.mounts id mount held).hosted
  obtain ⟨node, labels, label, declared, _⟩ := good.named mount.host _ (HostingTree.unlinked_host inTree)
  rw [sameGroup]
  exact declared.exists_group

theorem Configuration.ne_name_of_withGroup {group : GroupNode}
    (assembled : (config.withGroup group).assemble = .ok state) :
    ∀ other ∈ config.hostGroups, other.name ≠ group.name := by
  have nodup : (config.withGroup group).names.Nodup := by
    by_contra repeated
    obtain ⟨issues, ended⟩ := Configuration.assemble_eq_error_iff.mpr repeated
    rw [assembled] at ended
    cases ended
  have names := ((config.withGroup group).nodup_names_iff.mp nodup).1
  rw [Configuration.withGroup, List.map_append, List.nodup_append] at names
  intro other member
  exact names.2.2 other.name (List.mem_map_of_mem member) group.name (by simp)

end Groups

section Mounts

variable {front back : HostingTree}

theorem HostingTree.toList_mounts_append (front back : HostingTree) :
    (front.append back).mounts.toList = front.mounts.toList ++ back.mounts.toList.map (·.behind front) := by
  simp [HostingTree.append]

theorem HostingTree.filter_mounts_append {group : String}
    (others : ∀ mount ∈ back.mounts, mount.group ≠ group) :
    (front.append back).mounts.toList.filter (·.group == group) =
      front.mounts.toList.filter (·.group == group) := by
  have nobody : (back.mounts.toList.map (·.behind front)).filter (·.group == group) = [] := by
    simpa [List.filter_eq_nil_iff, Mount.behind] using others
  rw [HostingTree.toList_mounts_append, List.filter_append, nobody, List.append_nil]

theorem HostingTree.firstHolder?_append {key : AliasKey}
    (others : ∀ mount ∈ back.mounts, mount.group ≠ key.group) :
    (front.append back).firstHolder? key = front.firstHolder? key := by
  rw [HostingTree.firstHolder?_eq, HostingTree.filter_mounts_append others, ← HostingTree.firstHolder?_eq]

end Mounts

section Registries

variable {config extended : Configuration} {policy : BuildPolicy} {generation later : Nat}
  {small larger : Registry} {back : HostingTree} {group : String}

theorem Configuration.mountsOfGroup_eq (built : config.build policy generation = .ok small) (group : String) :
    small.mountsOfGroup group = small.tree.mounts.toList.filter (·.group == group) :=
  Registry.mountsOfGroup_eq group (Configuration.build_shows built) (Configuration.build_indexed built).2.1

theorem Configuration.mountsOfGroup_append (built : config.build policy generation = .ok small)
    (builtToo : extended.build policy later = .ok larger) (tree : larger.tree = small.tree.append back)
    (others : ∀ mount ∈ back.mounts, mount.group ≠ group) :
    larger.mountsOfGroup group = small.mountsOfGroup group := by
  rw [Configuration.mountsOfGroup_eq builtToo, Configuration.mountsOfGroup_eq built, tree,
    HostingTree.filter_mounts_append others]

theorem Configuration.mountByAlias_append (built : config.build policy generation = .ok small)
    (builtToo : extended.build policy later = .ok larger) (tree : larger.tree = small.tree.append back)
    (others : ∀ mount ∈ back.mounts, mount.group ≠ group) (aliasName mountType : String) :
    larger.mountByAlias group aliasName mountType = small.mountByAlias group aliasName mountType := by
  have aliased := (Configuration.build_indexed built).1 ⟨group, Text.lowercase aliasName, mountType⟩
  have aliasedToo := (Configuration.build_indexed builtToo).1 ⟨group, Text.lowercase aliasName, mountType⟩
  rw [tree, HostingTree.firstHolder?_append others, ← aliased] at aliasedToo
  have found : (larger.index.aliased? ⟨group, Text.lowercase aliasName, mountType⟩).bind larger.tree.mount? =
      (small.index.aliased? ⟨group, Text.lowercase aliasName, mountType⟩).bind small.tree.mount? := by
    rw [aliasedToo]
    refine Option.bind_congr fun id isFirst => ?_
    obtain ⟨winner, first, rfl⟩ := Option.map_eq_some_iff.mp (aliased.symm.trans isFirst)
    have held := (Configuration.build_shows built).mount?_id (HostingTree.mem_of_firstHolder? first)
    rw [tree, HostingTree.mount?_append_of_held _ _ held, held]
  rw [Registry.mountByAlias, Registry.mountByAlias, found]

theorem Configuration.mountByIdentifier_append (built : config.build policy generation = .ok small)
    (builtToo : extended.build policy later = .ok larger) (tree : larger.tree = small.tree.append back)
    (members : ∀ mount ∈ back.mounts, mount.group = group) {identifier : String}
    (unused : ∀ mount ∈ larger.mountsOfGroup group, mount.identifier ≠ identifier) :
    larger.mountByIdentifier identifier = small.mountByIdentifier identifier := by
  have nobody : (back.mounts.toList.map (·.behind small.tree)).reverse.find? (·.identifier == identifier) =
      none := by
    rw [List.find?_eq_none]
    intro mount member
    obtain ⟨original, inBack, rfl⟩ := List.mem_map.mp (List.mem_reverse.mp member)
    rw [beq_iff_eq]
    refine unused _ ?_
    rw [Configuration.mountsOfGroup_eq builtToo, tree, HostingTree.toList_mounts_append, List.mem_filter]
    exact ⟨List.mem_append_right _ (List.mem_map_of_mem inBack),
      beq_iff_eq.mpr (members original (Array.mem_toList_iff.mp inBack))⟩
  rw [Configuration.mountByIdentifier_eq builtToo, Configuration.mountByIdentifier_eq built, tree,
    HostingTree.toList_mounts_append, List.reverse_append, List.find?_append, nobody, Option.none_or]

end Registries

section Isolation

variable {config : Configuration} {group : GroupNode} {generation later : Nat} {small larger : Registry}

/-- Where a configuration and the same one with a group behind its others are
both accepted, the group is accepted alone, and the other groups do not see
it. Only what all groups share lets the new group through: identifiers, and
hosts that nobody before had an entry for. -/
theorem Configuration.build_isolates (built : config.build .lenient generation = .ok small)
    (builtToo : (config.withGroup group).build .lenient later = .ok larger) :
    (∀ other ∈ config.hostGroups, other.name ≠ group.name) ∧
      ∃ alone, (config.onlyGroup group).build .lenient later = .ok alone ∧
        larger.Joined small alone group.name := by
  obtain ⟨before, assembled, _, isSmall⟩ := Configuration.build_eq_ok_iff.mp built
  obtain ⟨after, assembledToo, _, isLarger⟩ := Configuration.build_eq_ok_iff.mp builtToo
  obtain ⟨⟨found, grown, _⟩, single, assembledAlone, tree⟩ :=
    Configuration.assemble_withGroup assembled assembledToo
  let alone : Registry := .ofBuild single config.hosts later
  have joined : larger.tree = small.tree.append alone.tree := by
    rw [isSmall, isLarger]
    exact tree
  have wellFormed : small.tree.WellFormed := by
    have good := Configuration.assemble_good assembled
    rw [isSmall]
    exact HostingTree.wellFormed_of_bound good.shaped good.linked good.bound
  have members : ∀ mount ∈ alone.tree.mounts, mount.group = group.name := by
    intro mount member
    obtain ⟨declared, only, name⟩ := Configuration.exists_group_of_mount assembledAlone member
    cases List.mem_singleton.mp only
    exact name.symm
  have others {name : String} (differs : name ≠ group.name) :
      ∀ mount ∈ alone.tree.mounts, mount.group ≠ name :=
    fun mount member same => differs (same.symm.trans (members mount member))
  refine ⟨Configuration.ne_name_of_withGroup assembledToo, alone,
    Configuration.build_lenient_of_ok assembledAlone, ?_⟩
  constructor
  case tree => exact joined
  case groups => simp [joined, HostingTree.append]
  case hosts => simp [joined, HostingTree.append]
  case mounts => simp [joined, HostingTree.append]
  case issues =>
    rw [isSmall, isLarger]
    exact ⟨found, grown.symm⟩
  case mountsOfGroup =>
    exact fun name differs => Configuration.mountsOfGroup_append built builtToo joined (others differs)
  case mountByAlias =>
    exact fun name aliasName mountType differs =>
      Configuration.mountByAlias_append built builtToo joined (others differs) aliasName mountType
  case mountByIdentifier =>
    exact fun identifier unused => Configuration.mountByIdentifier_append built builtToo joined members unused
  case exact =>
    intro name port found finds exactly
    rw [joined]
    exact HostingTree.matchHost_append_of_exact wellFormed finds exactly
  case unserved =>
    intro name port found finds nobody
    rw [joined]
    exact HostingTree.matchHost_append_of_unserved wellFormed finds (HostingTree.serving?_eq_none_iff.mpr nobody)
  case overtaken =>
    intro name port found other finds standsIn findsToo exactly
    rw [joined]
    exact HostingTree.matchHost_append_of_overtaken wellFormed finds standsIn findsToo exactly
  case missing =>
    intro name port missing
    rw [joined]
    exact HostingTree.matchHost_append_of_missing wellFormed missing

end Isolation

/-- A host with an entry for one port besides the one for any port. -/
def shopSite : Configuration where
  hostGroups := [{
    name := "prod"
    hosts := [.node { name := "shop" } (some (.node { aliasName := some "start" } []))
      [⟨8443, some (.node {} [])⟩] []] }]

/-- A group with the same host, on the same port and one more, and a
host of its own. -/
def stagingGroup : GroupNode where
  name := "staging"
  hosts := [
    .node { name := "shop" } (some (.node { aliasName := some "start" } []))
      [⟨8443, some (.node {} [])⟩, ⟨8080, some (.node {} [])⟩] [],
    .node { name := "preview" } (some (.node {} [])) [] []]

theorem shopSite_isolated :
    ∃ small larger alone, shopSite.build .lenient 1 = .ok small ∧
      (shopSite.withGroup stagingGroup).build .lenient 2 = .ok larger ∧
      (shopSite.onlyGroup stagingGroup).build .lenient 2 = .ok alone ∧
      larger.Joined small alone "staging" ∧
      [("shop", 8443), ("shop", 81), ("shop", 8080), ("preview", 81)].map (fun (name, port) =>
        (larger.tree.matchHost name port).map fun found => (found.host.group, found.matchedPort)) =
        [some ("prod", 8443), some ("prod", 0), some ("staging", 8080), some ("staging", 0)] := by
  have accepted : (shopSite.build .lenient 1).toOption.map (fun _ => ()) = some () := by decide +kernel
  have answers : ((shopSite.withGroup stagingGroup).build .lenient 2).toOption.map (fun larger =>
      [("shop", 8443), ("shop", 81), ("shop", 8080), ("preview", 81)].map fun (name, port) =>
        (larger.tree.matchHost name port).map fun found => (found.host.group, found.matchedPort)) =
      some [some ("prod", 8443), some ("prod", 0), some ("staging", 8080), some ("staging", 0)] := by
    decide +kernel
  obtain ⟨small, built, _⟩ := Configuration.build_of_view accepted
  obtain ⟨larger, builtToo, matched⟩ := Configuration.build_of_view answers
  obtain ⟨_, alone, builtAlone, joined⟩ := Configuration.build_isolates built builtToo
  exact ⟨small, larger, alone, built, builtToo, builtAlone, joined, matched⟩

end SiteRouting
