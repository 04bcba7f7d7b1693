import Mathlib
import SiteRouting.Proofs.Build.Appended
import SiteRouting.Proofs.Build.Outcome
import SiteRouting.Proofs.Build.Rejection
import SiteRouting.Proofs.Lookup.Choice

namespace SiteRouting

/-- A host is the first usable one among the candidates of groups: the groups
before its own have no candidate for the labels, or one that is not usable. -/
def HostingTree.IsFirst (tree : HostingTree) (labels : List String) (usable : VirtualHost → Bool)
    (groups : List HostGroup) (host : VirtualHost) : Prop :=
  ∃ earlier group later, groups = earlier ++ group :: later ∧ tree.findHost group labels = some host ∧
    usable host = true ∧ ∀ other ∈ earlier, ∀ candidate, tree.findHost other labels = some candidate →
      usable candidate = false

def HostingTree.HasNone (tree : HostingTree) (labels : List String) (usable : VirtualHost → Bool)
    (groups : List HostGroup) : Prop :=
  ∀ group ∈ groups, ∀ candidate, tree.findHost group labels = some candidate → usable candidate = false

/-- How a tree chooses a host for a name and a port. Of the candidates of its
groups, in their order, the first that serves exactly the port is taken
wherever it stands, and without one the first that stands in for it. -/
structure HostingTree.Chooses (tree : HostingTree) (name : String) (port : Port) : Prop where
  some_iff : ∀ found, tree.matchHost name port = some found ↔
    found.tree = tree ∧ found.name = name ∧ found.port = port ∧
      (found.matchedPort = port ∧
          tree.IsFirst (hostLabels name) (·.serves port) tree.groups.toList found.host ∨
        found.matchedPort = anyPort ∧ port ≠ anyPort ∧
          tree.HasNone (hostLabels name) (·.serves port) tree.groups.toList ∧
          tree.IsFirst (hostLabels name) (·.standsIn port) tree.groups.toList found.host)
  none_iff : tree.matchHost name port = none ↔
    tree.HasNone (hostLabels name) (·.serves port) tree.groups.toList ∧
      tree.HasNone (hostLabels name) (·.standsIn port) tree.groups.toList
  -- A later candidate for exactly the port is taken whatever stands in for the port before it.
  overrides : ∀ earlier later host, tree.groups.toList = earlier ++ later →
    tree.HasNone (hostLabels name) (·.serves port) earlier →
    tree.IsFirst (hostLabels name) (·.serves port) later host →
    tree.matchHost name port = some ⟨tree, host, name, port, port⟩
  -- A candidate that stands in stays, whatever stands in for the port behind it.
  remains : ∀ earlier later host, tree.groups.toList = earlier ++ later →
    tree.HasNone (hostLabels name) (·.serves port) tree.groups.toList →
    tree.IsFirst (hostLabels name) (·.standsIn port) earlier host →
    tree.matchHost name port = some ⟨tree, host, name, port, anyPort⟩
  -- With an entry for the port that leads nowhere, it is as if the group had no candidate.
  skips : ∀ earlier group later host entry, tree.groups.toList = earlier ++ group :: later →
    tree.findHost group (hostLabels name) = some host → host.portMount? port = some entry →
    entry.root = none → tree.matchHost name port =
      (tree.chooseHost (hostLabels name) port none (earlier ++ later)).map fun (host, matchedPort) =>
        ⟨tree, host, name, port, matchedPort⟩

section First

variable {tree : HostingTree} {labels : List String} {usable : VirtualHost → Bool}
  {groups earlier later : List HostGroup} {host : VirtualHost}

theorem HostingTree.isFirst_iff :
    tree.IsFirst labels usable groups host ↔ tree.firstHost? labels usable groups = some host := by
  rw [HostingTree.firstHost?, List.findSome?_eq_some_iff]
  simp only [Option.filter_eq_some_iff, Option.filter_eq_none_iff, Bool.not_eq_true, and_assoc]
  rfl

theorem HostingTree.hasNone_iff :
    tree.HasNone labels usable groups ↔ tree.firstHost? labels usable groups = none := by
  rw [HostingTree.firstHost?, List.findSome?_eq_none_iff]
  simp only [Option.filter_eq_none_iff, Bool.not_eq_true]
  rfl

theorem HostingTree.firstHost?_append_groups (earlier later : List HostGroup) :
    tree.firstHost? labels usable (earlier ++ later) =
      (tree.firstHost? labels usable earlier).or (tree.firstHost? labels usable later) :=
  List.findSome?_append

theorem HostingTree.firstHost?_without {group : HostGroup} (finds : tree.findHost group labels = some host)
    (unusable : usable host = false) (earlier later : List HostGroup) :
    tree.firstHost? labels usable (earlier ++ group :: later) =
      tree.firstHost? labels usable (earlier ++ later) := by
  rw [HostingTree.firstHost?_append_groups, HostingTree.firstHost?_append_groups, HostingTree.firstHost?_cons,
    finds, Option.filter_some_neg (Bool.not_eq_true _ ▸ unusable), Option.none_or]

end First

section Choice

variable {tree : HostingTree} {name : String} {port : Port}

theorem HostingTree.matchHost_of_serving {host : VirtualHost} (serving : tree.serving? name port = some host) :
    tree.matchHost name port = some ⟨tree, host, name, port, port⟩ := by
  rw [HostingTree.matchHost_eq, serving]
  rfl

theorem HostingTree.matchHost_of_standIn {host : VirtualHost} (nobody : tree.serving? name port = none)
    (standsIn : tree.standIn? name port = some host) :
    tree.matchHost name port = some ⟨tree, host, name, port, anyPort⟩ := by
  rw [HostingTree.matchHost_eq, nobody, standsIn]
  rfl

/-- An entry that leads nowhere neither serves its port nor lets
another one stand in for it. -/
theorem VirtualHost.not_usable_of_blocked {host : VirtualHost} {entry : PortMount}
    (bound : host.portMount? port = some entry) (blocked : entry.root = none) :
    host.serves port = false ∧ host.standsIn port = false := by
  constructor
  · simp [VirtualHost.serves, VirtualHost.rootMount?, bound, blocked]
  · simp [VirtualHost.standsIn, bound]

theorem HostingTree.chooses (tree : HostingTree) (name : String) (port : Port) : tree.Chooses name port := by
  constructor
  case some_iff =>
    intro found
    rw [HostingTree.isFirst_iff, HostingTree.isFirst_iff, HostingTree.hasNone_iff]
    constructor
    · intro finds
      rcases HostingTree.matchHost_eq_some finds with ⟨host, serving, rfl⟩ | ⟨nobody, ported, host, standsIn, rfl⟩
      · exact ⟨rfl, rfl, rfl, Or.inl ⟨rfl, serving⟩⟩
      · exact ⟨rfl, rfl, rfl, Or.inr ⟨rfl, ported, nobody, standsIn⟩⟩
    · rintro ⟨sameTree, sameName, samePort, matched⟩
      have whole : found = ⟨tree, found.host, name, port, found.matchedPort⟩ := by
        rw [← sameTree, ← sameName, ← samePort]
      rcases matched with ⟨exactly, serving⟩ | ⟨anyway, _, nobody, standsIn⟩
      · rw [whole, exactly]
        exact HostingTree.matchHost_of_serving serving
      · rw [whole, anyway]
        exact HostingTree.matchHost_of_standIn nobody standsIn
  case none_iff =>
    rw [HostingTree.hasNone_iff, HostingTree.hasNone_iff, HostingTree.matchHost_eq, Option.or_eq_none_iff,
      Option.map_eq_none_iff, Option.map_eq_none_iff]
    rfl
  case overrides =>
    intro earlier later host split nobody first
    refine HostingTree.matchHost_of_serving ?_
    rw [HostingTree.serving?, split, HostingTree.firstHost?_append_groups, HostingTree.hasNone_iff.mp nobody,
      HostingTree.isFirst_iff.mp first, Option.none_or]
  case remains =>
    intro earlier later host split nobody first
    refine HostingTree.matchHost_of_standIn (HostingTree.hasNone_iff.mp nobody) ?_
    rw [HostingTree.standIn?, split, HostingTree.firstHost?_append_groups, HostingTree.isFirst_iff.mp first,
      Option.some_or]
  case skips =>
    intro earlier group later host entry split finds bound blocked
    obtain ⟨unserving, absent⟩ := VirtualHost.not_usable_of_blocked bound blocked
    rw [HostingTree.matchHost, split, HostingTree.chooseHost_eq, HostingTree.chooseHost_eq,
      HostingTree.firstHost?_without finds unserving, HostingTree.firstHost?_without finds absent]

end Choice

section Order

variable {config : Configuration} {state : BuildState}

/-- The name of a group, for the names that are those of groups. -/
def NodeName.group? (name : NodeName) : Option String :=
  match name.hostName with
  | none => some name.group
  | some _ => none

theorem HostingTree.filterMap_names (tree : HostingTree) :
    tree.names.filterMap NodeName.group? = tree.groups.toList.map (·.name) := by
  have groups : NodeName.group? ∘ (fun group : HostGroup => NodeName.mk group.name none) =
      fun group => some group.name := rfl
  have hosts : NodeName.group? ∘ VirtualHost.fullName = fun _ => none := rfl
  rw [HostingTree.names, List.filterMap_append, List.filterMap_map, List.filterMap_map, groups, hosts,
    List.filterMap_none, List.append_nil]
  exact congrFun (List.filterMap_eq_map (f := fun group : HostGroup => group.name)) _

theorem GroupNode.filterMap_names (group : GroupNode) :
    group.names.filterMap NodeName.group? = [group.name] := by
  have hosts : NodeName.group? ∘ (fun hostName => NodeName.mk group.name (some hostName)) = fun _ => none := rfl
  rw [GroupNode.names, namedIn, List.filterMap_cons, List.filterMap_map, hosts, List.filterMap_none]
  rfl

theorem Configuration.groups_of_onlyGroup {group : GroupNode}
    (assembled : (config.onlyGroup group).assemble = .ok state) :
    state.tree.groups.toList.map (·.name) = [group.name] := by
  have names := Configuration.names_of_assemble assembled
  have only : (config.onlyGroup group).names = group.names := by
    simp [Configuration.names, Configuration.onlyGroup]
  have groups := (only ▸ names).filterMap NodeName.group?
  rw [HostingTree.filterMap_names, GroupNode.filterMap_names] at groups
  exact List.perm_singleton.mp groups

/-- Groups are put behind each other, so a tree has them in declared order. -/
theorem Configuration.groups_of_assemble (assembled : config.assemble = .ok state) :
    state.tree.groups.toList.map (·.name) = config.hostGroups.map (·.name) := by
  obtain ⟨hosts, sites, groups, admin, observability⟩ := config
  induction groups using List.reverseRecOn generalizing state with
  | nil =>
    cases assembled
    rfl
  | append_singleton front last ih =>
    let config : Configuration := ⟨hosts, sites, front, admin, observability⟩
    obtain ⟨small, first, _⟩ := (BuildState.buildGroups_concat front last).mp assembled
    have before : config.assemble = .ok small := first
    have whole : (config.withGroup last).assemble = .ok state := assembled
    obtain ⟨_, alone, builtAlone, tree⟩ := Configuration.assemble_withGroup before whole
    have moved : HostGroup.name ∘ HostGroup.behind small.tree = HostGroup.name := rfl
    rw [tree, HostingTree.append, Array.toList_append, Array.toList_map, List.map_append, List.map_map, moved,
      ih before, Configuration.groups_of_onlyGroup builtAlone, List.map_append, List.map_singleton]

end Order

section Registry

variable {config : Configuration} {policy : BuildPolicy} {generation : Nat} {registry : Registry}

/-- A registry has the groups of its configuration in declared order, and
every lookup takes the first candidate of them that serves exactly the port,
or else the first that stands in for it. -/
theorem Configuration.build_chooses (built : config.build policy generation = .ok registry) (name : String)
    (port : Port) : registry.groupNames = config.hostGroups.map (·.name) ∧ registry.tree.Chooses name port := by
  obtain ⟨state, assembled, _, rfl⟩ := Configuration.build_eq_ok_iff.mp built
  exact ⟨Configuration.groups_of_assemble assembled, HostingTree.chooses state.tree name port⟩

/-- Three groups with the same host for any port. In the first one a port
leads nowhere, and in the last one another port has a mount of its own. -/
def orderedSite : Configuration where
  hostGroups := [
    { name := "retired", hosts := [.node { name := "shop" } (some (.node {} [])) [⟨8443, none⟩] []] },
    { name := "prod", hosts := [.node { name := "shop" } (some (.node {} [])) [] []] },
    { name := "staging"
      hosts := [.node { name := "shop" } (some (.node {} [])) [⟨8080, some (.node {} [])⟩] []] }]

theorem orderedSite_chooses :
    ∃ registry, orderedSite.build .lenient 1 = .ok registry ∧
      registry.groupNames = ["retired", "prod", "staging"] ∧
      registry.tree.Chooses "shop" 8443 ∧ registry.tree.Chooses "shop" 8080 ∧
      [("shop", 8443), ("shop", 8080), ("shop", 0), ("shop", 81), ("office", 81)].map (fun (name, port) =>
        (registry.tree.matchHost name port).map fun found => (found.host.group, found.matchedPort)) =
        [some ("prod", 0), some ("staging", 8080), some ("retired", 0), some ("retired", 0), none] := by
  have shown : (orderedSite.build .lenient 1).toOption.map (fun registry =>
      [("shop", 8443), ("shop", 8080), ("shop", 0), ("shop", 81), ("office", 81)].map fun (name, port) =>
        (registry.tree.matchHost name port).map fun found => (found.host.group, found.matchedPort)) =
      some [some ("prod", 0), some ("staging", 8080), some ("retired", 0), some ("retired", 0), none] := by
    decide +kernel
  obtain ⟨registry, built, answers⟩ := Configuration.build_of_view shown
  obtain ⟨names, blocked⟩ := Configuration.build_chooses built "shop" 8443
  exact ⟨registry, built, names, blocked, (Configuration.build_chooses built "shop" 8080).2, answers⟩

end Registry

end SiteRouting
