import Mathlib
import SiteRouting.Proofs.Build.Reports
import SiteRouting.Proofs.Build.WellFormed
import SiteRouting.Proofs.Tree.Names

namespace SiteRouting

mutual

/-- The full names of the hosts of a node and of all nodes below it,
in declared order. A node whose name is refused has none, and neither
has anything below it. -/
def HostNode.hostNames (above : Option String) : HostNode → List String
  | .node own _ _ hosts =>
    match nodeLabels own.name with
    | .error _ => []
    | .ok labels =>
      hostNamesBelow above labels ++ HostNode.hostNamesOfAll (lastHostName above labels) hosts

def HostNode.hostNamesOfAll (above : Option String) : List HostNode → List String
  | [] => []
  | host :: rest => host.hostNames above ++ HostNode.hostNamesOfAll above rest

end

/-- The full names of all hosts of a group, one for every label of an
address as well. -/
def GroupNode.hostNames (group : GroupNode) : List String :=
  HostNode.hostNamesOfAll none group.hosts

def namedIn (group : String) (hostNames : List String) : List NodeName :=
  hostNames.map fun hostName => ⟨group, some hostName⟩

def GroupNode.names (group : GroupNode) : List NodeName :=
  ⟨group.name, none⟩ :: namedIn group.name group.hostNames

/-- The names of all groups and hosts that a configuration describes, those
of the hosts with the name of their group. -/
def Configuration.names (config : Configuration) : List NodeName :=
  config.hostGroups.flatMap GroupNode.names

section Enrols

/-- What becomes of names that are added behind others: they are all in the
tree, or one comes up twice. -/
inductive Enrols {ε : Type} (before new : List NodeName) : Except ε HostingTree → Prop where
  | all {after : HostingTree} (names : after.names.Perm (before ++ new)) : Enrols before new (.ok after)
  | clash {refusal : ε} (repeated : ¬ (before ++ new).Nodup) : Enrols before new (.error refusal)

variable {ε : Type} {before middle new more : List NodeName} {name : NodeName}

theorem not_nodup_of_mem (taken : name ∈ before) : ¬ (before ++ name :: more).Nodup := by
  intro nodup
  exact (List.nodup_append.mp nodup).2.2 name taken name List.mem_cons_self rfl

theorem not_nodup_append (repeated : ¬ (before ++ new).Nodup) : ¬ (before ++ (new ++ more)).Nodup := by
  rw [← List.append_assoc]
  exact fun nodup => repeated (List.nodup_append.mp nodup).1

theorem Enrols.after {result : Except ε HostingTree} (start : middle.Perm (before ++ new))
    (enrols : Enrols middle more result) : Enrols before (new ++ more) result := by
  have all : (middle ++ more).Perm (before ++ (new ++ more)) := by
    rw [← List.append_assoc]
    exact start.append_right more
  cases enrols with
  | all names => exact .all (names.trans all)
  | clash repeated => exact .clash (mt all.nodup_iff.mpr repeated)

end Enrols

section Chain

variable {place : GroupPlace} {properties : NodeProperties}

theorem HostingTree.hostName_addHostChain {tree after : HostingTree} {parent last : Option VirtualHost}
    {labels : List String}
    (added : tree.addHostChain place properties parent labels = .ok (after, last)) :
    last.map (·.hostName) = lastHostName (parent.map (·.hostName)) labels := by
  induction labels generalizing tree parent with
  | nil =>
    cases added
    rfl
  | cons label rest ih =>
    rw [HostingTree.addHostChain] at added
    split at added
    · cases added
    · rename_i next linked first
      have below := ih added
      rw [Option.map_some, (HostingTree.names_addHost first).2] at below
      exact below

theorem HostingTree.Named.addHostChain_enrols {tree : HostingTree} {parent : Option VirtualHost}
    {labels : List String} (named : tree.Named) (held : tree.HoldsHostPlace place parent)
    (undotted : ∀ label ∈ labels, '.' ∉ label.toList) :
    Enrols tree.names (namedIn place.name (hostNamesBelow (parent.map (·.hostName)) labels))
      ((tree.addHostChain place properties parent labels).map (·.1)) := by
  induction labels generalizing tree parent with
  | nil => exact .all (List.Perm.of_eq (List.append_nil _).symm)
  | cons label rest ih =>
    rw [HostingTree.addHostChain]
    split
    · rename_i fault refused
      exact .clash (not_nodup_of_mem (named.mem_names_of_addHost held refused))
    · rename_i next linked first
      obtain ⟨grown, isName⟩ := HostingTree.names_addHost first
      have later := ih (named.addHost held (undotted label List.mem_cons_self) first) (held.addHost first)
        fun other inRest => undotted other (List.mem_cons_of_mem _ inRest)
      rw [Option.map_some, isName] at later
      exact later.after (List.Perm.of_eq grown)

end Chain

section Hosts

variable {config : Configuration} {place : GroupPlace}

theorem Draft.Good.named_tree {draft : Draft} (good : Draft.Good config draft) :
    draft.state.tree.Named where
  shaped := good.shaped
  linked := good.linked
  undotted id host held := by
    obtain ⟨node, labels, label, _, labelled, member, isName⟩ := good.named id host held
    rw [isName]
    exact lowercase_undotted (nodeLabels_undotted labelled member)

theorem BuildState.GainsMounts.names {before after : BuildState} (gains : after.GainsMounts before) :
    after.tree.names = before.tree.names := by
  rw [← after.tree.names_unlinked, ← before.tree.names_unlinked]
  simp only [HostingTree.names, gains.hosts]
  simp only [HostingTree.unlinked, gains.groups]

theorem BuildState.attachHost_enrols {state : BuildState} {parent : Option VirtualHost}
    {own : HostSettings} {labels : List String} (above : NodeProperties) (ports : List PortNode)
    (good : Draft.Good config ⟨state, none⟩) (held : state.tree.HoldsHostPlace place parent)
    (labelled : nodeLabels own.name = .ok labels) :
    Enrols state.tree.names (namedIn place.name (hostNamesBelow (parent.map (·.hostName)) labels))
      ((state.attachHost config.sites place parent above own ports).map (·.1.tree)) := by
  have chain : Enrols state.tree.names _ ((state.tree.addHostChain place (own.propertiesBelow above)
      parent labels).map (·.1)) := good.named_tree.addHostChain_enrols held
    fun label member => nodeLabels_undotted labelled member
  unfold BuildState.attachHost
  simp only [labelled, BuildState.report]
  split
  · rename_i fault refused
    rw [refused] at chain
    cases chain with
    | clash repeated => exact .clash repeated
  · rename_i tree added
    rw [added] at chain
    cases chain with
    | all names => exact .all names
  · rename_i tree host added
    rw [added] at chain
    cases chain with
    | all names =>
      refine .all ?_
      dsimp only
      rw [(BuildState.buildPorts_gains host _ ports).names]
      exact names

theorem BuildState.hostName_attachHost {state after : BuildState} {parent answer : Option VirtualHost}
    {own : HostSettings} {labels : List String} {above : NodeProperties} {ports : List PortNode}
    (labelled : nodeLabels own.name = .ok labels)
    (attached : state.attachHost config.sites place parent above own ports = .ok (after, answer)) :
    answer.map (·.hostName) = lastHostName (parent.map (·.hostName)) labels := by
  obtain ⟨tree, chain⟩ := BuildState.chain_of_attachHost state labelled attached
  exact HostingTree.hostName_addHostChain chain

theorem isSome_lastHostName {above : Option String} {labels : List String} (some_label : labels ≠ []) :
    (lastHostName above labels).isSome := by
  induction labels generalizing above with
  | nil => exact absurd rfl some_label
  | cons label rest ih =>
    cases rest with
    | nil => rfl
    | cons next others => exact ih (List.cons_ne_nil next others)

mutual

theorem BuildState.buildHost_enrols {state : BuildState} {parent : Option VirtualHost}
    (good : Draft.Good config ⟨state, none⟩) (held : state.tree.HoldsHostPlace place parent) :
    (node : HostNode) → config.DeclaresHost place.name node →
    Enrols state.tree.names (namedIn place.name (node.hostNames (parent.map (·.hostName))))
      ((state.buildHost config.sites place parent (config.inherited parent) node).map (·.tree))
  | .node own root ports hosts, declared => by
    unfold BuildState.buildHost HostNode.hostNames
    cases labelled : nodeLabels own.name with
    | error fault =>
      simp only [BuildState.attachHost, labelled]
      exact .all (List.Perm.of_eq (List.append_nil _).symm)
    | ok labels =>
      have here := BuildState.attachHost_enrols (config.inherited parent)
        (HostNode.node own root ports hosts).portNodes good held labelled
      rw [namedIn, List.map_append]
      split
      · rename_i issues ended
        rw [ended] at here
        cases here with
        | clash repeated => exact .clash (not_nodup_append repeated)
      · -- A node with labels has a last host.
        rename_i next attached
        have isLast := BuildState.hostName_attachHost labelled attached
        have named : (lastHostName (parent.map (·.hostName)) labels).isSome :=
          isSome_lastHostName (nodeLabels_ne_nil labelled)
        rw [← isLast] at named
        cases named
      · rename_i next host attached
        have isLast := BuildState.hostName_attachHost labelled attached
        obtain ⟨reaches, _, below⟩ := BuildState.attachHost_reaches held declared attached
        have inner := BuildState.buildHosts_enrols (reaches.good good) (below host rfl) hosts
          fun child member => .nested declared member
        rw [isLast] at inner
        rw [attached] at here
        cases here with
        | all names => exact inner.after names

theorem BuildState.buildHosts_enrols {state : BuildState} {parent : Option VirtualHost}
    (good : Draft.Good config ⟨state, none⟩) (held : state.tree.HoldsHostPlace place parent) :
    (nodes : List HostNode) → (∀ node ∈ nodes, config.DeclaresHost place.name node) →
    Enrols state.tree.names (namedIn place.name (HostNode.hostNamesOfAll (parent.map (·.hostName)) nodes))
      ((state.buildHosts config.sites place parent (config.inherited parent) nodes).map (·.tree))
  | [], _ => by
    unfold BuildState.buildHosts HostNode.hostNamesOfAll
    exact .all (List.Perm.of_eq (List.append_nil _).symm)
  | node :: rest, declared => by
    have first := BuildState.buildHost_enrols good held node (declared node List.mem_cons_self)
    unfold BuildState.buildHosts HostNode.hostNamesOfAll
    rw [namedIn, List.map_append]
    split
    · rename_i issues ended
      rw [ended] at first
      cases first with
      | clash repeated => exact .clash (not_nodup_append repeated)
    · rename_i next built
      have reaches := BuildState.buildHost_reaches held node (declared node List.mem_cons_self) built
      have later := BuildState.buildHosts_enrols (reaches.good good) (held.extends reaches.extends) rest
        fun other member => declared other (List.mem_cons_of_mem _ member)
      rw [built] at first
      cases first with
      | all names => exact later.after names

end

end Hosts

section Groups

variable {config : Configuration}

theorem BuildState.buildGroup_enrols {state : BuildState} {group : GroupNode}
    (good : Draft.Good config ⟨state, none⟩) (declared : group ∈ config.hostGroups) :
    Enrols state.tree.names group.names
      ((state.buildGroup config.sites config.hosts.properties group).map (·.tree)) := by
  unfold BuildState.buildGroup
  dsimp only
  split
  · rename_i fault refused
    exact .clash (not_nodup_of_mem (HostingTree.mem_names_of_addGroup refused))
  · rename_i tree added
    have reaches : Draft.Reaches config ⟨state, none⟩ _ :=
      (BuildState.reported_step _ _).tail (.groupAdded declared added)
    have place := HostingTree.holdsHostPlace_addGroup added
    have hosts := BuildState.buildHosts_enrols (reaches.good good) place group.hosts
      fun node here => .top declared here
    exact hosts.after (HostingTree.names_addGroup added)

theorem BuildState.buildGroups_enrols {state : BuildState} {groups : List GroupNode}
    (good : Draft.Good config ⟨state, none⟩) (declared : ∀ group ∈ groups, group ∈ config.hostGroups) :
    Enrols state.tree.names (groups.flatMap GroupNode.names)
      ((state.buildGroups config.sites config.hosts.properties groups).map (·.tree)) := by
  induction groups generalizing state with
  | nil => exact .all (List.Perm.of_eq (List.append_nil _).symm)
  | cons group rest ih =>
    have first := BuildState.buildGroup_enrols good (declared group List.mem_cons_self)
    unfold BuildState.buildGroups
    rw [List.flatMap_cons]
    split
    · rename_i issues ended
      rw [ended] at first
      cases first with
      | clash repeated => exact .clash (not_nodup_append repeated)
    · rename_i next built
      have reaches := BuildState.buildGroup_reaches (declared group List.mem_cons_self) built
      have later := ih (reaches.good good) fun other member => declared other (List.mem_cons_of_mem _ member)
      rw [built] at first
      cases first with
      | all names => exact later.after names

theorem Configuration.assemble_enrols : Enrols [] config.names (config.assemble.map (·.tree)) := by
  have start : Draft.Reaches config ⟨{}, none⟩ ⟨BuildState.report {} defaultsLocation config.hosts.faults, none⟩ :=
    BuildState.reported_step _ _
  exact BuildState.buildGroups_enrols (start.good (Draft.good_start config)) fun _ member => member

theorem Configuration.names_of_assemble {state : BuildState} (assembled : config.assemble = .ok state) :
    state.tree.names.Perm config.names := by
  have enrols := config.assemble_enrols
  rw [assembled] at enrols
  cases enrols with
  | all names => exact names

/-- A build ends early exactly if two groups, or two hosts of one group,
would have one name. Whatever else is wrong is only reported, and a policy
decides what to make of it. -/
theorem Configuration.assemble_eq_error_iff :
    (∃ issues, config.assemble = .error issues) ↔ ¬ config.names.Nodup := by
  cases assembled : config.assemble with
  | error issues =>
    have enrols := config.assemble_enrols
    rw [assembled] at enrols
    cases enrols with
    | clash repeated => exact iff_of_true ⟨issues, rfl⟩ repeated
  | ok state =>
    have nodup := (Configuration.names_of_assemble assembled).nodup_iff.mp
      (Configuration.assemble_good assembled).named_tree.nodup
    refine iff_of_false ?_ (not_not_intro nodup)
    rintro ⟨issues, impossible⟩
    cases impossible

theorem GroupNode.nodup_names_iff (group : GroupNode) : group.names.Nodup ↔ group.hostNames.Nodup := by
  have injective : Function.Injective fun hostName => NodeName.mk group.name (some hostName) :=
    fun one other same => Option.some.inj (congrArg NodeName.hostName same)
  have own : NodeName.mk group.name none ∉ namedIn group.name group.hostNames := by simp [namedIn]
  rw [GroupNode.names, List.nodup_cons, namedIn, List.nodup_map_iff injective]
  exact and_iff_right own

theorem GroupNode.group_of_mem_names {group : GroupNode} {name : NodeName} (member : name ∈ group.names) :
    name.group = group.name := by
  rcases List.mem_cons.mp member with rfl | isHost
  · rfl
  · obtain ⟨hostName, _, rfl⟩ := List.mem_map.mp isHost
    rfl

/-- Names come up twice among the groups, or within one of them. -/
theorem Configuration.nodup_names_iff (config : Configuration) :
    config.names.Nodup ↔ (config.hostGroups.map (·.name)).Nodup ∧
      ∀ group ∈ config.hostGroups, group.hostNames.Nodup := by
  have apart (a b : GroupNode) : List.Disjoint a.names b.names ↔ a.name ≠ b.name := by
    constructor
    · intro disjoint same
      exact disjoint List.mem_cons_self (by rw [same]; exact List.mem_cons_self)
    · intro differs name inA inB
      exact differs ((GroupNode.group_of_mem_names inA).symm.trans (GroupNode.group_of_mem_names inB))
  rw [Configuration.names, List.nodup_flatMap, and_comm]
  refine and_congr ?_ (forall₂_congr fun group _ => group.nodup_names_iff)
  rw [List.Nodup, List.pairwise_map]
  exact ⟨fun all => all.imp (apart _ _).mp, fun all => all.imp (apart _ _).mpr⟩

end Groups

def reportedIssues : Except (List Issue) Registry → List Issue
  | .error issues => issues
  | .ok registry => registry.issues

section Policies

variable {config : Configuration} {policy : BuildPolicy} {generation : Nat}

theorem Configuration.build_of_error {issues : List Issue} (ended : config.assemble = .error issues) :
    config.build policy generation = .error issues := by
  rw [Configuration.build, ended]
  rfl

theorem Configuration.build_of_ok {state : BuildState} (assembled : config.assemble = .ok state) :
    config.build policy generation = if (issuesAtLeast policy.refuses state.issues).isEmpty then
      .ok (.ofBuild state config.hosts generation) else .error state.issues := by
  rw [Configuration.build, assembled, BuildPolicy.judge]
  split <;> rfl

/-- A policy decides whether there is a registry, not what is found. -/
theorem Configuration.reportedIssues_build :
    reportedIssues (config.build policy generation) = issuesOf config.assemble := by
  cases assembled : config.assemble with
  | error issues =>
    rw [Configuration.build_of_error assembled]
    rfl
  | ok state =>
    rw [Configuration.build_of_ok assembled]
    split <;> rfl

theorem Configuration.bearable_of_ok {state : BuildState} (assembled : config.assemble = .ok state) :
    AreBearable state.issues := by
  have leaves := config.assemble_leaves
  rw [assembled] at leaves
  cases leaves with
  | goesOn reports =>
    obtain ⟨found, isFound, bearable⟩ := reports
    rw [isFound]
    exact bearable

theorem Configuration.build_lenient_of_ok {state : BuildState} (assembled : config.assemble = .ok state) :
    config.build .lenient generation = .ok (.ofBuild state config.hosts generation) := by
  have clean : (issuesAtLeast BuildPolicy.lenient.refuses state.issues).isEmpty := by
    refine List.isEmpty_iff.mpr (List.filter_eq_nil_iff.mpr fun issue member fatal => ?_)
    have bearable := Configuration.bearable_of_ok assembled issue member
    cases severity : issue.severity <;> simp_all [BuildPolicy.refuses, Severity.atLeast, Severity.rank]
  rw [Configuration.build_of_ok assembled, if_pos clean]

theorem Configuration.build_lenient_eq_error_iff :
    (∃ issues, config.build .lenient generation = .error issues) ↔
      ∃ issues, config.assemble = .error issues := by
  cases assembled : config.assemble with
  | error issues => exact iff_of_true ⟨issues, Configuration.build_of_error assembled⟩ ⟨issues, rfl⟩
  | ok state =>
    rw [Configuration.build_lenient_of_ok assembled]
    exact iff_of_false (fun ⟨_, impossible⟩ => nomatch impossible) (fun ⟨_, impossible⟩ => nomatch impossible)

theorem Configuration.build_strict_eq_error_iff :
    (∃ issues, config.build .strict generation = .error issues) ↔
      (∃ issues, config.assemble = .error issues) ∨
        ∃ issue ∈ issuesOf config.assemble, issue.severity = .error := by
  cases assembled : config.assemble with
  | error issues => exact iff_of_true ⟨issues, Configuration.build_of_error assembled⟩ (.inl ⟨issues, rfl⟩)
  | ok state =>
    have bearable := Configuration.bearable_of_ok assembled
    have refused : (issuesAtLeast BuildPolicy.strict.refuses state.issues).isEmpty = false ↔
        ∃ issue ∈ state.issues, issue.severity = .error := by
      rw [List.isEmpty_eq_false_iff_exists_mem]
      refine exists_congr fun issue => ?_
      rw [issuesAtLeast, List.mem_filter]
      refine and_congr_right fun member => ?_
      have tolerated := bearable issue member
      cases severity : issue.severity <;> simp_all [BuildPolicy.refuses, Severity.atLeast, Severity.rank]
    have goesOn : ¬ ∃ issues, (Except.ok state : BuildResult) = .error issues :=
      fun ⟨_, impossible⟩ => nomatch impossible
    rw [Configuration.build_of_ok assembled, or_iff_right goesOn, issuesOf, ← refused]
    split <;> simp_all

theorem Configuration.bearable_dropLast : AreBearable (issuesOf config.assemble).dropLast := by
  cases assembled : config.assemble with
  | error issues =>
    have leaves := config.assemble_leaves
    rw [assembled] at leaves
    cases leaves with
    | ends bearable fatal => rwa [issuesOf, List.dropLast_concat]
  | ok state => exact fun issue member =>
      Configuration.bearable_of_ok assembled issue (List.mem_of_mem_dropLast member)

/-- A lenient build is refused exactly if two groups have one name or two
hosts of a group have one full name, and a strict one if there is an error
besides. Both report the same and, where both are accepted, answer the same
registry; the one fatal issue that there may be is the last. -/
theorem Configuration.build_rejected (config : Configuration) (generation later : Nat) :
    ((∃ issues, config.build .lenient generation = .error issues) ↔
      ¬ (config.hostGroups.map (·.name)).Nodup ∨ ∃ group ∈ config.hostGroups, ¬ group.hostNames.Nodup) ∧
    ((∃ issues, config.build .strict later = .error issues) ↔
      (∃ issues, config.build .lenient generation = .error issues) ∨
        ∃ issue ∈ reportedIssues (config.build .lenient generation), issue.severity = .error) ∧
    reportedIssues (config.build .strict later) = reportedIssues (config.build .lenient generation) ∧
    (∀ strict lenient, config.build .strict later = .ok strict →
      config.build .lenient generation = .ok lenient →
      strict.tree = lenient.tree ∧ strict.index = lenient.index ∧ strict.settings = lenient.settings) ∧
    ∀ issue ∈ (reportedIssues (config.build .lenient generation)).dropLast, issue.severity ≠ .fatal := by
  refine ⟨?_, ?_, ?_, ?_, ?_⟩
  · rw [Configuration.build_lenient_eq_error_iff, Configuration.assemble_eq_error_iff,
      Configuration.nodup_names_iff, not_and_or]
    simp only [not_forall, exists_prop]
  · rw [Configuration.build_strict_eq_error_iff, Configuration.build_lenient_eq_error_iff,
      Configuration.reportedIssues_build]
  · rw [Configuration.reportedIssues_build, Configuration.reportedIssues_build]
  · intro strict lenient strictly leniently
    obtain ⟨state, assembled, _, rfl⟩ := Configuration.build_eq_ok_iff.mp strictly
    obtain ⟨same, assembledToo, _, rfl⟩ := Configuration.build_eq_ok_iff.mp leniently
    cases assembled.symm.trans assembledToo
    exact ⟨rfl, rfl, rfl⟩
  · rw [Configuration.reportedIssues_build]
    exact Configuration.bearable_dropLast

/-- The labels on the way to an address are hosts as well, so another
host can collide with one. -/
example : reportedIssues (Configuration.build { hostGroups := [{
      name := "prod"
      hosts := [.node { name := "10.0.0.1" } none [] [], .node { name := "api.v2" } none [] [],
        .node { name := "1" } none [] []] }] } .lenient 1) = [
    ⟨"prod/api.v2", .dottedHostName "api.v2"⟩, ⟨"prod/1", .duplicateHost "prod" "1"⟩] := by
  decide +kernel

end Policies

end SiteRouting
