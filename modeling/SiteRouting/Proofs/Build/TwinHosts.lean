import Mathlib
import SiteRouting.Proofs.Build.TwinMounts

namespace SiteRouting

section Hosts

variable {config : Configuration} {twin : TwinBuild} {place : GroupPlace} {parent : Option VirtualHost}
  {above base : HostLineage}

/-- The host for a label is linked below its parent, and no port is
bound on it yet. -/
theorem TwinBuild.HostPlaced.addHost {tree : HostingTree} {label : String} {host : VirtualHost}
    (placed : twin.HostPlaced config place parent above) (counted : twin.Counted)
    (entered : base.Enters above)
    (added : twin.tree.addHost place.position (parent.map (·.id))
      (.detached label parent place.name place.cmsLocation (base.properties config.hosts)) =
        .ok (tree, host)) :
    twin.Runs config (twin.withHost tree (base.withLabel label)) [] [base.withLabel label] [] ∧
      (twin.withHost tree (base.withLabel label)).HostPlaced config place (some host)
        (base.withLabel label) ∧
      (twin.withHost tree (base.withLabel label)).tree.boundPorts host.id = [] := by
  have last : host.id = twin.tree.hosts.size := by rw [(HostingTree.unlinked_addHost added).1]
  refine ⟨⟨.single (.hostAdded placed entered added), (List.append_nil _).symm, rfl,
    (List.append_nil _).symm⟩, ⟨?_, fun isTop => (by cases isTop), ?_⟩,
    HostingTree.boundPorts_new rfl added⟩
  · rcases entered with rfl | ⟨own, rfl⟩ <;> exact placed.group
  · intro same isHost
    cases isHost
    exact ⟨by simp [TwinBuild.withHost, last, ← counted.hosts], placed.describes entered added⟩

/-- The hosts for the labels of a node are linked each below the one before. -/
theorem TwinBuild.HostPlaced.addHostChain {tree : HostingTree} {label : String} {rest : List String}
    {last : Option VirtualHost} (placed : twin.HostPlaced config place parent above)
    (counted : twin.Counted) (entered : base.Enters above)
    (added : twin.tree.addHostChain place (base.properties config.hosts) parent (label :: rest) =
      .ok (tree, last)) :
    ∃ after host, last = some host ∧
      twin.Runs config after [] (base.chain (label :: rest)) [] ∧
      after.whole = { twin.whole with tree } ∧ after.kept = { twin.kept with tree } ∧
      after.HostPlaced config place last ((label :: rest).foldl HostLineage.withLabel base) ∧
      after.tree.boundPorts host.id = [] := by
  rw [HostingTree.addHostChain] at added
  split at added
  · cases added
  rename_i grown host first
  obtain ⟨runs, below, unbound⟩ := placed.addHost counted entered first
  induction rest generalizing twin parent above base label grown host with
  | nil =>
    obtain ⟨rfl, rfl⟩ := Prod.mk.inj (Except.ok.inj added)
    exact ⟨_, host, rfl, runs, rfl, rfl, below, unbound⟩
  | cons next rest ih =>
    rw [HostingTree.addHostChain] at added
    split at added
    · cases added
    rename_i further second linked
    obtain ⟨runsNext, belowNext, unboundNext⟩ :=
      below.addHost (runs.reaches.counted counted) (Or.inl rfl) linked
    obtain ⟨after, deepest, isLast, later, whole, kept, placedLast, fresh⟩ :=
      ih below (runs.reaches.counted counted) (Or.inl rfl) _ _ linked added runsNext belowNext unboundNext
    exact ⟨after, deepest, isLast, runs.trans later, whole, kept, placedLast, fresh⟩

theorem TwinBuild.HostPlaced.hostLocation_eq (placed : twin.HostPlaced config place parent above)
    (name : String) : hostLocation place.name name parent = above.locationBelow name := by
  rw [HostLineage.locationBelow, placed.group]
  cases parent with
  | none => simp [hostLocation, (placed.top rfl).1]
  | some host =>
    have described := (placed.below host rfl).described
    simp [hostLocation, described.isLabelled, described.hostName]

theorem TwinBuild.HostPlaced.attachHost {own : HostSettings} {labels : List String}
    {ports : List PortNode} {finished : BuildState} {answer : Option VirtualHost}
    (placed : twin.HostPlaced config place parent above) (counted : twin.Counted)
    (labelled : nodeLabels own.name = .ok labels)
    (attached : twin.whole.attachHost config.sites place parent (above.properties config.hosts) own ports =
      .ok (finished, answer)) :
    ∃ after host, answer = some host ∧
      twin.Runs config after (PortNode.pruneAll config (above.below own) [] ports).cuts
        ((above.withNode own).chain own.labels)
        ((PortNode.pruneAll config (above.below own) [] ports).kept.flatMap
          (PortNode.lineages (above.below own))) ∧
      finished = after.whole ∧
      twin.kept.attachHost config.sites place parent (above.properties config.hosts) own
        (PortNode.pruneAll config (above.below own) [] ports).kept = .ok (after.kept, some host) ∧
      after.HostPlaced config place (some host) (above.below own) := by
  obtain ⟨tree, chain⟩ := BuildState.chain_of_attachHost _ labelled attached
  obtain ⟨label, rest, rfl⟩ := List.exists_cons_of_ne_nil (nodeLabels_ne_nil labelled)
  have noted := TwinBuild.runs_note config twin (hostLocation place.name own.name parent)
    (NodeSettings.areNotes_faults own.toNodeSettings)
  obtain ⟨linked, host, rfl, chained, wholeChain, keptChain, below, unbound⟩ :=
    (placed.extends noted.reaches.extends).addHostChain (noted.reaches.counted counted)
      (Or.inr ⟨own, rfl⟩) chain
  have lineage : (label :: rest).foldl HostLineage.withLabel (above.withNode own) = above.below own := by
    rw [HostLineage.below, HostSettings.labels_eq labelled]
  rw [lineage] at below
  have held := below.below host rfl
  have location : s!"{place.name}/{host.hostName}" = (above.below own).location := by
    rw [below.group, held.described.hostName]
    rfl
  have linkedRuns := noted.trans chained
  obtain ⟨after, runs, whole, kept⟩ :=
    held.buildPorts (linkedRuns.reaches.counted counted) unbound ports
  rw [twin.whole.attachHost_of_chain labelled chain, location] at attached
  rw [twin.kept.attachHost_of_chain labelled chain, location]
  refine ⟨after, host, rfl, ?_, ?_, ?_, below.extends runs.reaches.extends⟩
  · rw [HostSettings.labels_eq labelled]
    simpa only [List.nil_append, List.append_nil] using linkedRuns.trans runs
  · rw [← whole, wholeChain]
    exact (Prod.mk.inj (Except.ok.inj attached)).1.symm
  · rw [← kept, keptChain]
    rfl

theorem TwinBuild.HostPlaced.buildHost_of_cut {node : HostNode} {cut : Cut}
    (placed : twin.HostPlaced config place parent above) (pruned : node.prune config above = .error cut) :
    cut.issue.fault.cutsOff = true ∧
      twin.whole.buildHost config.sites place parent (above.properties config.hosts) node =
        .ok (twin.skip [] cut).whole := by
  obtain ⟨own, root, ports, hosts⟩ := node
  rw [HostNode.prune] at pruned
  split at pruned
  · rename_i fault refused
    cases pruned
    refine ⟨nodeLabels_fault refused, ?_⟩
    simp only [BuildState.buildHost, BuildState.attachHost, refused, placed.hostLocation_eq]
    rfl
  · cases pruned

-- Two hosts of one name end the build, so no names are carried along here as they are for mounts.
mutual

theorem TwinBuild.HostPlaced.buildHost_of_kept {twin : TwinBuild} {parent : Option VirtualHost}
    {above : HostLineage} (placed : twin.HostPlaced config place parent above) (counted : twin.Counted) :
    (node : HostNode) → {here : Pruned HostNode} → node.prune config above = .ok here →
    {finished : BuildState} →
    twin.whole.buildHost config.sites place parent (above.properties config.hosts) node = .ok finished →
    ∃ after, twin.Runs config after here.cuts (hostsOf (here.kept.preorder above))
        (mountsOf (here.kept.preorder above)) ∧
      finished = after.whole ∧
      twin.kept.buildHost config.sites place parent (above.properties config.hosts) here.kept =
        .ok after.kept
  | .node own root ports hosts, here, pruned, finished, built => by
    obtain ⟨labels, keptRoot, keptPorts, labelled, same, entries, cuts⟩ := HostNode.prune_eq_ok pruned
    rw [BuildState.buildHost] at built
    split at built
    · cases built
    · rename_i attached
      obtain ⟨_, _, impossible, _⟩ := placed.attachHost counted labelled attached
      cases impossible
    · rename_i next host attached
      obtain ⟨linked, _, isHost, first, rfl, keptFirst, below⟩ :=
        placed.attachHost counted labelled attached
      cases isHost
      have inherits := (below.below host rfl).described.properties
      rw [inherits] at built
      obtain ⟨after, others, whole, kept⟩ := TwinBuild.HostPlaced.buildHosts_of_pruned below
        (first.reaches.counted counted) hosts built
      refine ⟨after, ?_, whole, ?_⟩
      · rw [cuts, same, HostNode.preorder, ← same]
        simp only [hostsOf, mountsOf, List.flatMap_cons, HostNode.ownMounts, HostNode.ownHosts, entries]
        rw [same]
        exact first.trans others
      · rw [same, BuildState.buildHost, ← same, entries, keptFirst]
        dsimp only
        rw [inherits, kept]

theorem TwinBuild.HostPlaced.buildHosts_of_pruned {twin : TwinBuild} {parent : Option VirtualHost}
    {above : HostLineage} (placed : twin.HostPlaced config place parent above) (counted : twin.Counted) :
    (nodes : List HostNode) → {finished : BuildState} →
    twin.whole.buildHosts config.sites place parent (above.properties config.hosts) nodes = .ok finished →
    ∃ after, twin.Runs config after (HostNode.pruneAll config above nodes).cuts
        (hostsOf (HostNode.preorderOfAll above (HostNode.pruneAll config above nodes).kept))
        (mountsOf (HostNode.preorderOfAll above (HostNode.pruneAll config above nodes).kept)) ∧
      finished = after.whole ∧
      twin.kept.buildHosts config.sites place parent (above.properties config.hosts)
        (HostNode.pruneAll config above nodes).kept = .ok after.kept
  | [], finished, built => by
    rw [BuildState.buildHosts] at built
    cases built
    rw [HostNode.pruneAll, HostNode.preorderOfAll, BuildState.buildHosts]
    exact ⟨twin, .refl config twin, rfl, rfl⟩
  | host :: rest, finished, built => by
    rw [BuildState.buildHosts] at built
    cases pruned : host.prune config above with
    | error cut =>
      obtain ⟨severe, skipped⟩ := placed.buildHost_of_cut pruned
      have left := TwinBuild.runs_skip config twin areNotes_nil severe
      rw [skipped] at built
      obtain ⟨after, runs, whole, kept⟩ := TwinBuild.HostPlaced.buildHosts_of_pruned
        (placed.extends left.reaches.extends) (left.reaches.counted counted) rest built
      simp only [HostNode.pruneAll, pruned, Pruned.afterCut]
      exact ⟨after, left.trans runs, whole, kept⟩
    | ok here =>
      split at built
      · cases built
      rename_i state first
      obtain ⟨next, runsFirst, rfl, keptFirst⟩ :=
        TwinBuild.HostPlaced.buildHost_of_kept placed counted host pruned first
      obtain ⟨after, runs, whole, kept⟩ := TwinBuild.HostPlaced.buildHosts_of_pruned
        (placed.extends runsFirst.reaches.extends) (runsFirst.reaches.counted counted) rest built
      simp only [HostNode.pruneAll, pruned, Pruned.cons, HostNode.preorderOfAll, hostsOf, mountsOf,
        List.flatMap_append, BuildState.buildHosts, keptFirst]
      exact ⟨after, runsFirst.trans runs, whole, kept⟩

end

end Hosts

section Groups

variable {config : Configuration} {twin : TwinBuild}

theorem TwinBuild.buildGroup {group : GroupNode} {finished : BuildState} (counted : twin.Counted)
    (built : twin.whole.buildGroup config.sites config.hosts.properties group = .ok finished) :
    ∃ after, twin.Runs config after (group.prune config).cuts (hostsOf (group.prune config).kept.preorder)
        (mountsOf (group.prune config).kept.preorder) ∧
      finished = after.whole ∧
      twin.kept.buildGroup config.sites config.hosts.properties (group.prune config).kept =
        .ok after.kept := by
  rw [BuildState.buildGroup] at built
  dsimp only at built
  split at built
  · cases built
  rename_i tree added
  have noted := TwinBuild.runs_note config twin group.name group.areNotes_faults
  have added' : twin.tree.addGroup group.name group.usableCmsLocation = .ok tree := added
  let opened : TwinBuild := { twin.note group.name group.faults with tree }
  have runs : twin.Runs config opened [] [] [] :=
    noted.trans { TwinBuild.Runs.refl config (twin.note group.name group.faults) with
      reaches := .single (.groupAdded added') }
  have placed : opened.HostPlaced config
      ⟨twin.tree.groups.size, group.name, group.usableCmsLocation⟩ none { group := group.name } :=
    ⟨rfl, fun _ => ⟨rfl, rfl⟩, fun host isHost => by cases isHost⟩
  obtain ⟨after, below, whole, kept⟩ :=
    placed.buildHosts_of_pruned (runs.reaches.counted counted) group.hosts built
  refine ⟨after, runs.trans below, whole, ?_⟩
  have sameGroup : (group.prune config).kept.usableCmsLocation = group.usableCmsLocation := rfl
  rw [BuildState.buildGroup]
  dsimp only
  rw [sameGroup]
  simp only [BuildState.report, TwinBuild.kept, GroupNode.prune, added']
  exact kept

theorem TwinBuild.buildGroups {groups : List GroupNode} {finished : BuildState} (counted : twin.Counted)
    (built : twin.whole.buildGroups config.sites config.hosts.properties groups = .ok finished) :
    ∃ after, twin.Runs config after (groups.flatMap fun group => (group.prune config).cuts)
        (hostsOf ((groups.map fun group => (group.prune config).kept).flatMap GroupNode.preorder))
        (mountsOf ((groups.map fun group => (group.prune config).kept).flatMap GroupNode.preorder)) ∧
      finished = after.whole ∧
      twin.kept.buildGroups config.sites config.hosts.properties
        (groups.map fun group => (group.prune config).kept) = .ok after.kept := by
  induction groups generalizing twin with
  | nil =>
    cases built
    exact ⟨twin, .refl config twin, rfl, rfl⟩
  | cons group rest ih =>
    rw [BuildState.buildGroups] at built
    split at built
    · cases built
    rename_i state first
    obtain ⟨next, runsFirst, rfl, keptFirst⟩ := twin.buildGroup counted first
    obtain ⟨after, runs, whole, kept⟩ := ih (runsFirst.reaches.counted counted) built
    simp only [List.map_cons, List.flatMap_cons, hostsOf, mountsOf, List.flatMap_append,
      BuildState.buildGroups, keptFirst]
    exact ⟨after, runsFirst.trans runs, whole, kept⟩

/-- The build of a configuration and the build of what stays of it go the same
way, host by host and group by group: a host that is left out is reported once,
and all others are linked in both with what stays of their port entries. -/
theorem Configuration.assemble_twin {state : BuildState} (assembled : config.assemble = .ok state) :
    ∃ after, TwinBuild.Runs config {} after config.prune.cuts config.prune.kept.hostLineages
        config.prune.kept.mountLineages ∧
      state = after.whole ∧ config.prune.kept.assemble = .ok after.kept := by
  have noted := TwinBuild.runs_note config {} defaultsLocation config.hosts.areNotes_faults
  obtain ⟨after, runs, whole, kept⟩ :=
    TwinBuild.buildGroups (noted.reaches.counted ⟨rfl, rfl⟩) assembled
  exact ⟨after, noted.trans runs, whole, kept⟩

end Groups

end SiteRouting
