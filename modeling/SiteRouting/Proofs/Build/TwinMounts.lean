import Mathlib
import SiteRouting.Proofs.Build.TwinBuild

namespace SiteRouting

/-- A run of both builds, with what it cuts off and what it links. Wherever a
mount or an entry is left out the build goes on as if it had not been there. -/
structure TwinBuild.Runs (config : Configuration) (before after : TwinBuild) (cuts : List Cut)
    (hosts : List HostLineage) (mounts : List MountLineage) : Prop where
  reaches : TwinBuild.Reaches config before after
  cuts : after.cuts = before.cuts ++ cuts
  hosts : after.hosts = before.hosts ++ hosts
  mounts : after.mounts = before.mounts ++ mounts

section Runs

variable {config : Configuration} {twin next after : TwinBuild}

theorem TwinBuild.Runs.refl (config : Configuration) (twin : TwinBuild) : twin.Runs config twin [] [] [] where
  reaches := .refl
  cuts := (List.append_nil _).symm
  hosts := (List.append_nil _).symm
  mounts := (List.append_nil _).symm

theorem TwinBuild.Runs.trans {cuts moreCuts : List Cut} {hosts moreHosts : List HostLineage}
    {mounts moreMounts : List MountLineage} (first : twin.Runs config next cuts hosts mounts)
    (second : next.Runs config after moreCuts moreHosts moreMounts) :
    twin.Runs config after (cuts ++ moreCuts) (hosts ++ moreHosts) (mounts ++ moreMounts) where
  reaches := first.reaches.trans second.reaches
  cuts := by rw [second.cuts, first.cuts, List.append_assoc]
  hosts := by rw [second.hosts, first.hosts, List.append_assoc]
  mounts := by rw [second.mounts, first.mounts, List.append_assoc]

theorem TwinBuild.runs_note (config : Configuration) (twin : TwinBuild) (location : String)
    {faults : List Fault} (notes : AreNotes faults) : twin.Runs config (twin.note location faults) [] [] [] :=
  { TwinBuild.Runs.refl config twin with reaches := .single (.noted location notes) }

theorem TwinBuild.runs_skip (config : Configuration) (twin : TwinBuild) {faults : List Fault} {cut : Cut}
    (notes : AreNotes faults) (severe : cut.issue.fault.cutsOff = true) :
    twin.Runs config (twin.skip faults cut) [cut] [] [] :=
  { TwinBuild.Runs.refl config twin with
    reaches := .single (.skipped notes severe)
    cuts := rfl }

end Runs

section Mounts

variable {config : Configuration} {twin : TwinBuild} {place : MountPlace} {above : MountLineage}
  {own : MountSettings} {siblings : List String}

theorem TwinBuild.MountPlaced.attachMount_of_obstacle {fault : Fault} (location : String)
    (placed : twin.MountPlaced config place above)
    (taken : twin.tree.childNames (place.parent.map (·.id)) = siblings)
    (blocked : above.obstacle? config own siblings = some fault) :
    ∃ notes, AreNotes notes ∧
      twin.whole.attachMount config.sites place (above.properties config.hosts) location own =
        (twin.whole.report location (notes ++ [fault]), none) := by
  unfold MountLineage.obstacle? at blocked
  split at blocked
  · rename_i cause refused
    cases blocked
    exact ⟨own.faults, NodeSettings.areNotes_faults _, BuildState.attachMount_of_refused _ refused⟩
  · rename_i derived
    split at blocked
    · rename_i known
      cases blocked
      obtain ⟨linked, isParent, refused⟩ := HostingTree.addMount_of_taken
        (place.detachedMount own ((above.below own).properties config.hosts) _)
        (fun mount isParent => (placed.below mount isParent).held) (taken ▸ known)
      rw [(placed.below linked isParent).described.mountPath] at refused
      exact ⟨_, (NodeSettings.areNotes_faults _).append (MountProperties.contentPaths_warnings derived),
        BuildState.attachMount_of_taken _ derived refused⟩
    · cases blocked

theorem TwinBuild.addMount_of_clear (taken : twin.tree.childNames (place.parent.map (·.id)) = siblings)
    (clear : above.obstacle? config own siblings = none) :
    ∃ content warnings tree mount,
      ((above.below own).properties config.hosts).contentPaths config.sites = .ok (content, warnings) ∧
      twin.tree.addMount (place.parent.map (·.id))
        (place.detachedMount own ((above.below own).properties config.hosts) content) =
          .ok (tree, mount) := by
  unfold MountLineage.obstacle? at clear
  split at clear
  · cases clear
  · rename_i found derived
    split at clear
    · cases clear
    · rename_i free
      obtain ⟨tree, mount, added⟩ := HostingTree.addMount_of_free
        (place.detachedMount own ((above.below own).properties config.hosts) found.1)
        (taken.symm ▸ free)
      exact ⟨found.1, found.2, tree, mount, derived, added⟩

/-- A mount that is cut off costs the whole configuration one issue,
and what stays nothing. -/
theorem TwinBuild.MountPlaced.buildMount_of_cut {node : MountNode} {cut : Cut}
    (placed : twin.MountPlaced config place above)
    (taken : twin.tree.childNames (place.parent.map (·.id)) = siblings)
    (pruned : node.prune config above siblings = .error cut) :
    ∃ notes, AreNotes notes ∧ cut.issue.fault.cutsOff = true ∧
      twin.whole.buildMount config.sites place (above.properties config.hosts) above.location node =
        ((twin.skip notes cut).whole, none) := by
  obtain ⟨own, mounts⟩ := node
  rw [MountNode.prune] at pruned
  split at pruned
  · rename_i fault blocked
    cases pruned
    obtain ⟨notes, areNotes, left⟩ :=
      placed.attachMount_of_obstacle (above.below own).location taken blocked
    refine ⟨notes, areNotes, MountLineage.obstacle?_cutsOff blocked, ?_⟩
    rw [BuildState.buildMount, ← MountLineage.location_below, left]
    rfl
  · cases pruned

/-- What both builds of a mount, or of mounts below one, come to: one and the
same tree, which has grown below the given parent only. -/
structure TwinBuild.MountsBuilt (config : Configuration) (parent : Option MountId)
    (before after : TwinBuild) (cuts : List Cut) (mounts : List MountLineage) : Prop where
  runs : before.Runs config after cuts [] mounts
  grows : after.tree.GrowsBelow before.tree parent

theorem TwinBuild.MountPlaced.attachMount_of_clear (placed : twin.MountPlaced config place above)
    (counted : twin.Counted) (taken : twin.tree.childNames (place.parent.map (·.id)) = siblings)
    (clear : above.obstacle? config own siblings = none) :
    ∃ after mount,
      TwinBuild.MountsBuilt config (place.parent.map (·.id)) twin after [] [above.below own] ∧
      twin.whole.attachMount config.sites place (above.properties config.hosts)
        (above.below own).location own = (after.whole, some mount) ∧
      twin.kept.attachMount config.sites place (above.properties config.hosts)
        (above.below own).location own = (after.kept, some mount) ∧
      after.MountPlaced config { place with parent := some mount } (above.below own) ∧
      twin.tree.mounts.size ≤ mount.id ∧ after.tree.childNames (some mount.id) = [] ∧
      ∀ linked, place.parent = some linked →
        after.tree.childNames (some linked.id) = siblings ++ [own.name] := by
  obtain ⟨content, warnings, tree, mount, derived, added⟩ := TwinBuild.addMount_of_clear taken clear
  have step := TwinBuild.Step.mountAdded placed derived added
  have last : mount.id = twin.tree.mounts.size := by rw [(HostingTree.unlinked_addMount added).1]
  refine ⟨_, mount, ⟨⟨.single step, (List.append_nil _).symm, (List.append_nil _).symm, rfl⟩,
    HostingTree.growsBelow_addMount added⟩, ?_, ?_, ?_, last.ge, ?_, ?_⟩
  · exact twin.whole.attachMount_of_added derived added
  · exact twin.kept.attachMount_of_added derived added
  · have later := placed.extends step.extends
    refine ⟨later.host, later.port, fun isTop => (by cases isTop), ?_⟩
    intro same isMount
    cases isMount
    refine ⟨?_, HostingTree.holdsMount_addMount added, placed.describes derived added⟩
    simp [TwinBuild.withMount, TwinBuild.note, last, ← counted.mounts]
  · exact HostingTree.childNames_new rfl added
  · intro linked isParent
    have within := HostingTree.HoldsMount.lt_size (placed.below linked isParent).held
    have names := HostingTree.childNames_addMount added within
    rw [isParent, Option.map_some] at taken names
    rw [if_pos rfl, taken] at names
    exact names

-- The induction is on the nodes. Whether a mount stays depends on the names that are taken below its
-- parent, so each case also says which names are taken when it is done.
mutual

theorem TwinBuild.MountPlaced.buildMount_of_kept {twin : TwinBuild} {place : MountPlace}
    {above : MountLineage} {siblings : List String} (counted : twin.Counted)
    (placed : twin.MountPlaced config place above)
    (taken : twin.tree.childNames (place.parent.map (·.id)) = siblings) :
    (node : MountNode) → {here : Pruned MountNode} → node.prune config above siblings = .ok here →
    ∃ after mount,
      TwinBuild.MountsBuilt config (place.parent.map (·.id)) twin after here.cuts
        (here.kept.lineages above) ∧
      twin.whole.buildMount config.sites place (above.properties config.hosts) above.location node =
        (after.whole, some mount) ∧
      twin.kept.buildMount config.sites place (above.properties config.hosts) above.location here.kept =
        (after.kept, some mount) ∧
      ∀ linked, place.parent = some linked →
        after.tree.childNames (some linked.id) = siblings ++ [node.settings.name]
  | .node own mounts, here, pruned => by
    rw [MountNode.prune] at pruned
    split at pruned
    · cases pruned
    rename_i clear
    cases pruned
    obtain ⟨next, mount, attached, whole, kept, below, isNew, childless, named⟩ :=
      placed.attachMount_of_clear counted taken clear
    have inherits : mount.properties = (above.below own).properties config.hosts := below.inherited
    obtain ⟨after, built, wholeBelow, keptBelow⟩ := TwinBuild.MountPlaced.buildMounts_of_pruned
      (attached.runs.reaches.counted counted) below rfl childless mounts
    refine ⟨after, mount, ⟨attached.runs.trans built.runs, built.grows.nested attached.grows isNew⟩,
      ?_, ?_, ?_⟩
    · rw [BuildState.buildMount, ← MountLineage.location_below, whole]
      dsimp only
      rw [inherits, wholeBelow]
    · rw [BuildState.buildMount, ← MountLineage.location_below, kept]
      dsimp only
      rw [inherits, keptBelow]
    · -- What is built below the new mount adds no name beside it.
      intro linked isParent
      have within := HostingTree.HoldsMount.lt_size (placed.below linked isParent).held
      have elsewhere : (some mount.id : Option MountId) ≠ some linked.id := fun same =>
        Nat.ne_of_gt (lt_of_lt_of_le within isNew) (Option.some.inj same)
      exact (built.grows.names _ (lt_of_lt_of_le within attached.grows.size) elsewhere).trans
        (named linked isParent)

theorem TwinBuild.MountPlaced.buildMounts_of_pruned {twin : TwinBuild} {place : MountPlace}
    {above : MountLineage} {siblings : List String} {parent : Mount} (counted : twin.Counted)
    (placed : twin.MountPlaced config place above) (isParent : place.parent = some parent)
    (taken : twin.tree.childNames (some parent.id) = siblings) :
    (nodes : List MountNode) →
    ∃ after,
      TwinBuild.MountsBuilt config (some parent.id) twin after
        (MountNode.pruneAll config above siblings nodes).cuts
        (MountNode.lineagesOfAll above (MountNode.pruneAll config above siblings nodes).kept) ∧
      twin.whole.buildMounts config.sites place (above.properties config.hosts) above.location nodes =
        after.whole ∧
      twin.kept.buildMounts config.sites place (above.properties config.hosts) above.location
        (MountNode.pruneAll config above siblings nodes).kept = after.kept
  | [] => by
    rw [MountNode.pruneAll]
    refine ⟨twin, ⟨.refl config twin, .refl _ _⟩, ?_, ?_⟩
    · rw [BuildState.buildMounts]
    · rw [BuildState.buildMounts]
  | mount :: rest => by
    have names : twin.tree.childNames (place.parent.map (·.id)) = siblings := by
      rw [isParent]
      exact taken
    cases pruned : mount.prune config above siblings with
    | error cut =>
      obtain ⟨notes, areNotes, severe, skipped⟩ := placed.buildMount_of_cut names pruned
      have left := TwinBuild.runs_skip config twin areNotes severe
      obtain ⟨after, built, whole, kept⟩ := TwinBuild.MountPlaced.buildMounts_of_pruned
        (left.reaches.counted counted) (placed.extends left.reaches.extends) isParent taken rest
      refine ⟨after, ⟨?_, built.grows⟩, ?_, ?_⟩
      · simp only [MountNode.pruneAll, pruned, Pruned.afterCut]
        exact left.trans built.runs
      · rw [BuildState.buildMounts, skipped]
        exact whole
      · simp only [MountNode.pruneAll, pruned, Pruned.afterCut]
        exact kept
    | ok here =>
      obtain ⟨next, linked, first, wholeFirst, keptFirst, named⟩ :=
        TwinBuild.MountPlaced.buildMount_of_kept counted placed names mount pruned
      obtain ⟨after, built, whole, kept⟩ := TwinBuild.MountPlaced.buildMounts_of_pruned
        (first.runs.reaches.counted counted) (placed.extends first.runs.reaches.extends) isParent
        (named parent isParent) rest
      rw [isParent] at first
      refine ⟨after, ⟨?_, built.grows.trans first.grows⟩, ?_, ?_⟩
      · simp only [MountNode.pruneAll, pruned, Pruned.cons, MountNode.lineagesOfAll]
        exact first.runs.trans built.runs
      · rw [BuildState.buildMounts, wholeFirst]
        exact whole
      · simp only [MountNode.pruneAll, pruned, Pruned.cons, BuildState.buildMounts, keptFirst]
        exact kept

end

end Mounts

section Ports

variable {config : Configuration} {twin : TwinBuild} {host : VirtualHost} {lineage : HostLineage}
  {bound : List Port}

theorem TwinBuild.HostHeld.mountPlaced (held : twin.HostHeld config host lineage) (port : Port) :
    twin.MountPlaced config { host, port } { host := lineage, port } where
  host := held
  port := rfl
  top _ := rfl
  below mount isParent := by cases isParent

theorem TwinBuild.HostHeld.inherited (held : twin.HostHeld config host lineage) (port : Port) :
    MountProperties.ofHost host.properties =
      ({ host := lineage, port } : MountLineage).properties config.hosts := by
  rw [held.described.properties]
  rfl

theorem TwinBuild.HostHeld.buildPort_of_cut {node : PortNode} {cut : Cut}
    (held : twin.HostHeld config host lineage) (taken : twin.tree.boundPorts host.id = bound)
    (pruned : node.prune config lineage bound = .error cut) :
    ∃ notes, AreNotes notes ∧ cut.issue.fault.cutsOff = true ∧
      twin.whole.buildPort config.sites host lineage.location node = (twin.skip notes cut).whole := by
  rw [PortNode.prune] at pruned
  split at pruned
  · rename_i known
    cases pruned
    refine ⟨[], areNotes_nil, rfl, ?_⟩
    rw [BuildState.buildPort_of_bound _ (HostingTree.hasPortMount_iff.mpr (taken ▸ known)),
      held.described.hostName]
    rfl
  rename_i free
  have unbound : ¬ twin.whole.tree.hasPortMount host.id node.port :=
    fun found => free (taken ▸ HostingTree.hasPortMount_iff.mp found)
  cases isRoot : node.root with
  | none =>
    rw [isRoot] at pruned
    cases pruned
  | some root =>
    simp only [isRoot] at pruned
    split at pruned
    · rename_i rootCut prunedRoot
      cases pruned
      obtain ⟨notes, areNotes, severe, skipped⟩ :=
        (held.mountPlaced node.port).buildMount_of_cut rfl prunedRoot
      rw [← held.inherited node.port] at skipped
      exact ⟨notes, areNotes, severe, BuildState.buildPort_of_skipped _ unbound isRoot skipped⟩
    · cases pruned

theorem TwinBuild.HostHeld.bindPort {port : Port} (root : Option MountId) (location : String)
    (held : twin.HostHeld config host lineage) (counted : twin.Counted)
    (taken : twin.tree.boundPorts host.id = bound) (free : port ∉ bound) :
    ∃ after, twin.Runs config after [] [] [] ∧
      twin.whole.bindPort host location ⟨port, root⟩ = after.whole ∧
      twin.kept.bindPort host location ⟨port, root⟩ = after.kept ∧
      after.tree.boundPorts host.id = bound ++ [port] := by
  obtain ⟨tree, added⟩ := HostingTree.addPortMount_of_free ⟨port, root⟩ (taken.symm ▸ free)
  have within : host.id < twin.tree.hosts.size :=
    counted.hosts ▸ (List.getElem?_eq_some_iff.mp held.listed).1
  refine ⟨{ twin with tree }, { TwinBuild.Runs.refl config twin with
    reaches := .single (.portBound added) }, ?_, ?_, ?_⟩
  · exact BuildState.bindPort_of_added _ added
  · exact BuildState.bindPort_of_added _ added
  · rw [← taken]
    exact HostingTree.boundPorts_addPortMount within added

theorem TwinBuild.HostHeld.buildPort_of_kept {node : PortNode} {here : Pruned PortNode}
    (held : twin.HostHeld config host lineage) (counted : twin.Counted)
    (taken : twin.tree.boundPorts host.id = bound)
    (pruned : node.prune config lineage bound = .ok here) :
    ∃ after, twin.Runs config after here.cuts [] (here.kept.lineages lineage) ∧
      twin.whole.buildPort config.sites host lineage.location node = after.whole ∧
      twin.kept.buildPort config.sites host lineage.location here.kept = after.kept ∧
      after.tree.boundPorts host.id = bound ++ [node.port] := by
  rw [PortNode.prune] at pruned
  split at pruned
  · cases pruned
  rename_i free
  have unbound : ¬ twin.tree.hasPortMount host.id node.port :=
    fun found => free (taken ▸ HostingTree.hasPortMount_iff.mp found)
  have inherits := held.inherited node.port
  cases isRoot : node.root with
  | none =>
    simp only [isRoot] at pruned
    cases pruned
    let location := s!"{lineage.location}:{node.port}"
    have noted := TwinBuild.runs_note config twin location
      (areNotes_singleton (.missingRootMount host.hostName node.port) rfl rfl)
    obtain ⟨after, bindings, whole, kept, ports⟩ := (held.extends noted.reaches.extends).bindPort
      none location (noted.reaches.counted counted) taken free
    have mountless : node.lineages lineage = [] := by rw [PortNode.lineages, isRoot]
    refine ⟨after, ?_, ?_, ?_, ports⟩
    · rw [mountless]
      exact noted.trans bindings
    · exact (twin.whole.buildPort_of_rootless unbound isRoot).trans whole
    · exact (twin.kept.buildPort_of_rootless unbound isRoot).trans kept
  | some root =>
    simp only [isRoot] at pruned
    split at pruned
    · cases pruned
    rename_i keptRoot prunedRoot
    cases pruned
    obtain ⟨next, mount, built, whole, kept, _⟩ :=
      (held.mountPlaced node.port).buildMount_of_kept counted rfl root prunedRoot
    rw [← inherits] at whole kept
    -- The mount tree below the port changed no host.
    have untouched : next.tree.boundPorts host.id = bound := by
      rw [HostingTree.boundPorts, HostingTree.host?, built.grows.hosts]
      exact taken
    obtain ⟨after, bindings, wholeBound, keptBound, ports⟩ :=
      (held.extends built.runs.reaches.extends).bindPort (some mount.id)
        s!"{lineage.location}:{node.port}" (built.runs.reaches.counted counted) untouched free
    refine ⟨after, ?_, ?_, ?_, ports⟩
    · simpa only [PortNode.lineages, List.append_nil] using built.runs.trans bindings
    · exact (twin.whole.buildPort_of_built unbound isRoot whole).trans wholeBound
    · let keptNode : PortNode := { node with root := some keptRoot.kept }
      have unboundKept : ¬ twin.kept.tree.hasPortMount host.id keptNode.port := unbound
      have isKept : keptNode.root = some keptRoot.kept := rfl
      exact (twin.kept.buildPort_of_built unboundKept isKept kept).trans keptBound

theorem TwinBuild.HostHeld.buildPorts (held : twin.HostHeld config host lineage) (counted : twin.Counted)
    (taken : twin.tree.boundPorts host.id = bound) (nodes : List PortNode) :
    ∃ after, twin.Runs config after (PortNode.pruneAll config lineage bound nodes).cuts []
        ((PortNode.pruneAll config lineage bound nodes).kept.flatMap (PortNode.lineages lineage)) ∧
      nodes.foldl (BuildState.buildPort config.sites host lineage.location) twin.whole = after.whole ∧
      (PortNode.pruneAll config lineage bound nodes).kept.foldl
        (BuildState.buildPort config.sites host lineage.location) twin.kept = after.kept := by
  induction nodes generalizing twin bound with
  | nil => exact ⟨twin, .refl config twin, rfl, rfl⟩
  | cons node rest ih =>
    cases pruned : node.prune config lineage bound with
    | error cut =>
      obtain ⟨notes, areNotes, severe, skipped⟩ := held.buildPort_of_cut taken pruned
      have left := TwinBuild.runs_skip config twin areNotes severe
      obtain ⟨after, runs, whole, kept⟩ := ih
        (held.extends left.reaches.extends) (left.reaches.counted counted) taken
      simp only [PortNode.pruneAll, pruned, Pruned.afterCut, List.foldl_cons]
      exact ⟨after, left.trans runs, skipped ▸ whole, kept⟩
    | ok here =>
      obtain ⟨next, first, wholeFirst, keptFirst, ports⟩ := held.buildPort_of_kept counted taken pruned
      obtain ⟨after, runs, whole, kept⟩ :=
        ih (held.extends first.reaches.extends) (first.reaches.counted counted) ports
      simp only [PortNode.pruneAll, pruned, Pruned.cons, List.foldl_cons, List.flatMap_cons]
      exact ⟨after, first.trans runs, wholeFirst ▸ whole, keptFirst ▸ kept⟩

end Ports

end SiteRouting
