import Mathlib
import SiteRouting.Proofs.Build.ContentRules
import SiteRouting.Proofs.Build.Inheritance
import SiteRouting.Proofs.Build.MountVisits
import SiteRouting.Proofs.Build.Reports

namespace SiteRouting

def Fault.isMissingPreview : Fault → Bool
  | .missingPreviewSite _ => true
  | _ => false

def missingPreviews (issues : List Issue) : List Issue :=
  issues.filter (·.fault.isMissingPreview)

def AreElsewhere (faults : List Fault) : Prop :=
  ∀ fault ∈ faults, fault.isMissingPreview = false

/-- The preview sites that a build has missed since an earlier state. Every
mount that it comes to is warned of as its properties say, whether it stays
or not, and nothing else is. -/
def BuildState.Misses (after before : BuildState) (found : List Issue) : Prop :=
  missingPreviews after.issues = missingPreviews before.issues ++ found

section Faults

theorem Fault.isMissingPreview_of_severity {fault : Fault} (error : fault.severity = .error) :
    fault.isMissingPreview = false := by
  cases fault <;> first | rfl | cases error

theorem Fault.isMissingPreview_of_isConflict {fault : Fault} (conflict : fault.isConflict = true) :
    fault.isMissingPreview = false := by
  cases fault <;> first | rfl | cases conflict

theorem areElsewhere_singleton {fault : Fault} (error : fault.severity = .error) : AreElsewhere [fault] :=
  List.forall_mem_singleton.mpr (Fault.isMissingPreview_of_severity error)

theorem AreElsewhere.append {a b : List Fault} (left : AreElsewhere a) (right : AreElsewhere b) :
    AreElsewhere (a ++ b) :=
  List.forall_mem_append.mpr ⟨left, right⟩

theorem NodeSettings.areElsewhere_faults (own : NodeSettings) : AreElsewhere own.faults :=
  own.forall_faults (fun _ => rfl) fun _ => rfl

theorem Defaults.areElsewhere_faults (defaults : Defaults) : AreElsewhere defaults.faults :=
  defaults.forall_faults (fun _ => rfl) fun _ => rfl

theorem GroupNode.areElsewhere_faults (group : GroupNode) : AreElsewhere group.faults :=
  group.forall_faults fun _ => rfl

theorem MountIndex.areElsewhere_add {index : MountIndex} {tree : HostingTree} (mount : Mount) :
    AreElsewhere (index.add tree mount).2 :=
  fun fault member => Fault.isMissingPreview_of_isConflict (MountIndex.add_conflicts mount fault member)

theorem AreElsewhere.filter {faults : List Fault} (elsewhere : AreElsewhere faults) :
    faults.filter (·.isMissingPreview) = [] :=
  List.filter_eq_nil_iff.mpr fun fault member => Bool.eq_false_iff.mp (elsewhere fault member)

theorem MountProperties.filter_warnings {properties : MountProperties} {sites : List SiteNode}
    {content : ContentPaths} {warnings : List Fault}
    (derived : properties.contentPaths sites = .ok (content, warnings)) :
    warnings.filter (·.isMissingPreview) = warnings :=
  List.filter_eq_self.mpr (MountProperties.forall_warnings derived fun _ => rfl)

end Faults

section Misses

variable {before middle after : BuildState} {found more : List Issue}

theorem BuildState.Misses.refl (state : BuildState) : state.Misses state [] :=
  (List.append_nil _).symm

theorem BuildState.Misses.trans (first : middle.Misses before found) (later : after.Misses middle more) :
    after.Misses before (found ++ more) := by
  rw [BuildState.Misses, later, first, List.append_assoc]

theorem BuildState.misses_report (state : BuildState) (location : String) (faults : List Fault) :
    (state.report location faults).Misses state (issuesAt location (faults.filter (·.isMissingPreview))) := by
  rw [BuildState.Misses, missingPreviews, BuildState.report, List.filter_append, ← filter_issuesAt]
  rfl

theorem BuildState.misses_report_elsewhere (state : BuildState) (location : String) {faults : List Fault}
    (elsewhere : AreElsewhere faults) : (state.report location faults).Misses state [] := by
  have missed := state.misses_report location faults
  rwa [elsewhere.filter] at missed

end Misses

section Mounts

variable {config : Configuration}

/-- A mount is warned of as its properties say, whether it is attached or not. -/
theorem BuildState.attachMount_misses (state : BuildState) (sites : List SiteNode) (place : MountPlace)
    (above : MountProperties) (location : String) (own : MountSettings) :
    (state.attachMount sites place above location own).1.Misses state
      (issuesAt location ((own.propertiesBelow above).contentWarnings sites)) := by
  have ownFaults := NodeSettings.areElsewhere_faults own.toNodeSettings
  rw [MountProperties.contentWarnings]
  cases derived : (own.propertiesBelow above).contentPaths sites with
  | error fault =>
    have error := Fault.severity_of_cutsOff (MountProperties.contentPaths_fault derived)
    rw [BuildState.attachMount_of_refused state derived]
    exact state.misses_report_elsewhere location (ownFaults.append (areElsewhere_singleton error))
  | ok found =>
    obtain ⟨content, warnings⟩ := found
    have filtered {others : List Fault} (elsewhere : AreElsewhere others) :
        (own.faults ++ warnings ++ others).filter (·.isMissingPreview) = warnings := by
      rw [List.filter_append, List.filter_append, ownFaults.filter, elsewhere.filter, List.append_nil,
        List.nil_append, MountProperties.filter_warnings derived]
    cases added : state.tree.addMount (place.parent.map (·.id))
        (place.detachedMount own (own.propertiesBelow above) content) with
    | error fault =>
      rw [BuildState.attachMount_of_taken state derived added]
      have missed := state.misses_report location (own.faults ++ warnings ++ [fault])
      rwa [filtered (areElsewhere_singleton (HostingTree.severity_addMount added))] at missed
    | ok grown =>
      obtain ⟨tree, mount⟩ := grown
      rw [BuildState.attachMount_of_added state derived added]
      have missed := state.misses_report location
        (own.faults ++ warnings ++ (state.index.add tree mount).2)
      rwa [filtered (MountIndex.areElsewhere_add mount)] at missed

-- The build and the visits go the same way because both come to what is below a mount only if it stays.
mutual

theorem TwinBuild.MountPlaced.buildMount_misses {twin : TwinBuild} {place : MountPlace}
    {above : MountLineage} {siblings : List String} (counted : twin.Counted)
    (placed : twin.MountPlaced config place above)
    (taken : twin.tree.childNames (place.parent.map (·.id)) = siblings) : (node : MountNode) →
    (twin.whole.buildMount config.sites place (above.properties config.hosts) above.location node).1.Misses
      twin.whole ((node.visits config above siblings).flatMap (MountVisit.issues config))
  | .node own mounts => by
    have here := twin.whole.attachMount_misses config.sites place (above.properties config.hosts)
      (above.below own).location own
    rw [BuildState.buildMount, ← MountLineage.location_below, MountNode.visits]
    cases clear : above.obstacle? config own siblings with
    | some fault =>
      obtain ⟨_, _, left⟩ := placed.attachMount_of_obstacle (above.below own).location taken clear
      rw [left] at here ⊢
      rw [List.flatMap_singleton]
      exact here
    | none =>
      obtain ⟨next, mount, attached, whole, _, below, _, childless, _⟩ :=
        placed.attachMount_of_clear counted taken clear
      have inherits : mount.properties = (above.below own).properties config.hosts := below.inherited
      rw [whole] at here ⊢
      dsimp only
      rw [inherits]
      exact here.trans (TwinBuild.MountPlaced.buildMounts_misses
        (attached.runs.reaches.counted counted) below rfl childless mounts)

theorem TwinBuild.MountPlaced.buildMounts_misses {twin : TwinBuild} {place : MountPlace}
    {above : MountLineage} {siblings : List String} {parent : Mount} (counted : twin.Counted)
    (placed : twin.MountPlaced config place above) (isParent : place.parent = some parent)
    (taken : twin.tree.childNames (some parent.id) = siblings) : (nodes : List MountNode) →
    (twin.whole.buildMounts config.sites place (above.properties config.hosts) above.location nodes).Misses
      twin.whole ((MountNode.visitsOfAll config above siblings nodes).flatMap (MountVisit.issues config))
  | [] => by
    rw [BuildState.buildMounts, MountNode.visitsOfAll]
    exact .refl _
  | mount :: rest => by
    have names : twin.tree.childNames (place.parent.map (·.id)) = siblings := by
      rw [isParent]
      exact taken
    have first := TwinBuild.MountPlaced.buildMount_misses counted placed names mount
    rw [BuildState.buildMounts, MountNode.visitsOfAll, List.flatMap_append]
    refine first.trans ?_
    cases pruned : mount.prune config above siblings with
    | error cut =>
      obtain ⟨notes, areNotes, severe, skipped⟩ := placed.buildMount_of_cut names pruned
      have left := TwinBuild.runs_skip config twin areNotes severe
      rw [skipped]
      exact TwinBuild.MountPlaced.buildMounts_misses (left.reaches.counted counted)
        (placed.extends left.reaches.extends) isParent taken rest
    | ok here =>
      obtain ⟨next, linked, built, whole, _, named⟩ :=
        TwinBuild.MountPlaced.buildMount_of_kept counted placed names mount pruned
      rw [whole]
      exact TwinBuild.MountPlaced.buildMounts_misses (built.runs.reaches.counted counted)
        (placed.extends built.runs.reaches.extends) isParent (named parent isParent) rest

end

end Mounts

section Ports

variable {config : Configuration} {twin : TwinBuild} {host : VirtualHost} {lineage : HostLineage}
  {bound : List Port}

theorem BuildState.bindPort_misses (state : BuildState) (host : VirtualHost) (location : String)
    (entry : PortMount) : (state.bindPort host location entry).Misses state [] := by
  unfold BuildState.bindPort
  cases added : state.tree.addPortMount host.id entry with
  | error fault =>
    exact state.misses_report_elsewhere location
      (areElsewhere_singleton (HostingTree.severity_addPortMount added))
  | ok tree => exact .refl state

theorem TwinBuild.HostHeld.buildPort_misses (held : twin.HostHeld config host lineage)
    (counted : twin.Counted) (taken : twin.tree.boundPorts host.id = bound) (node : PortNode) :
    (twin.whole.buildPort config.sites host lineage.location node).Misses twin.whole
      ((node.visits config lineage bound).flatMap (MountVisit.issues config)) := by
  rw [PortNode.visits]
  by_cases known : node.port ∈ bound
  · rw [if_pos known, BuildState.buildPort_of_bound _ (HostingTree.hasPortMount_iff.mpr (taken ▸ known))]
    exact twin.whole.misses_report_elsewhere _ (areElsewhere_singleton rfl)
  have unbound : ¬ twin.whole.tree.hasPortMount host.id node.port :=
    fun found => known (taken ▸ HostingTree.hasPortMount_iff.mp found)
  rw [if_neg known]
  cases isRoot : node.root with
  | none =>
    rw [BuildState.buildPort_of_rootless _ unbound isRoot]
    exact (twin.whole.misses_report_elsewhere _ (areElsewhere_singleton rfl)).trans
      (BuildState.bindPort_misses _ _ _ _)
  | some root =>
    have built : (twin.whole.buildMount config.sites { host, port := node.port } (.ofHost host.properties)
        s!"{lineage.location}:{node.port}" root).1.Misses twin.whole
          ((root.visits config { host := lineage, port := node.port } []).flatMap
            (MountVisit.issues config)) := by
      rw [held.inherited node.port]
      exact (held.mountPlaced node.port).buildMount_misses counted rfl root
    obtain ⟨⟨next, answer⟩, result⟩ : ∃ result, twin.whole.buildMount config.sites
        { host, port := node.port } (.ofHost host.properties) s!"{lineage.location}:{node.port}" root =
          result := ⟨_, rfl⟩
    rw [result] at built
    cases answer with
    | none =>
      rw [BuildState.buildPort_of_skipped _ unbound isRoot result]
      exact built
    | some mount =>
      rw [BuildState.buildPort_of_built _ unbound isRoot result]
      have bound := built.trans (next.bindPort_misses host s!"{lineage.location}:{node.port}"
        ⟨node.port, some mount.id⟩)
      rwa [List.append_nil] at bound

theorem TwinBuild.HostHeld.buildPorts_misses (held : twin.HostHeld config host lineage)
    (counted : twin.Counted) (taken : twin.tree.boundPorts host.id = bound) (nodes : List PortNode) :
    (nodes.foldl (BuildState.buildPort config.sites host lineage.location) twin.whole).Misses twin.whole
      ((PortNode.visitsOfAll config lineage bound nodes).flatMap (MountVisit.issues config)) := by
  induction nodes generalizing twin bound with
  | nil => exact .refl _
  | cons node rest ih =>
    have first := held.buildPort_misses counted taken node
    rw [List.foldl_cons, PortNode.visitsOfAll, List.flatMap_append]
    refine first.trans ?_
    cases pruned : node.prune config lineage bound with
    | error cut =>
      obtain ⟨notes, areNotes, severe, skipped⟩ := held.buildPort_of_cut taken pruned
      have left := TwinBuild.runs_skip config twin areNotes severe
      rw [skipped]
      exact ih (held.extends left.reaches.extends) (left.reaches.counted counted) taken
    | ok here =>
      obtain ⟨next, runs, whole, _, ports⟩ := held.buildPort_of_kept counted taken pruned
      rw [whole]
      exact ih (held.extends runs.reaches.extends) (runs.reaches.counted counted) ports

end Ports

section Hosts

variable {config : Configuration} {twin : TwinBuild} {place : GroupPlace}

theorem TwinBuild.HostPlaced.attachHost_misses {parent : Option VirtualHost} {above : HostLineage}
    {own : HostSettings} {labels : List String} {ports : List PortNode} {finished : BuildState}
    {answer : Option VirtualHost} (placed : twin.HostPlaced config place parent above)
    (counted : twin.Counted) (labelled : nodeLabels own.name = .ok labels)
    (attached : twin.whole.attachHost config.sites place parent (above.properties config.hosts) own ports =
      .ok (finished, answer)) :
    finished.Misses twin.whole
      ((PortNode.visitsOfAll config (above.below own) [] ports).flatMap (MountVisit.issues config)) := by
  obtain ⟨tree, chain⟩ := BuildState.chain_of_attachHost _ labelled attached
  obtain ⟨label, rest, rfl⟩ := List.exists_cons_of_ne_nil (nodeLabels_ne_nil labelled)
  have ownFaults := NodeSettings.areElsewhere_faults own.toNodeSettings
  have noted := TwinBuild.runs_note config twin (hostLocation place.name own.name parent)
    (NodeSettings.areNotes_faults own.toNodeSettings)
  obtain ⟨linked, host, rfl, chained, wholeChain, _, below, unbound⟩ :=
    (placed.extends noted.reaches.extends).addHostChain (noted.reaches.counted counted)
      (Or.inr ⟨own, rfl⟩) chain
  have lineage : (label :: rest).foldl HostLineage.withLabel (above.withNode own) = above.below own := by
    rw [HostLineage.below, HostSettings.labels_eq labelled]
  rw [lineage] at below
  have held := below.below host rfl
  have location : s!"{place.name}/{host.hostName}" = (above.below own).location := by
    rw [below.group, held.described.hostName]
    rfl
  have ofPorts := held.buildPorts_misses ((noted.trans chained).reaches.counted counted) unbound ports
  rw [twin.whole.attachHost_of_chain labelled chain, location] at attached
  obtain ⟨rfl, _⟩ := Prod.mk.inj (Except.ok.inj attached)
  rw [wholeChain] at ofPorts
  exact (twin.whole.misses_report_elsewhere _ ownFaults).trans ofPorts

mutual

theorem TwinBuild.HostPlaced.buildHost_misses {twin : TwinBuild} {parent : Option VirtualHost}
    {above : HostLineage} (placed : twin.HostPlaced config place parent above) (counted : twin.Counted) :
    (node : HostNode) → {finished : BuildState} →
    twin.whole.buildHost config.sites place parent (above.properties config.hosts) node = .ok finished →
    finished.Misses twin.whole ((node.visits config above).flatMap (MountVisit.issues config))
  | .node own root ports hosts, finished, built => by
    rw [HostNode.visits]
    cases labelled : nodeLabels own.name with
    | error fault =>
      have pruned : (HostNode.node own root ports hosts).prune config above =
          .error ⟨.host (.node own root ports hosts), above.locationBelow own.name, fault⟩ := by
        rw [HostNode.prune, labelled]
      obtain ⟨severe, skipped⟩ := placed.buildHost_of_cut pruned
      cases skipped.symm.trans built
      exact twin.whole.misses_report_elsewhere _ (areElsewhere_singleton (Fault.severity_of_cutsOff severe))
    | ok labels =>
      rw [BuildState.buildHost] at built
      split at built
      · cases built
      · rename_i attached
        obtain ⟨_, _, impossible, _⟩ := placed.attachHost counted labelled attached
        cases impossible
      · rename_i next host attached
        have ofPorts := placed.attachHost_misses counted labelled attached
        obtain ⟨linked, _, isHost, first, rfl, _, below⟩ := placed.attachHost counted labelled attached
        cases isHost
        rw [(below.below host rfl).described.properties] at built
        rw [List.flatMap_append]
        exact ofPorts.trans (TwinBuild.HostPlaced.buildHosts_misses below
          (first.reaches.counted counted) hosts built)

theorem TwinBuild.HostPlaced.buildHosts_misses {twin : TwinBuild} {parent : Option VirtualHost}
    {above : HostLineage} (placed : twin.HostPlaced config place parent above) (counted : twin.Counted) :
    (nodes : List HostNode) → {finished : BuildState} →
    twin.whole.buildHosts config.sites place parent (above.properties config.hosts) nodes = .ok finished →
    finished.Misses twin.whole ((HostNode.visitsOfAll config above nodes).flatMap (MountVisit.issues config))
  | [], finished, built => by
    rw [BuildState.buildHosts] at built
    cases built
    rw [HostNode.visitsOfAll]
    exact .refl _
  | host :: rest, finished, built => by
    rw [BuildState.buildHosts] at built
    rw [HostNode.visitsOfAll, List.flatMap_append]
    split at built
    · cases built
    rename_i state first
    have here := TwinBuild.HostPlaced.buildHost_misses placed counted host first
    refine here.trans ?_
    cases pruned : host.prune config above with
    | error cut =>
      obtain ⟨severe, skipped⟩ := placed.buildHost_of_cut pruned
      have left := TwinBuild.runs_skip config twin areNotes_nil severe
      cases skipped.symm.trans first
      exact TwinBuild.HostPlaced.buildHosts_misses (placed.extends left.reaches.extends)
        (left.reaches.counted counted) rest built
    | ok kept =>
      obtain ⟨next, runs, rfl, _⟩ := TwinBuild.HostPlaced.buildHost_of_kept placed counted host pruned first
      exact TwinBuild.HostPlaced.buildHosts_misses (placed.extends runs.reaches.extends)
        (runs.reaches.counted counted) rest built

end

end Hosts

section Groups

variable {config : Configuration} {twin : TwinBuild}

end Groups

section Content

variable {config : Configuration}

theorem MountLineage.Describes.derives {lineage : MountLineage} {mount : Mount}
    (described : lineage.Describes config mount) (distinct : (config.sites.map (·.path)).Nodup) :
    mount.properties.Derives config.sites mount.properties.previewMountPoint mount.content
      (mount.properties.contentWarnings config.sites) := by
  obtain ⟨warnings, derived⟩ := described.content
  have same : mount.properties.contentWarnings config.sites = warnings := by
    rw [MountProperties.contentWarnings, derived]
  rw [same]
  exact (MountProperties.contentPaths_eq_ok_iff distinct).mp derived

end Content

end SiteRouting
