import Mathlib
import SiteRouting.Proofs.Build.Attachment

namespace SiteRouting

def AreBearable (issues : List Issue) : Prop :=
  ∀ issue ∈ issues, issue.severity ≠ .fatal

/-- Faults that cost no more than the value that they are about. -/
def AreWarnings (faults : List Fault) : Prop :=
  ∀ fault ∈ faults, fault.severity = .warning

section Severity

theorem Fault.severity_of_cutsOff {fault : Fault} (severe : fault.cutsOff = true) :
    fault.severity = .error := by
  cases fault <;> first | rfl | cases severe

theorem Fault.severity_of_isConflict {fault : Fault} (conflict : fault.isConflict = true) :
    fault.severity = .warning := by
  cases fault <;> first | rfl | cases conflict

theorem areBearable_nil : AreBearable [] :=
  List.forall_mem_nil _

theorem AreBearable.append {a b : List Issue} (left : AreBearable a) (right : AreBearable b) :
    AreBearable (a ++ b) :=
  List.forall_mem_append.mpr ⟨left, right⟩

theorem areBearable_issuesAt (location : String) {faults : List Fault}
    (bearable : ∀ fault ∈ faults, fault.severity ≠ .fatal) : AreBearable (issuesAt location faults) := by
  intro issue member
  obtain ⟨fault, found, rfl⟩ := List.mem_map.mp member
  exact bearable fault found

theorem areWarnings_nil : AreWarnings [] :=
  List.forall_mem_nil _

theorem AreWarnings.append {a b : List Fault} (left : AreWarnings a) (right : AreWarnings b) :
    AreWarnings (a ++ b) :=
  List.forall_mem_append.mpr ⟨left, right⟩

theorem AreWarnings.bearable {faults : List Fault} (warnings : AreWarnings faults) :
    ∀ fault ∈ faults, fault.severity ≠ .fatal := by
  intro fault member
  rw [warnings fault member]
  exact nofun

theorem AreWarnings.bearable_append {faults : List Fault} {last : Fault} (warnings : AreWarnings faults)
    (error : last.severity = .error) : ∀ fault ∈ faults ++ [last], fault.severity ≠ .fatal := by
  intro fault member
  rcases List.mem_append.mp member with before | isLast
  · exact warnings.bearable fault before
  · rw [List.mem_singleton.mp isLast, error]
    exact nofun

theorem NodeSettings.areWarnings_faults (own : NodeSettings) : AreWarnings own.faults :=
  own.forall_faults (fun _ => rfl) fun _ => rfl

theorem Defaults.areWarnings_faults (defaults : Defaults) : AreWarnings defaults.faults :=
  defaults.forall_faults (fun _ => rfl) fun _ => rfl

theorem GroupNode.areWarnings_faults (group : GroupNode) : AreWarnings group.faults :=
  group.forall_faults fun _ => rfl

theorem MountProperties.areWarnings_contentPaths {properties : MountProperties} {sites : List SiteNode}
    {content : ContentPaths} {warnings : List Fault}
    (derived : properties.contentPaths sites = .ok (content, warnings)) : AreWarnings warnings :=
  MountProperties.forall_warnings derived fun _ => rfl

theorem MountIndex.areWarnings_add {index : MountIndex} {tree : HostingTree} (mount : Mount) :
    AreWarnings (index.add tree mount).2 :=
  fun fault member => Fault.severity_of_isConflict (MountIndex.add_conflicts mount fault member)

end Severity

/-- What a build has reported since an earlier state. As long as it goes on
it only adds to its issues, and what it adds is bearable. -/
def BuildState.Reports (after before : BuildState) : Prop :=
  ∃ found, after.issues = before.issues ++ found ∧ AreBearable found

section Reports

theorem BuildState.Reports.refl (state : BuildState) : state.Reports state :=
  ⟨[], (List.append_nil _).symm, areBearable_nil⟩

theorem BuildState.Reports.trans {a b c : BuildState} (later : c.Reports b) (earlier : b.Reports a) :
    c.Reports a := by
  obtain ⟨more, grown, bearable⟩ := later
  obtain ⟨found, start, bearableBefore⟩ := earlier
  exact ⟨found ++ more, by rw [grown, start, List.append_assoc], bearableBefore.append bearable⟩

theorem BuildState.reports_report {state : BuildState} (location : String) {faults : List Fault}
    (bearable : ∀ fault ∈ faults, fault.severity ≠ .fatal) :
    (state.report location faults).Reports state :=
  ⟨issuesAt location faults, rfl, areBearable_issuesAt location bearable⟩

end Reports

/-- What mounts and port entries add to a build: bearable issues, and nothing
to its groups and hosts but links. They never end a build. -/
structure BuildState.GainsMounts (after before : BuildState) : Prop where
  reports : after.Reports before
  groups : after.tree.groups = before.tree.groups
  hosts : after.tree.unlinked.hosts = before.tree.unlinked.hosts

section Mounts

variable {sites : List SiteNode} {state : BuildState}

theorem BuildState.GainsMounts.refl (state : BuildState) : state.GainsMounts state :=
  ⟨.refl state, rfl, rfl⟩

theorem BuildState.GainsMounts.trans {a b c : BuildState} (later : c.GainsMounts b)
    (earlier : b.GainsMounts a) : c.GainsMounts a :=
  ⟨later.reports.trans earlier.reports, later.groups.trans earlier.groups,
    later.hosts.trans earlier.hosts⟩

theorem BuildState.gainsMounts_report (location : String) {faults : List Fault}
    (bearable : ∀ fault ∈ faults, fault.severity ≠ .fatal) :
    (state.report location faults).GainsMounts state :=
  ⟨BuildState.reports_report location bearable, rfl, rfl⟩

theorem HostingTree.groups_addMount {tree after : HostingTree} {parent : Option MountId}
    {mount linked : Mount} (added : tree.addMount parent mount = .ok (after, linked)) :
    after.groups = tree.groups := by
  cases parent with
  | none =>
    obtain ⟨_, rfl⟩ := HostingTree.addRootMount_eq_ok.mp added
    rfl
  | some above =>
    obtain ⟨_, _, rfl⟩ := HostingTree.addChildMount_eq_ok.mp added
    rfl

theorem HostingTree.severity_addMount {tree : HostingTree} {parent : Option MountId} {mount : Mount}
    {fault : Fault} (refused : tree.addMount parent mount = .error fault) : fault.severity = .error := by
  unfold HostingTree.addMount at refused
  dsimp only at refused
  split at refused
  · cases refused
  split at refused
  · cases refused
    rfl
  · cases refused

theorem BuildState.attachMount_gains (place : MountPlace) (above : MountProperties) (location : String)
    (own : MountSettings) : (state.attachMount sites place above location own).1.GainsMounts state := by
  have ownFaults := NodeSettings.areWarnings_faults own.toNodeSettings
  cases derived : (own.propertiesBelow above).contentPaths sites with
  | error fault =>
    rw [BuildState.attachMount_of_refused state derived]
    have error := Fault.severity_of_cutsOff (MountProperties.contentPaths_fault derived)
    exact BuildState.gainsMounts_report location (ownFaults.bearable_append error)
  | ok found =>
    obtain ⟨content, warnings⟩ := found
    have noted := ownFaults.append (MountProperties.areWarnings_contentPaths derived)
    cases added : state.tree.addMount (place.parent.map (·.id))
        (place.detachedMount own (own.propertiesBelow above) content) with
    | error fault =>
      rw [BuildState.attachMount_of_taken state derived added]
      have error := HostingTree.severity_addMount added
      exact BuildState.gainsMounts_report location (noted.bearable_append error)
    | ok grown =>
      obtain ⟨tree, mount⟩ := grown
      rw [BuildState.attachMount_of_added state derived added]
      refine ⟨?_, HostingTree.groups_addMount added, ?_⟩
      · exact ⟨_, rfl, areBearable_issuesAt location (noted.append (MountIndex.areWarnings_add mount)).bearable⟩
      · change tree.unlinked.hosts = state.tree.unlinked.hosts
        rw [(HostingTree.unlinked_addMount added).2]

mutual

theorem BuildState.buildMount_gains {state : BuildState} {place : MountPlace} {above : MountProperties}
    (location : String) : (node : MountNode) →
    (state.buildMount sites place above location node).1.GainsMounts state
  | .node own mounts => by
    have attached : (state.attachMount sites place above s!"{location}/{own.name}" own).1.GainsMounts state :=
      BuildState.attachMount_gains place above _ own
    unfold BuildState.buildMount
    dsimp only
    generalize state.attachMount sites place above _ own = built at attached ⊢
    obtain ⟨next, answer⟩ := built
    cases answer with
    | none => exact attached
    | some mount => exact (BuildState.buildMounts_gains s!"{location}/{own.name}" mounts).trans attached

theorem BuildState.buildMounts_gains {state : BuildState} {place : MountPlace} {above : MountProperties}
    (location : String) : (nodes : List MountNode) →
    (state.buildMounts sites place above location nodes).GainsMounts state
  | [] => by
    unfold BuildState.buildMounts
    exact .refl state
  | node :: rest => by
    unfold BuildState.buildMounts
    exact (BuildState.buildMounts_gains location rest).trans (BuildState.buildMount_gains location node)

end

theorem HostingTree.severity_addPortMount {tree : HostingTree} {id : HostId} {entry : PortMount}
    {fault : Fault} (refused : tree.addPortMount id entry = .error fault) : fault.severity = .error := by
  unfold HostingTree.addPortMount at refused
  split at refused
  · cases refused
    rfl
  · cases refused

theorem BuildState.bindPort_gains (host : VirtualHost) (location : String) (entry : PortMount) :
    (state.bindPort host location entry).GainsMounts state := by
  unfold BuildState.bindPort
  cases added : state.tree.addPortMount host.id entry with
  | error fault =>
    have error := HostingTree.severity_addPortMount added
    exact BuildState.gainsMounts_report location (areWarnings_nil.bearable_append error)
  | ok tree =>
    have bare := HostingTree.unlinked_addPortMount added
    obtain ⟨_, rfl⟩ := HostingTree.addPortMount_eq_ok.mp added
    exact ⟨.refl state, rfl, congrArg HostingTree.hosts bare⟩

theorem BuildState.buildPort_gains (host : VirtualHost) (location : String) (node : PortNode) :
    (state.buildPort sites host location node).GainsMounts state := by
  by_cases bound : state.tree.hasPortMount host.id node.port
  · rw [BuildState.buildPort_of_bound state bound]
    exact BuildState.gainsMounts_report _ (areWarnings_nil.bearable_append rfl)
  cases isRoot : node.root with
  | none =>
    rw [BuildState.buildPort_of_rootless state bound isRoot]
    refine (BuildState.bindPort_gains host _ _).trans ?_
    exact BuildState.gainsMounts_report _ (areWarnings_nil.bearable_append rfl)
  | some root =>
    have inner : (state.buildMount sites { host, port := node.port } (.ofHost host.properties)
        s!"{location}:{node.port}" root).1.GainsMounts state := BuildState.buildMount_gains _ root
    obtain ⟨⟨next, answer⟩, built⟩ : ∃ result, state.buildMount sites { host, port := node.port }
        (.ofHost host.properties) s!"{location}:{node.port}" root = result := ⟨_, rfl⟩
    rw [built] at inner
    cases answer with
    | none =>
      rw [BuildState.buildPort_of_skipped state bound isRoot built]
      exact inner
    | some mount =>
      rw [BuildState.buildPort_of_built state bound isRoot built]
      exact (BuildState.bindPort_gains host _ _).trans inner

theorem BuildState.buildPorts_gains (host : VirtualHost) (location : String) (nodes : List PortNode) :
    (nodes.foldl (BuildState.buildPort sites host location) state).GainsMounts state := by
  induction nodes generalizing state with
  | nil => exact .refl state
  | cons node rest ih => exact ih.trans (BuildState.buildPort_gains host location node)

end Mounts

/-- How a part of a build may come out: it goes on with bearable issues, or
it ends with a fatal one behind them. -/
inductive BuildState.Leaves (before : BuildState) : BuildResult → Prop where
  | goesOn {after : BuildState} (reports : after.Reports before) : before.Leaves (.ok after)
  | ends {found : List Issue} {last : Issue} (bearable : AreBearable found)
      (fatal : last.severity = .fatal) : before.Leaves (.error (before.issues ++ found ++ [last]))

section Outcomes

variable {sites : List SiteNode} {group : GroupPlace}

theorem BuildState.Leaves.after {before middle : BuildState} {result : BuildResult}
    (leaves : middle.Leaves result) (reports : middle.Reports before) : before.Leaves result := by
  cases leaves with
  | goesOn later => exact .goesOn (later.trans reports)
  | @ends found last bearable fatal =>
    obtain ⟨more, grown, bearableBefore⟩ := reports
    rw [grown, List.append_assoc before.issues]
    exact .ends (bearableBefore.append bearable) fatal

theorem BuildState.leaves_fatal {state : BuildState} (location : String) {fault : Fault}
    (fatal : fault.severity = .fatal) : state.Leaves (.error (state.report location [fault]).issues) := by
  have ended : state.Leaves (.error (state.issues ++ [] ++ [⟨location, fault⟩])) :=
    .ends areBearable_nil fatal
  rwa [List.append_nil] at ended

theorem HostingTree.severity_addHost {tree : HostingTree} {position : Nat} {parent : Option HostId}
    {host : VirtualHost} {fault : Fault} (refused : tree.addHost position parent host = .error fault) :
    fault.severity = .fatal := by
  unfold HostingTree.addHost HostingTree.addRootHost HostingTree.addChildHost at refused
  dsimp only at refused
  split at refused <;> split at refused <;> cases refused <;> rfl

theorem HostingTree.severity_addHostChain {tree : HostingTree} {properties : NodeProperties}
    {parent : Option VirtualHost} {labels : List String} {fault : Fault}
    (refused : tree.addHostChain group properties parent labels = .error fault) :
    fault.severity = .fatal := by
  induction labels generalizing tree parent with
  | nil => cases refused
  | cons label rest ih =>
    rw [HostingTree.addHostChain] at refused
    split at refused
    · rename_i first
      cases refused
      exact HostingTree.severity_addHost first
    · exact ih refused

theorem HostingTree.severity_addGroup {tree : HostingTree} {name : String} {cmsLocation : Option String}
    {fault : Fault} (refused : tree.addGroup name cmsLocation = .error fault) :
    fault.severity = .fatal := by
  unfold HostingTree.addGroup at refused
  split at refused
  · cases refused
    rfl
  · cases refused

theorem BuildState.attachHost_leaves {state : BuildState} (parent : Option VirtualHost)
    (above : NodeProperties) (own : HostSettings) (ports : List PortNode) :
    state.Leaves ((state.attachHost sites group parent above own ports).map (·.1)) := by
  unfold BuildState.attachHost
  dsimp only
  split
  · rename_i fault refused
    have error := Fault.severity_of_cutsOff (nodeLabels_fault refused)
    exact .goesOn (BuildState.reports_report _ (areWarnings_nil.bearable_append error))
  have noted : (state.report (hostLocation group.name own.name parent) own.faults).Reports state :=
    BuildState.reports_report _ (NodeSettings.areWarnings_faults own.toNodeSettings).bearable
  split
  · rename_i fault refused
    exact (BuildState.leaves_fatal _ (HostingTree.severity_addHostChain refused)).after noted
  · exact .goesOn noted
  · refine .goesOn ((BuildState.buildPorts_gains _ _ _).reports.trans ?_)
    exact noted

mutual

theorem BuildState.buildHost_leaves {state : BuildState} {parent : Option VirtualHost}
    {above : NodeProperties} : (node : HostNode) →
    state.Leaves (state.buildHost sites group parent above node)
  | .node own root ports hosts => by
    have attached : state.Leaves ((state.attachHost sites group parent above own
        (HostNode.node own root ports hosts).portNodes).map (·.1)) :=
      BuildState.attachHost_leaves parent above own _
    unfold BuildState.buildHost
    split
    · rename_i issues ended
      rwa [ended] at attached
    · rename_i next left
      rwa [left] at attached
    · rename_i next host linked
      rw [linked] at attached
      cases attached with
      | goesOn reports => exact (BuildState.buildHosts_leaves hosts).after reports

theorem BuildState.buildHosts_leaves {state : BuildState} {parent : Option VirtualHost}
    {above : NodeProperties} : (nodes : List HostNode) →
    state.Leaves (state.buildHosts sites group parent above nodes)
  | [] => by
    unfold BuildState.buildHosts
    exact .goesOn (.refl state)
  | node :: rest => by
    have first : state.Leaves (state.buildHost sites group parent above node) :=
      BuildState.buildHost_leaves node
    unfold BuildState.buildHosts
    split
    · rename_i issues ended
      rwa [ended] at first
    · rename_i next wentOn
      rw [wentOn] at first
      cases first with
      | goesOn reports => exact (BuildState.buildHosts_leaves rest).after reports

end

theorem BuildState.buildGroup_leaves {state : BuildState} (above : NodeProperties) (group : GroupNode) :
    state.Leaves (state.buildGroup sites above group) := by
  have noted : (state.report group.name group.faults).Reports state :=
    BuildState.reports_report group.name group.areWarnings_faults.bearable
  unfold BuildState.buildGroup
  dsimp only
  split
  · rename_i fault refused
    exact (BuildState.leaves_fatal _ (HostingTree.severity_addGroup refused)).after noted
  · exact (BuildState.buildHosts_leaves group.hosts).after noted

theorem BuildState.buildGroups_leaves {state : BuildState} (above : NodeProperties)
    (groups : List GroupNode) : state.Leaves (state.buildGroups sites above groups) := by
  induction groups generalizing state with
  | nil => exact .goesOn (.refl state)
  | cons group rest ih =>
    have first : state.Leaves (state.buildGroup sites above group) :=
      BuildState.buildGroup_leaves above group
    unfold BuildState.buildGroups
    split
    · rename_i issues ended
      rwa [ended] at first
    · rename_i next wentOn
      rw [wentOn] at first
      cases first with
      | goesOn reports => exact ih.after reports

/-- A whole build goes on to its end with bearable issues only, or a
fatal one is its last. -/
theorem Configuration.assemble_leaves (config : Configuration) :
    BuildState.Leaves {} config.assemble :=
  (BuildState.buildGroups_leaves _ _).after
    (BuildState.reports_report _ config.hosts.areWarnings_faults.bearable)

end Outcomes

end SiteRouting
