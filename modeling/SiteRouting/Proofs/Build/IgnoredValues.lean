import Mathlib
import SiteRouting.Proofs.Build.Lineage

namespace SiteRouting

def Fault.isIgnoredValue : Fault → Bool
  | .malformedContextPath _ | .unsupportedResponseCode _ => true
  | _ => false

/-- Whether an issue says that a host or a mount configures a value in vain: a
restriction that is no context path, or a response code that is not supported. -/
def Issue.isIgnoredValue (issue : Issue) : Bool :=
  issue.fault.isIgnoredValue && issue.location != defaultsLocation

/-- The restriction of a node, if it is neither empty nor a context path.
This is the one value in vain that has an effect. -/
def NodeSettings.malformedPath? (own : NodeSettings) : Option String :=
  own.onlyForContextPath.filter fun path => !path.isEmpty && !isContextPath path

def NodeSettings.unsupportedCode? (own : NodeSettings) : Option Nat :=
  own.schemeNotMatchingResponseCode.filter fun code => !isSupportedResponseCode code

def NodeSettings.withoutIgnored (own : NodeSettings) : NodeSettings :=
  { own with
    onlyForContextPath := if own.malformedPath?.isSome then none else own.onlyForContextPath
    schemeNotMatchingResponseCode :=
      if own.unsupportedCode?.isSome then none else own.schemeNotMatchingResponseCode }

def NodeSettings.LosesRestriction (own : NodeSettings) (inherited : Option String) : Prop :=
  own.malformedPath?.isSome ∧ inherited.isSome

def HostSettings.withoutIgnored (own : HostSettings) : HostSettings :=
  { own with toNodeSettings := own.toNodeSettings.withoutIgnored }

def MountSettings.withoutIgnored (own : MountSettings) : MountSettings :=
  { own with toNodeSettings := own.toNodeSettings.withoutIgnored }

mutual

def MountNode.withoutIgnored : MountNode → MountNode
  | .node own mounts => .node own.withoutIgnored (MountNode.withoutIgnoredInAll mounts)

def MountNode.withoutIgnoredInAll : List MountNode → List MountNode
  | [] => []
  | mount :: rest => mount.withoutIgnored :: MountNode.withoutIgnoredInAll rest

end

def PortNode.withoutIgnored (node : PortNode) : PortNode :=
  { node with root := node.root.map MountNode.withoutIgnored }

mutual

def HostNode.withoutIgnored : HostNode → HostNode
  | .node own root ports hosts =>
    .node own.withoutIgnored (root.map MountNode.withoutIgnored) (ports.map PortNode.withoutIgnored)
      (HostNode.withoutIgnoredInAll hosts)

def HostNode.withoutIgnoredInAll : List HostNode → List HostNode
  | [] => []
  | host :: rest => host.withoutIgnored :: HostNode.withoutIgnoredInAll rest

end

def GroupNode.withoutIgnored (group : GroupNode) : GroupNode :=
  { group with hosts := HostNode.withoutIgnoredInAll group.hosts }

/-- A configuration without the keys of hosts and mounts that have their
values in vain. The defaults stay as they are. -/
def Configuration.withoutIgnored (config : Configuration) : Configuration :=
  { config with hostGroups := config.hostGroups.map GroupNode.withoutIgnored }

theorem HostNode.portNodes_withoutIgnored (own : HostSettings) (root : Option MountNode)
    (ports : List PortNode) (hosts : List HostNode) :
    HostNode.portNodes (.node own.withoutIgnored (root.map MountNode.withoutIgnored)
      (ports.map PortNode.withoutIgnored) (HostNode.withoutIgnoredInAll hosts)) =
      (HostNode.portNodes (.node own root ports hosts)).map PortNode.withoutIgnored := by
  cases root <;> simp [HostNode.portNodes, PortNode.withoutIgnored]

section Settings

variable (own : NodeSettings) {above : NodeProperties} {inherited : Option String} {blankScheme : String}

theorem ContextPathSetting.read_malformed {own : NodeSettings} {path : String}
    (malformed : own.malformedPath? = some path) :
    ContextPathSetting.read own.onlyForContextPath = .malformed path := by
  obtain ⟨set, offends⟩ := Option.filter_eq_some_iff.mp malformed
  simp only [Bool.and_eq_true, Bool.not_eq_true'] at offends
  simp [set, ContextPathSetting.read, offends.1, offends.2]

theorem ContextPathSetting.faults_read_of_formed {own : NodeSettings}
    (formed : own.malformedPath? = none) : (ContextPathSetting.read own.onlyForContextPath).faults = [] := by
  cases set : own.onlyForContextPath with
  | none => rfl
  | some path =>
    have usable := Option.filter_eq_none_iff.mp formed path set
    simp only [ContextPathSetting.read]
    by_cases empty : path.isEmpty
    · rw [if_pos empty]
      rfl
    · have isPath : isContextPath path = true := by simpa [empty] using usable
      rw [if_neg empty, if_pos isPath]
      rfl

/-- There is one warning for each of the two keys that has its value in vain,
and there is no other one. -/
theorem NodeSettings.faults_eq :
    own.faults = own.malformedPath?.toList.map .malformedContextPath ++
      own.unsupportedCode?.toList.map .unsupportedResponseCode := by
  have path : (ContextPathSetting.read own.onlyForContextPath).faults =
      own.malformedPath?.toList.map .malformedContextPath := by
    cases malformed : own.malformedPath? with
    | none => exact ContextPathSetting.faults_read_of_formed malformed
    | some path => rw [ContextPathSetting.read_malformed malformed]; rfl
  have code : responseCodeFaults own.schemeNotMatchingResponseCode =
      own.unsupportedCode?.toList.map .unsupportedResponseCode := by
    rw [NodeSettings.unsupportedCode?]
    cases own.schemeNotMatchingResponseCode with
    | none => rfl
    | some code =>
      cases supported : isSupportedResponseCode code <;> simp [responseCodeFaults, Option.filter, supported]
  rw [NodeSettings.faults, path, code]

theorem NodeSettings.malformedPath?_withoutIgnored : own.withoutIgnored.malformedPath? = none := by
  rw [NodeSettings.malformedPath?, NodeSettings.withoutIgnored]
  cases malformed : own.malformedPath? with
  | none => exact malformed
  | some path => rfl

theorem NodeSettings.unsupportedCode?_withoutIgnored : own.withoutIgnored.unsupportedCode? = none := by
  rw [NodeSettings.unsupportedCode?, NodeSettings.withoutIgnored]
  cases unsupported : own.unsupportedCode? with
  | none => exact unsupported
  | some code => rfl

theorem NodeSettings.faults_withoutIgnored : own.withoutIgnored.faults = [] := by
  rw [NodeSettings.faults_eq, NodeSettings.malformedPath?_withoutIgnored,
    NodeSettings.unsupportedCode?_withoutIgnored]
  rfl

theorem NodeSettings.isIgnoredValue_of_mem_faults {fault : Fault} (found : fault ∈ own.faults) :
    fault.isIgnoredValue = true := by
  rw [NodeSettings.faults_eq] at found
  rcases List.mem_append.mp found with isPath | isCode
  · obtain ⟨_, _, rfl⟩ := List.mem_map.mp isPath
    rfl
  · obtain ⟨_, _, rfl⟩ := List.mem_map.mp isCode
    rfl

theorem responseCodeOr_withoutIgnored (inherited : Nat) :
    responseCodeOr inherited own.withoutIgnored.schemeNotMatchingResponseCode =
      responseCodeOr inherited own.schemeNotMatchingResponseCode := by
  simp only [NodeSettings.withoutIgnored, NodeSettings.unsupportedCode?]
  rcases own.schemeNotMatchingResponseCode.eq_none_or_eq_some with unset | ⟨code, set⟩
  · simp [unset]
  · cases supported : isSupportedResponseCode code <;> simp [set, Option.filter, responseCodeOr, supported]

/-- A malformed restriction is not passed over: it lifts the one from above,
which the node would have without the key. -/
theorem contextPath_apply_withoutIgnored :
    (ContextPathSetting.read own.withoutIgnored.onlyForContextPath).apply inherited =
      if own.malformedPath?.isSome then inherited
      else (ContextPathSetting.read own.onlyForContextPath).apply inherited := by
  rw [NodeSettings.withoutIgnored]
  cases own.malformedPath? <;> rfl

theorem NodeSettings.apply_eq_iff :
    (ContextPathSetting.read own.withoutIgnored.onlyForContextPath).apply inherited =
        (ContextPathSetting.read own.onlyForContextPath).apply inherited ↔
      ¬ own.LosesRestriction inherited := by
  rw [contextPath_apply_withoutIgnored, NodeSettings.LosesRestriction]
  cases malformed : own.malformedPath? with
  | none => simp
  | some path =>
    rw [ContextPathSetting.read_malformed malformed]
    cases inherited <;> simp [ContextPathSetting.apply]

theorem NodeProperties.overlay_withoutIgnored :
    above.overlay own.withoutIgnored blankScheme =
      { above.overlay own blankScheme with
        onlyForContextPath := if own.malformedPath?.isSome then above.onlyForContextPath
          else (above.overlay own blankScheme).onlyForContextPath } := by
  simp only [NodeProperties.overlay, responseCodeOr_withoutIgnored, contextPath_apply_withoutIgnored]
  rfl

end Settings

def NodeProperties.unrestricted (properties : NodeProperties) : NodeProperties :=
  { properties with onlyForContextPath := none }

def MountProperties.unrestricted (properties : MountProperties) : MountProperties :=
  { properties with toNodeProperties := properties.toNodeProperties.unrestricted }

/-- How the properties of a node come out with and without the keys that it
has in vain. Each key costs one warning, and none but a malformed restriction
makes a difference: it lifts the restriction from above. -/
structure NodeSettings.Ignores (own : NodeSettings) (above whole cleaned : NodeProperties) : Prop where
  reported : own.faults = own.malformedPath?.toList.map .malformedContextPath ++
    own.unsupportedCode?.toList.map .unsupportedResponseCode
  silent : own.withoutIgnored.faults = []
  others : cleaned.unrestricted = whole.unrestricted
  lifted : own.malformedPath?.isSome →
    whole.onlyForContextPath = none ∧ cleaned.onlyForContextPath = above.onlyForContextPath
  same_iff : cleaned = whole ↔ ¬ own.LosesRestriction above.onlyForContextPath

section Properties

theorem NodeProperties.eq_iff_of_unrestricted {a b : NodeProperties} (others : a.unrestricted = b.unrestricted) :
    a = b ↔ a.onlyForContextPath = b.onlyForContextPath := by
  constructor
  · intro same
    rw [same]
  · intro restriction
    have whole (p : NodeProperties) : p = { p.unrestricted with onlyForContextPath := p.onlyForContextPath } :=
      rfl
    rw [whole a, whole b, others, restriction]

theorem MountProperties.eq_iff_of_unrestricted {a b : MountProperties}
    (others : a.unrestricted = b.unrestricted) : a = b ↔ a.onlyForContextPath = b.onlyForContextPath := by
  constructor
  · intro same
    rw [same]
  · intro restriction
    have common : a.toNodeProperties = b.toNodeProperties :=
      (NodeProperties.eq_iff_of_unrestricted (congrArg MountProperties.toNodeProperties others)).mpr restriction
    have whole (p : MountProperties) :
        p = { p.unrestricted with toNodeProperties := p.toNodeProperties } := rfl
    rw [whole a, whole b, others, common]

theorem NodeSettings.ignores (own : NodeSettings) (above : NodeProperties) (blankScheme : String) :
    own.Ignores above (above.overlay own blankScheme) (above.overlay own.withoutIgnored blankScheme) := by
  have others : (above.overlay own.withoutIgnored blankScheme).unrestricted =
      (above.overlay own blankScheme).unrestricted := by
    rw [NodeProperties.overlay_withoutIgnored]
    rfl
  refine ⟨own.faults_eq, own.faults_withoutIgnored, others, ?_, ?_⟩
  · intro malformed
    obtain ⟨path, isMalformed⟩ := Option.isSome_iff_exists.mp malformed
    rw [NodeProperties.overlay_withoutIgnored, if_pos malformed]
    refine ⟨?_, rfl⟩
    rw [NodeProperties.overlay, ContextPathSetting.read_malformed isMalformed]
    rfl
  · rw [NodeProperties.eq_iff_of_unrestricted others]
    exact own.apply_eq_iff

theorem HostSettings.ignores (own : HostSettings) (above : NodeProperties) :
    own.Ignores above (own.propertiesBelow above) (own.withoutIgnored.propertiesBelow above) :=
  own.toNodeSettings.ignores above defaultScheme

theorem MountSettings.ignores (own : MountSettings) (above : MountProperties) :
    own.Ignores above.toNodeProperties (own.propertiesBelow above).toNodeProperties
      (own.withoutIgnored.propertiesBelow above).toNodeProperties :=
  own.toNodeSettings.ignores above.toNodeProperties above.scheme

theorem MountSettings.unrestricted_withoutIgnored (own : MountSettings) (above : MountProperties) :
    (own.withoutIgnored.propertiesBelow above).unrestricted = (own.propertiesBelow above).unrestricted := by
  simp only [MountProperties.unrestricted, (own.ignores above).others]
  rfl

theorem MountSettings.propertiesBelow_eq_iff (own : MountSettings) (above : MountProperties) :
    own.withoutIgnored.propertiesBelow above = own.propertiesBelow above ↔
      ¬ own.LosesRestriction above.onlyForContextPath := by
  rw [MountProperties.eq_iff_of_unrestricted (own.unrestricted_withoutIgnored above)]
  exact own.toNodeSettings.apply_eq_iff

theorem HostSettings.unrestricted_below (own : HostSettings) {a b : NodeProperties}
    (others : a.unrestricted = b.unrestricted) :
    (own.withoutIgnored.propertiesBelow a).unrestricted = (own.propertiesBelow b).unrestricted := by
  have forgets (p : NodeProperties) : (own.propertiesBelow p).unrestricted =
      (own.propertiesBelow p.unrestricted).unrestricted := rfl
  rw [(own.ignores a).others, forgets a, others, ← forgets b]

theorem MountSettings.unrestricted_below (own : MountSettings) {a b : MountProperties}
    (others : a.unrestricted = b.unrestricted) :
    (own.withoutIgnored.propertiesBelow a).unrestricted = (own.propertiesBelow b).unrestricted := by
  have forgets (p : MountProperties) : (own.propertiesBelow p).unrestricted =
      (own.propertiesBelow p.unrestricted).unrestricted := rfl
  rw [own.unrestricted_withoutIgnored a, forgets a, others, ← forgets b]

theorem MountProperties.contentPaths_of_unrestricted {a b : MountProperties} (sites : List SiteNode)
    (others : a.unrestricted = b.unrestricted) : a.contentPaths sites = b.contentPaths sites := by
  have forgets (p : MountProperties) : p.contentPaths sites = p.unrestricted.contentPaths sites := rfl
  rw [forgets a, others, ← forgets b]

theorem MountProperties.unrestricted_ofHost {a b : NodeProperties} (others : a.unrestricted = b.unrestricted) :
    (MountProperties.ofHost a).unrestricted = (MountProperties.ofHost b).unrestricted := by
  simp only [MountProperties.unrestricted, MountProperties.ofHost, others]

end Properties

end SiteRouting
