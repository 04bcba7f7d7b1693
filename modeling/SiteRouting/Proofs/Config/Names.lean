import Mathlib
import SiteRouting.Config.Validation
import SiteRouting.Proofs.Build.Trace

namespace SiteRouting

/-- A name that validation accepts: it is not blank and has no slash. -/
def IsNodeName (name : String) : Prop :=
  nameDefect? name = none

theorem isNodeName_iff {name : String} :
    IsNodeName name ↔ Text.isBlankText name = false ∧ '/' ∉ name.toList := by
  unfold IsNodeName nameDefect?
  split
  · rename_i blank
    simp [blank]
  · rename_i notBlank
    split <;> rename_i slash <;> simp_all [Text.hasChar]

theorem IsNodeName.no_slash {name : String} (isName : IsNodeName name) : '/' ∉ name.toList :=
  (isNodeName_iff.mp isName).2

theorem IsNodeName.ne_empty {name : String} (isName : IsNodeName name) : name ≠ "" := by
  rintro rfl
  exact absurd (isNodeName_iff.mp isName).1 (by decide)

theorem nameViolations_eq_nil_iff {field name : String} :
    nameViolations field name = [] ↔ IsNodeName name := by
  simp [nameViolations, IsNodeName]

section Lists

variable {list : String} {position : Nat}

theorem mountViolations_eq_nil {mounts : List MountNode} (clean : mountViolations list position mounts = [])
    {mount : MountNode} (member : mount ∈ mounts) : ∃ field, mount.violations field = [] := by
  induction mounts generalizing position with
  | nil => cases member
  | cons first rest ih =>
    rw [mountViolations, List.append_eq_nil_iff] at clean
    rcases List.mem_cons.mp member with rfl | later
    · exact ⟨_, clean.1⟩
    · exact ih clean.2 later

theorem portViolations_eq_nil {ports : List PortNode} (clean : portViolations list position ports = [])
    {port : PortNode} {root : MountNode} (member : port ∈ ports) (leads : port.root = some root) :
    ∃ field, root.violations field = [] := by
  induction ports generalizing position with
  | nil => cases member
  | cons first rest ih =>
    rw [portViolations, List.append_eq_nil_iff] at clean
    rcases List.mem_cons.mp member with rfl | later
    · exact ⟨_, by simpa [leads] using clean.1⟩
    · exact ih clean.2 later

theorem hostViolations_eq_nil {hosts : List HostNode} (clean : hostViolations list position hosts = [])
    {host : HostNode} (member : host ∈ hosts) : ∃ field, host.violations field = [] := by
  induction hosts generalizing position with
  | nil => cases member
  | cons first rest ih =>
    rw [hostViolations, List.append_eq_nil_iff] at clean
    rcases List.mem_cons.mp member with rfl | later
    · exact ⟨_, clean.1⟩
    · exact ih clean.2 later

theorem groupViolations_eq_nil {groups : List GroupNode} (clean : groupViolations position groups = [])
    {group : GroupNode} (member : group ∈ groups) :
    IsNodeName group.name ∧ ∀ host ∈ group.hosts, ∃ field, host.violations field = [] := by
  induction groups generalizing position with
  | nil => cases member
  | cons first rest ih =>
    simp only [groupViolations, List.append_eq_nil_iff] at clean
    rcases List.mem_cons.mp member with rfl | later
    · exact ⟨nameViolations_eq_nil_iff.mp clean.1.1, fun host here => hostViolations_eq_nil clean.1.2 here⟩
    · exact ih clean.2 later

end Lists

/-- A mount without violations has a name, and the mounts below it
have no violations. -/
theorem MountNode.violations_eq_nil {node : MountNode} {field : String}
    (clean : node.violations field = []) :
    IsNodeName node.settings.name ∧ ∀ child ∈ node.mounts, ∃ field, child.violations field = [] := by
  obtain ⟨own, mounts⟩ := node
  rw [MountNode.violations, List.append_eq_nil_iff] at clean
  exact ⟨nameViolations_eq_nil_iff.mp clean.1, fun child here => mountViolations_eq_nil clean.2 here⟩

/-- A host without violations has a name, and neither its mount trees nor
the hosts below it have any. -/
theorem HostNode.violations_eq_nil {node : HostNode} {field : String}
    (clean : node.violations field = []) :
    IsNodeName node.settings.name ∧
      (∀ port ∈ node.portNodes, ∀ root, port.root = some root → ∃ field, root.violations field = []) ∧
      ∀ child ∈ node.hosts, ∃ field, child.violations field = [] := by
  obtain ⟨own, root, ports, hosts⟩ := node
  simp only [HostNode.violations, List.append_eq_nil_iff] at clean
  obtain ⟨⟨⟨named, top⟩, others⟩, below⟩ := clean
  refine ⟨nameViolations_eq_nil_iff.mp named, ?_, fun child here => hostViolations_eq_nil below here⟩
  intro port member mount leads
  rcases List.mem_append.mp member with own | listed
  · obtain ⟨mount, isRoot, rfl⟩ := List.mem_map.mp own
    cases leads
    exact ⟨_, List.flatMap_eq_nil_iff.mp top mount isRoot⟩
  · exact portViolations_eq_nil others listed leads

section Declared

variable {config : Configuration}

theorem Configuration.no_groupViolations (valid : config.isValid) :
    groupViolations 0 config.hostGroups = [] := by
  have clean : config.violations = [] := List.isEmpty_iff.mp valid
  simp only [Configuration.violations, List.append_eq_nil_iff] at clean
  exact clean.1.1.2

theorem Configuration.DeclaresHost.violations_eq_nil {group : String} {node : HostNode}
    (declared : config.DeclaresHost group node) (valid : config.isValid) :
    IsNodeName group ∧ ∃ field, node.violations field = [] := by
  induction declared with
  | top member here =>
    obtain ⟨named, hosts⟩ := groupViolations_eq_nil (Configuration.no_groupViolations valid) member
    exact ⟨named, hosts _ here⟩
  | nested declared here ih =>
    obtain ⟨named, field, clean⟩ := ih
    exact ⟨named, (HostNode.violations_eq_nil clean).2.2 _ here⟩

theorem Configuration.DeclaresMount.violations_eq_nil {node : MountNode}
    (declared : config.DeclaresMount node) (valid : config.isValid) :
    ∃ field, node.violations field = [] := by
  induction declared with
  | root declared entry here =>
    obtain ⟨_, field, clean⟩ := declared.violations_eq_nil valid
    exact (HostNode.violations_eq_nil clean).2.1 _ entry _ here
  | nested declared here ih =>
    obtain ⟨field, clean⟩ := ih
    exact (MountNode.violations_eq_nil clean).2 _ here

/-- The groups and hosts of a valid configuration have names. Validation
comes to every one of them, however deep it is. -/
theorem Configuration.DeclaresHost.isNodeName {group : String} {node : HostNode}
    (declared : config.DeclaresHost group node) (valid : config.isValid) :
    IsNodeName group ∧ IsNodeName node.settings.name := by
  obtain ⟨named, field, clean⟩ := declared.violations_eq_nil valid
  exact ⟨named, (HostNode.violations_eq_nil clean).1⟩

theorem Configuration.DeclaresMount.isNodeName {node : MountNode}
    (declared : config.DeclaresMount node) (valid : config.isValid) : IsNodeName node.settings.name := by
  obtain ⟨field, clean⟩ := declared.violations_eq_nil valid
  exact (MountNode.violations_eq_nil clean).1

end Declared

end SiteRouting
