import Mathlib
import SiteRouting.Proofs.Config.Places

namespace SiteRouting

/-- Names of nodes, each with the way down to it, in the order in which
validation comes to them. It comes to every name of a document once, and
reports it under its own path. -/
abbrev NamedWays := List (List DocumentStep × String)

/-- The same names, seen from the node that a step leads away from. -/
def NamedWays.behind (step : DocumentStep) (names : NamedWays) : NamedWays :=
  names.map fun (way, name) => (step :: way, name)

/-- The names below the elements of a list, the first of which stands
at a position. -/
def elementNames {α : Type} (step : Nat → DocumentStep) (names : α → NamedWays) (position : Nat) :
    List α → NamedWays
  | [] => []
  | node :: rest =>
    NamedWays.behind (step position) (names node) ++ elementNames step names (position + 1) rest

mutual

def MountNode.namedWays : MountNode → NamedWays
  | .node own mounts => ([], own.name) :: mountNames 0 mounts

def mountNames (position : Nat) : List MountNode → NamedWays
  | [] => []
  | mount :: rest => NamedWays.behind (.mount position) mount.namedWays ++ mountNames (position + 1) rest

end

def rootNames (root : Option MountNode) : NamedWays :=
  NamedWays.behind .root (root.toList.flatMap MountNode.namedWays)

mutual

/-- The name of a host, those of its mounts and those of the hosts below it. -/
def HostNode.namedWays : HostNode → NamedWays
  | .node own root ports hosts =>
    ([], own.name) :: (rootNames root ++
      elementNames .port (fun port => rootNames port.root) 0 ports ++ hostNames 0 hosts)

def hostNames (position : Nat) : List HostNode → NamedWays
  | [] => []
  | host :: rest => NamedWays.behind (.host position) host.namedWays ++ hostNames (position + 1) rest

end

def GroupNode.namedWays (group : GroupNode) : NamedWays :=
  ([], group.name) :: hostNames 0 group.hosts

/-- The names of groups, the first of which stands at a position, and
all names below them. -/
def groupNames (position : Nat) : List GroupNode → List (DocumentPlace × String)
  | [] => []
  | group :: rest =>
    group.namedWays.map (fun (way, name) => (.name position way, name)) ++ groupNames (position + 1) rest

section Elements

variable {α : Type} {step : Nat → DocumentStep} {names : α → NamedWays} {position : Nat} {nodes : List α}

theorem mountNames_eq (position : Nat) (mounts : List MountNode) :
    mountNames position mounts = elementNames .mount MountNode.namedWays position mounts := by
  induction mounts generalizing position with
  | nil => rfl
  | cons mount rest ih => rw [mountNames, elementNames, ih]

theorem hostNames_eq (position : Nat) (hosts : List HostNode) :
    hostNames position hosts = elementNames .host HostNode.namedWays position hosts := by
  induction hosts generalizing position with
  | nil => rfl
  | cons host rest ih => rw [hostNames, elementNames, ih]

theorem NamedWays.mem_behind {first : DocumentStep} {ways : NamedWays} {way : List DocumentStep}
    {name : String} :
    (way, name) ∈ NamedWays.behind first ways ↔ ∃ rest, way = first :: rest ∧ (rest, name) ∈ ways := by
  simp only [NamedWays.behind, List.mem_map, Prod.mk.injEq, Prod.exists]
  constructor
  · rintro ⟨rest, _, member, rfl, rfl⟩
    exact ⟨rest, rfl, member⟩
  · rintro ⟨rest, rfl, member⟩
    exact ⟨rest, name, member, rfl, rfl⟩

theorem mem_elementNames {way : List DocumentStep} {name : String} :
    (way, name) ∈ elementNames step names position nodes ↔
      ∃ i node rest, nodes[i]? = some node ∧ way = step (position + i) :: rest ∧
        (rest, name) ∈ names node := by
  induction nodes generalizing position with
  | nil => simp [elementNames]
  | cons first others ih =>
    rw [elementNames, List.mem_append, NamedWays.mem_behind, ih]
    constructor
    · rintro (⟨rest, rfl, member⟩ | ⟨i, node, rest, held, rfl, member⟩)
      · exact ⟨0, first, rest, rfl, rfl, member⟩
      · exact ⟨i + 1, node, rest, held, by rw [Nat.add_right_comm, Nat.add_assoc], member⟩
    · rintro ⟨i, node, rest, held, rfl, member⟩
      cases i with
      | zero =>
        cases held
        exact Or.inl ⟨rest, rfl, member⟩
      | succ i => exact Or.inr ⟨i, node, rest, held, by rw [Nat.add_right_comm, Nat.add_assoc], member⟩

abbrev NamedWays.IsOrdered (ways : NamedWays) : Prop :=
  ways.Pairwise fun a b => WayBefore a.1 b.1

theorem NamedWays.IsOrdered.behind {ways : NamedWays} (ordered : ways.IsOrdered) (first : DocumentStep) :
    (NamedWays.behind first ways).IsOrdered :=
  List.pairwise_map.mpr (ordered.imp fun earlier => .cons earlier)

theorem NamedWays.isOrdered_elementNames (ascending : ∀ i j, i < j → (step i).Before (step j))
    (ordered : ∀ node ∈ nodes, (names node).IsOrdered) :
    (elementNames step names position nodes).IsOrdered := by
  induction nodes generalizing position with
  | nil => exact List.Pairwise.nil
  | cons first others ih =>
    have later : (elementNames step names (position + 1) others).IsOrdered :=
      ih fun node member => ordered node (List.mem_cons_of_mem _ member)
    refine List.pairwise_append.mpr ⟨(ordered first List.mem_cons_self).behind _, later, ?_⟩
    rintro ⟨way, name⟩ here ⟨route, other⟩ there
    obtain ⟨rest, rfl, _⟩ := NamedWays.mem_behind.mp here
    obtain ⟨i, _, behind, _, rfl, _⟩ := mem_elementNames.mp there
    exact .rel (ascending _ _ (by omega))

end Elements

section Names

/-- The names of a mount are those that the ways down from it lead to. -/
theorem MountNode.mem_namedWays_iff {way : List DocumentStep} {name : String} {node : MountNode} :
    (way, name) ∈ node.namedWays ↔ (DocumentNode.mount node).nameAt? way = some name := by
  induction way generalizing node with
  | nil =>
    obtain ⟨own, mounts⟩ := node
    simp [MountNode.namedWays, mountNames_eq, mem_elementNames, DocumentNode.nameAt?, DocumentNode.name?,
      MountNode.settings, @eq_comm _ name]
  | cons step rest ih =>
    obtain ⟨own, mounts⟩ := node
    rw [MountNode.namedWays, mountNames_eq, List.mem_cons, mem_elementNames, DocumentNode.nameAt?]
    cases step <;>
      simp [DocumentNode.step?, MountNode.mounts, ih, Option.bind_eq_some_iff]

theorem mem_rootNames_iff {way : List DocumentStep} {name : String} {root : Option MountNode} :
    (way, name) ∈ rootNames root ↔
      ∃ rest mount, way = .root :: rest ∧ root = some mount ∧
        (DocumentNode.mount mount).nameAt? rest = some name := by
  rw [rootNames, NamedWays.mem_behind]
  simp [MountNode.mem_namedWays_iff]

theorem PortNode.mem_namedWays_iff {way : List DocumentStep} {name : String} {port : PortNode} :
    (way, name) ∈ rootNames port.root ↔ (DocumentNode.port port).nameAt? way = some name := by
  rw [mem_rootNames_iff]
  cases way with
  | nil => simp [DocumentNode.nameAt?, DocumentNode.name?]
  | cons step rest =>
    rw [DocumentNode.nameAt?]
    cases step <;> simp [DocumentNode.step?, Option.bind_eq_some_iff]

theorem HostNode.mem_namedWays_iff {way : List DocumentStep} {name : String} {node : HostNode} :
    (way, name) ∈ node.namedWays ↔ (DocumentNode.host node).nameAt? way = some name := by
  induction way generalizing node with
  | nil =>
    obtain ⟨own, root, ports, hosts⟩ := node
    simp [HostNode.namedWays, hostNames_eq, mem_elementNames, mem_rootNames_iff, DocumentNode.nameAt?,
      DocumentNode.name?, HostNode.settings, @eq_comm _ name]
  | cons step rest ih =>
    obtain ⟨own, root, ports, hosts⟩ := node
    rw [HostNode.namedWays, hostNames_eq, List.mem_cons, List.mem_append, List.mem_append, mem_rootNames_iff,
      mem_elementNames, mem_elementNames, DocumentNode.nameAt?]
    cases step <;>
      simp [DocumentNode.step?, HostNode.hosts, HostNode.root, HostNode.ports, ih,
        PortNode.mem_namedWays_iff, Option.bind_eq_some_iff]

theorem GroupNode.mem_namedWays_iff {way : List DocumentStep} {name : String} {group : GroupNode} :
    (way, name) ∈ group.namedWays ↔ (DocumentNode.group group).nameAt? way = some name := by
  rw [GroupNode.namedWays, hostNames_eq, List.mem_cons, mem_elementNames]
  cases way with
  | nil => simp [DocumentNode.nameAt?, DocumentNode.name?, @eq_comm _ name]
  | cons step rest =>
    rw [DocumentNode.nameAt?]
    cases step <;> simp [DocumentNode.step?, HostNode.mem_namedWays_iff, Option.bind_eq_some_iff]

theorem mem_groupNames_iff {position : Nat} {groups : List GroupNode} {place : DocumentPlace}
    {name : String} :
    (place, name) ∈ groupNames position groups ↔
      ∃ i group way, groups[i]? = some group ∧ place = .name (position + i) way ∧
        (DocumentNode.group group).nameAt? way = some name := by
  induction groups generalizing position with
  | nil => simp [groupNames]
  | cons first others ih =>
    rw [groupNames, List.mem_append, ih]
    simp only [List.mem_map, Prod.mk.injEq, Prod.exists]
    constructor
    · rintro (⟨way, _, member, rfl, rfl⟩ | ⟨i, group, way, held, rfl, named⟩)
      · exact ⟨0, first, way, rfl, rfl, GroupNode.mem_namedWays_iff.mp member⟩
      · exact ⟨i + 1, group, way, held, by rw [Nat.add_right_comm, Nat.add_assoc], named⟩
    · rintro ⟨i, group, way, held, rfl, named⟩
      cases i with
      | zero =>
        cases held
        exact Or.inl ⟨way, name, GroupNode.mem_namedWays_iff.mpr named, rfl, rfl⟩
      | succ i => exact Or.inr ⟨i, group, way, held, by rw [Nat.add_right_comm, Nat.add_assoc], named⟩

/-- A document has a name at a place exactly if the way to it leads there. -/
theorem Configuration.mem_groupNames_iff {config : Configuration} {place : DocumentPlace} {name : String} :
    (place, name) ∈ groupNames 0 config.hostGroups ↔
      ∃ group way, place = .name group way ∧ config.nameAt? group way = some name := by
  rw [SiteRouting.mem_groupNames_iff]
  constructor
  · rintro ⟨i, group, way, held, rfl, named⟩
    exact ⟨i, way, by rw [Nat.zero_add], Option.bind_eq_some_iff.mpr ⟨group, held, named⟩⟩
  · rintro ⟨i, way, rfl, named⟩
    obtain ⟨group, held, here⟩ := Option.bind_eq_some_iff.mp named
    exact ⟨i, group, way, held, by rw [Nat.zero_add], here⟩

end Names

section Order

variable {own : String} {below : NamedWays}

theorem NamedWays.IsOrdered.under (ordered : below.IsOrdered)
    (apart : ∀ way name, (way, name) ∈ below → ∃ step rest, way = step :: rest) :
    NamedWays.IsOrdered (([], own) :: below) := by
  refine List.pairwise_cons.mpr ⟨?_, ordered⟩
  rintro ⟨way, name⟩ member
  obtain ⟨step, rest, rfl⟩ := apart way name member
  exact .nil

theorem exists_step_of_mem_elementNames {α : Type} {step : Nat → DocumentStep} {names : α → NamedWays}
    {position : Nat} {nodes : List α} (way : List DocumentStep) (name : String)
    (member : (way, name) ∈ elementNames step names position nodes) :
    ∃ first rest, way = first :: rest := by
  obtain ⟨i, _, rest, _, rfl, _⟩ := mem_elementNames.mp member
  exact ⟨_, rest, rfl⟩

mutual

theorem MountNode.namedWays_isOrdered : (node : MountNode) → node.namedWays.IsOrdered
  | .node own mounts => by
    rw [MountNode.namedWays, mountNames_eq]
    refine NamedWays.IsOrdered.under ?_ exists_step_of_mem_elementNames
    exact NamedWays.isOrdered_elementNames (fun _ _ => .mount) (MountNode.namedWays_areOrdered mounts)

theorem MountNode.namedWays_areOrdered : (nodes : List MountNode) → ∀ node ∈ nodes, node.namedWays.IsOrdered
  | [], _, member => by cases member
  | first :: rest, mount, member => by
    rcases List.mem_cons.mp member with same | later
    · rw [same]
      exact MountNode.namedWays_isOrdered first
    · exact MountNode.namedWays_areOrdered rest mount later

end

theorem rootNames_isOrdered (root : Option MountNode) : (rootNames root).IsOrdered := by
  refine NamedWays.IsOrdered.behind ?_ .root
  cases root with
  | none => exact List.Pairwise.nil
  | some mount => simpa using mount.namedWays_isOrdered

mutual

theorem HostNode.namedWays_isOrdered : (node : HostNode) → node.namedWays.IsOrdered
  | .node own root ports hosts => by
    have ofPorts : (elementNames .port (fun port : PortNode => rootNames port.root) 0 ports).IsOrdered :=
      NamedWays.isOrdered_elementNames (fun _ _ => .port) fun port _ => rootNames_isOrdered port.root
    have ofHosts : (elementNames .host HostNode.namedWays 0 hosts).IsOrdered :=
      NamedWays.isOrdered_elementNames (fun _ _ => .host) (HostNode.namedWays_areOrdered hosts)
    rw [HostNode.namedWays, hostNames_eq]
    refine NamedWays.IsOrdered.under (List.pairwise_append.mpr ⟨List.pairwise_append.mpr
      ⟨rootNames_isOrdered root, ofPorts, ?_⟩, ofHosts, ?_⟩) ?_
    · rintro ⟨way, name⟩ atRoot ⟨route, other⟩ atPort
      obtain ⟨_, _, rfl, _⟩ := mem_rootNames_iff.mp atRoot
      obtain ⟨_, _, _, _, rfl, _⟩ := mem_elementNames.mp atPort
      exact .rel .rootPort
    · rintro ⟨way, name⟩ atMount ⟨route, other⟩ atHost
      obtain ⟨_, _, _, _, rfl, _⟩ := mem_elementNames.mp atHost
      rcases List.mem_append.mp atMount with atRoot | atPort
      · obtain ⟨_, _, rfl, _⟩ := mem_rootNames_iff.mp atRoot
        exact .rel .rootHost
      · obtain ⟨_, _, _, _, rfl, _⟩ := mem_elementNames.mp atPort
        exact .rel .portHost
    · intro way name member
      rcases List.mem_append.mp member with atMount | atHost
      · rcases List.mem_append.mp atMount with atRoot | atPort
        · obtain ⟨rest, _, rfl, _⟩ := mem_rootNames_iff.mp atRoot
          exact ⟨_, rest, rfl⟩
        · exact exists_step_of_mem_elementNames way name atPort
      · exact exists_step_of_mem_elementNames way name atHost

theorem HostNode.namedWays_areOrdered : (nodes : List HostNode) → ∀ node ∈ nodes, node.namedWays.IsOrdered
  | [], _, member => by cases member
  | first :: rest, host, member => by
    rcases List.mem_cons.mp member with same | later
    · rw [same]
      exact HostNode.namedWays_isOrdered first
    · exact HostNode.namedWays_areOrdered rest host later

end

theorem GroupNode.namedWays_isOrdered (group : GroupNode) : group.namedWays.IsOrdered := by
  rw [GroupNode.namedWays, hostNames_eq]
  refine NamedWays.IsOrdered.under ?_ exists_step_of_mem_elementNames
  exact NamedWays.isOrdered_elementNames (fun _ _ => .host) fun node _ => node.namedWays_isOrdered

theorem groupNames_isOrdered (position : Nat) (groups : List GroupNode) :
    (groupNames position groups).Pairwise fun a b => a.1.Before b.1 := by
  induction groups generalizing position with
  | nil => exact List.Pairwise.nil
  | cons group rest ih =>
    refine List.pairwise_append.mpr ⟨?_, ih (position + 1), ?_⟩
    · exact List.pairwise_map.mpr (group.namedWays_isOrdered.imp fun earlier => .way earlier)
    · rintro ⟨place, name⟩ here ⟨other, behind⟩ there
      obtain ⟨⟨way, _⟩, _, same⟩ := List.mem_map.mp here
      obtain ⟨rfl, _⟩ := Prod.mk.inj same
      obtain ⟨i, _, route, _, rfl, _⟩ := mem_groupNames_iff.mp there
      exact .group (by omega)

end Order

def fieldBelow (field : String) (way : List DocumentStep) : String :=
  way.foldl (fun field step => s!"{field}.{step.segment}") field

def NamedWays.violations (field : String) (ways : NamedWays) : List Violation :=
  ways.flatMap fun (way, name) => nameViolations (fieldBelow field way) name

section Violations

theorem elementField_ports (field : String) (position : Nat) :
    elementField s!"{field}.port_mounts" position = s!"{field}.{(DocumentStep.port position).segment}" := by
  rw [← String.toList_inj]
  simp [toList_elementField, DocumentStep.segment, toString]

theorem elementField_hosts (field : String) (position : Nat) :
    elementField s!"{field}.hosts" position = s!"{field}.{(DocumentStep.host position).segment}" := by
  rw [← String.toList_inj]
  simp [toList_elementField, DocumentStep.segment, toString]

theorem elementField_mounts (field : String) (position : Nat) :
    elementField s!"{field}.mounts" position = s!"{field}.{(DocumentStep.mount position).segment}" := by
  rw [← String.toList_inj]
  simp [toList_elementField, DocumentStep.segment, toString]

theorem rootField (field : String) : s!"{field}.root" = s!"{field}.{DocumentStep.root.segment}" := by
  rw [← String.toList_inj]
  simp [DocumentStep.segment, toString]

theorem NamedWays.violations_append (field : String) (ways others : NamedWays) :
    NamedWays.violations field (ways ++ others) = ways.violations field ++ others.violations field :=
  List.flatMap_append

theorem NamedWays.violations_behind (field : String) (step : DocumentStep) (ways : NamedWays) :
    (NamedWays.behind step ways).violations field = ways.violations s!"{field}.{step.segment}" := by
  rw [NamedWays.violations, NamedWays.behind, List.flatMap_map]
  rfl

theorem NamedWays.violations_cons (field own : String) (ways : NamedWays) :
    NamedWays.violations field (([], own) :: ways) = nameViolations field own ++ ways.violations field :=
  rfl

-- Validation hands the field down and grows it by a step at a time, so the field stays free here.
mutual

theorem MountNode.violations_namedWays (field : String) : (node : MountNode) →
    node.violations field = node.namedWays.violations field
  | .node own mounts => by
    rw [MountNode.violations, MountNode.namedWays, NamedWays.violations_cons,
      mountViolations_namedWays field 0 mounts]

theorem mountViolations_namedWays (field : String) (position : Nat) : (nodes : List MountNode) →
    mountViolations s!"{field}.mounts" position nodes = (mountNames position nodes).violations field
  | [] => by
    rw [mountViolations, mountNames]
    rfl
  | mount :: rest => by
    rw [mountViolations, mountNames, NamedWays.violations_append, NamedWays.violations_behind,
      elementField_mounts, MountNode.violations_namedWays _ mount,
      mountViolations_namedWays field (position + 1) rest]

end

theorem rootViolations_namedWays (field : String) (root : Option MountNode) :
    (root.toList.flatMap fun mount => mount.violations s!"{field}.root") =
      (rootNames root).violations field := by
  rw [rootNames, NamedWays.violations_behind, rootField]
  cases root with
  | none => rfl
  | some mount => simp [MountNode.violations_namedWays]

theorem portViolations_namedWays (field : String) (position : Nat) (ports : List PortNode) :
    portViolations s!"{field}.port_mounts" position ports =
      (elementNames .port (fun port : PortNode => rootNames port.root) position ports).violations field := by
  induction ports generalizing position with
  | nil => rfl
  | cons port rest ih =>
    rw [portViolations, elementNames, NamedWays.violations_append, NamedWays.violations_behind, ih,
      elementField_ports, ← rootViolations_namedWays]
    rfl

mutual

theorem HostNode.violations_namedWays (field : String) : (node : HostNode) →
    node.violations field = node.namedWays.violations field
  | .node own root ports hosts => by
    rw [HostNode.violations, HostNode.namedWays, NamedWays.violations_cons, NamedWays.violations_append,
      NamedWays.violations_append, rootViolations_namedWays, portViolations_namedWays,
      hostViolations_namedWays field 0 hosts, List.append_assoc, List.append_assoc, List.append_assoc]

theorem hostViolations_namedWays (field : String) (position : Nat) : (nodes : List HostNode) →
    hostViolations s!"{field}.hosts" position nodes = (hostNames position nodes).violations field
  | [] => by
    rw [hostViolations, hostNames]
    rfl
  | host :: rest => by
    rw [hostViolations, hostNames, NamedWays.violations_append, NamedWays.violations_behind,
      elementField_hosts, HostNode.violations_namedWays _ host,
      hostViolations_namedWays field (position + 1) rest]

end

/-- Growing the field a step at a time writes the whole way down to a
name, joined by dots. -/
theorem fieldBelow_name (field : String) (way : List DocumentStep) :
    s!"{fieldBelow field way}.name" =
      ".".intercalate (field :: (way.map DocumentStep.segment ++ ["name"])) := by
  induction way generalizing field with
  | nil =>
    rw [← String.toList_inj]
    simp [fieldBelow, toString]
  | cons step rest ih =>
    have grown := ih s!"{field}.{step.segment}"
    rw [fieldBelow, List.foldl_cons, ← fieldBelow, grown, List.map_cons, List.cons_append]
    cases split : rest.map DocumentStep.segment ++ ["name"] with
    | nil => simp at split
    | cons second others =>
      rw [String.intercalate_cons_cons, String.intercalate_cons_cons, String.intercalate_cons_cons]
      simp [toString, String.append_assoc]

theorem GroupNode.violations_namedWays (field : String) (group : GroupNode) :
    nameViolations field group.name ++ hostViolations s!"{field}.hosts" 0 group.hosts =
      group.namedWays.violations field := by
  rw [GroupNode.namedWays, NamedWays.violations_cons, hostViolations_namedWays]

theorem groupViolations_namedWays (position : Nat) (groups : List GroupNode) :
    groupViolations position groups = (groupNames position groups).flatMap fun (place, name) =>
      (nameDefect? name).toList.map fun defect => ⟨place.field, defect⟩ := by
  induction groups generalizing position with
  | nil => rfl
  | cons group rest ih =>
    rw [groupViolations, groupNames, List.flatMap_append, ← ih, List.flatMap_map]
    dsimp only
    rw [GroupNode.violations_namedWays]
    simp only [NamedWays.violations, nameViolations, fieldBelow_name, DocumentPlace.field,
      DocumentPlace.segments]

end Violations

end SiteRouting
