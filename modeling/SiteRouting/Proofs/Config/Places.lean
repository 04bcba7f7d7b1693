import Mathlib
import SiteRouting.Config.Validation

namespace SiteRouting

/-- A step from a node of the document to one that it holds. -/
inductive DocumentStep where
  | root
  | port (position : Nat)
  | host (position : Nat)
  | mount (position : Nat)
  deriving DecidableEq, Repr

/-- A node of the document that has a name or holds nodes that have one. -/
inductive DocumentNode where
  | group (node : GroupNode)
  | host (node : HostNode)
  | port (node : PortNode)
  | mount (node : MountNode)
  deriving Repr

def DocumentNode.name? : DocumentNode → Option String
  | .group node => some node.name
  | .host node => some node.settings.name
  | .port _ => none
  | .mount node => some node.settings.name

def DocumentNode.step? : DocumentNode → DocumentStep → Option DocumentNode
  | .group node, .host position => node.hosts[position]?.map .host
  | .host node, .root => node.root.map .mount
  | .host node, .port position => node.ports[position]?.map .port
  | .host node, .host position => node.hosts[position]?.map .host
  | .port node, .root => node.root.map .mount
  | .mount node, .mount position => node.mounts[position]?.map .mount
  | _, _ => none

def DocumentNode.nameAt? (node : DocumentNode) : List DocumentStep → Option String
  | [] => node.name?
  | step :: rest => (node.step? step).bind (·.nameAt? rest)

/-- The name of the node at the end of a way down from the group at a position. -/
def Configuration.nameAt? (config : Configuration) (group : Nat) (way : List DocumentStep) :
    Option String :=
  config.hostGroups[group]?.bind fun node => (DocumentNode.group node).nameAt? way

inductive DocumentSetting where
  | scheme
  | responseCode
  | defaultHostName
  | apiKey
  | logFormat
  deriving DecidableEq, Repr

/-- A value that validation looks at, told by the way down to it
through the document. -/
inductive DocumentPlace where
  | setting (key : DocumentSetting)
  | sitePath (position : Nat)
  | name (group : Nat) (way : List DocumentStep)
  deriving DecidableEq, Repr

def DocumentSetting.segments : DocumentSetting → List String
  | .scheme => ["hosts", "scheme"]
  | .responseCode => ["hosts", "scheme_not_matching_response_code"]
  | .defaultHostName => ["hosts", "default_host_name"]
  | .apiKey => ["admin", "api_key"]
  | .logFormat => ["observability", "log_format"]

def DocumentStep.segment : DocumentStep → String
  | .root => "root"
  | .port position => elementField "port_mounts" position
  | .host position => elementField "hosts" position
  | .mount position => elementField "mounts" position

def DocumentPlace.segments : DocumentPlace → List String
  | .setting key => key.segments
  | .sitePath position => [elementField "sites" position, "path"]
  | .name group way => elementField "host_groups" group :: (way.map DocumentStep.segment ++ ["name"])

/-- The dotted path of a value. An element of a list is told by its position. -/
def DocumentPlace.field (place : DocumentPlace) : String :=
  ".".intercalate place.segments

section Fields

theorem toList_elementField (list : String) (position : Nat) :
    (elementField list position).toList =
      list.toList ++ '[' :: (Nat.toDigits 10 position ++ [']']) := by
  simp [elementField, toString, Nat.toList_repr]

theorem not_mem_elementField {c : Char} {list : String} (free : c ∉ list.toList)
    (noDigit : c.isDigit = false) (noBracket : c ≠ '[' ∧ c ≠ ']') (position : Nat) :
    c ∉ (elementField list position).toList := by
  have inDigits : c ∉ Nat.toDigits 10 position := by
    intro member
    rw [Nat.isDigit_of_mem_toDigits (by decide) (by decide) member] at noDigit
    cases noDigit
  simp [toList_elementField, free, inDigits, noBracket]

theorem elementField_inj {list other : String} {position place : Nat} (free : '[' ∉ list.toList)
    (freeToo : '[' ∉ other.toList) (same : elementField list position = elementField other place) :
    list = other ∧ position = place := by
  have cut := congrArg (fun field => Text.cutFirst? '[' field.toList) same
  simp only [toList_elementField, Text.cutFirst?_append _ free, Text.cutFirst?_append _ freeToo,
    Option.some.injEq, Prod.mk.injEq, List.append_cancel_right_eq] at cut
  obtain ⟨lists, digits⟩ := cut
  refine ⟨String.toList_inj.mp lists, ?_⟩
  calc position = Nat.ofDigitChars 10 (Nat.toDigits 10 position) 0 := Nat.ofDigitChars_ten_toDigits.symm
    _ = Nat.ofDigitChars 10 (Nat.toDigits 10 place) 0 := by rw [digits]
    _ = place := Nat.ofDigitChars_ten_toDigits

theorem elementField_ne {word : String} (free : '[' ∉ word.toList) (list : String) (position : Nat) :
    elementField list position ≠ word := by
  rintro rfl
  exact free (by simp [toList_elementField])

theorem DocumentStep.eq_of_segment_eq {step : DocumentStep} {list : String} {position : Nat}
    (free : '[' ∉ list.toList) (same : step.segment = elementField list position) :
    step = .port position ∧ list = "port_mounts" ∨ step = .host position ∧ list = "hosts" ∨
      step = .mount position ∧ list = "mounts" := by
  cases step with
  | root => exact absurd same.symm (elementField_ne (by decide) list position)
  | port i =>
    obtain ⟨lists, rfl⟩ := elementField_inj (by decide) free same
    exact .inl ⟨rfl, lists.symm⟩
  | host i =>
    obtain ⟨lists, rfl⟩ := elementField_inj (by decide) free same
    exact .inr (.inl ⟨rfl, lists.symm⟩)
  | mount i =>
    obtain ⟨lists, rfl⟩ := elementField_inj (by decide) free same
    exact .inr (.inr ⟨rfl, lists.symm⟩)

theorem DocumentStep.segment_injective : Function.Injective DocumentStep.segment := by
  intro a b same
  cases b with
  | root =>
    cases a with
    | root => rfl
    | port i => exact absurd same (elementField_ne (by decide) _ i)
    | host i => exact absurd same (elementField_ne (by decide) _ i)
    | mount i => exact absurd same (elementField_ne (by decide) _ i)
  | port i => simpa using DocumentStep.eq_of_segment_eq (by decide) same
  | host i => simpa using DocumentStep.eq_of_segment_eq (by decide) same
  | mount i => simpa using DocumentStep.eq_of_segment_eq (by decide) same

theorem DocumentSetting.segments_injective : Function.Injective DocumentSetting.segments := by
  intro a b same
  cases a <;> cases b <;> first | rfl | exact absurd same (by decide)

theorem DocumentSetting.segments_ne (key : DocumentSetting) (list : String) (position : Nat)
    (rest : List String) : key.segments ≠ elementField list position :: rest := by
  have word : '[' ∉ (key.segments.headD "").toList := by cases key <;> decide
  intro same
  rw [same] at word
  exact elementField_ne word list position rfl

theorem DocumentPlace.segments_injective : Function.Injective DocumentPlace.segments := by
  intro a b same
  cases a with
  | setting a =>
    cases b with
    | setting b => rw [DocumentSetting.segments_injective same]
    | sitePath j => exact absurd same (a.segments_ne _ _ _)
    | name other route => exact absurd same (a.segments_ne _ _ _)
  | sitePath i =>
    cases b with
    | setting b => exact absurd same.symm (b.segments_ne _ _ _)
    | sitePath j => rw [(elementField_inj (by decide) (by decide) (List.cons.inj same).1).2]
    | name other route =>
      exact absurd (elementField_inj (by decide) (by decide) (List.cons.inj same).1).1 (by decide)
  | name group way =>
    cases b with
    | setting b => exact absurd same.symm (b.segments_ne _ _ _)
    | sitePath j =>
      exact absurd (elementField_inj (by decide) (by decide) (List.cons.inj same).1).1 (by decide)
    | name other route =>
      obtain ⟨groups, ways⟩ := List.cons.inj same
      rw [(elementField_inj (by decide) (by decide) groups).2,
        DocumentStep.segment_injective.list_map (List.append_cancel_right ways)]

theorem DocumentStep.undotted_segment (step : DocumentStep) : '.' ∉ step.segment.toList := by
  cases step with
  | root => decide
  | port position => exact not_mem_elementField (by decide) rfl (by decide) position
  | host position => exact not_mem_elementField (by decide) rfl (by decide) position
  | mount position => exact not_mem_elementField (by decide) rfl (by decide) position

theorem DocumentPlace.undotted_segments (place : DocumentPlace) :
    ∀ segment ∈ place.segments, '.' ∉ segment.toList := by
  have undotted (list : String) (free : '.' ∉ list.toList) (position : Nat) :
      '.' ∉ (elementField list position).toList := not_mem_elementField free rfl (by decide) position
  cases place with
  | setting key => cases key <;> decide
  | sitePath position => simpa [DocumentPlace.segments] using undotted "sites" (by decide) position
  | name group way =>
    intro segment member
    rcases List.mem_cons.mp member with rfl | later
    · exact undotted "host_groups" (by decide) group
    rcases List.mem_append.mp later with inWay | last
    · obtain ⟨step, _, rfl⟩ := List.mem_map.mp inWay
      exact step.undotted_segment
    · rw [List.mem_singleton.mp last]
      decide

theorem splitAt_intercalate {segments : List String} (some_segment : segments ≠ [])
    (free : ∀ segment ∈ segments, '.' ∉ segment.toList) :
    Text.splitAt '.' (".".intercalate segments) = segments := by
  have joined : (".".intercalate segments).toList = Text.joinSegments '.' (segments.map String.toList) := by
    induction segments with
    | nil => exact absurd rfl some_segment
    | cons first rest ih =>
      cases rest with
      | nil => simp [Text.joinSegments]
      | cons second others =>
        rw [String.intercalate_cons_cons, String.toList_append, String.toList_append,
          ih (List.cons_ne_nil _ _) fun segment member => free segment (List.mem_cons_of_mem _ member)]
        simp [Text.joinSegments]
  have parts : segments.map String.toList ≠ [] := by simpa using some_segment
  have free_parts : ∀ part ∈ segments.map String.toList, '.' ∉ part := by simpa using free
  rw [Text.splitAt, joined, Text.segments_joinSegments parts free_parts, List.map_map]
  exact (List.map_congr_left fun segment _ => String.ofList_toList).trans (List.map_id segments)

/-- Different values are shown with different paths, so a dotted path
is that of one place only. -/
theorem DocumentPlace.field_injective : Function.Injective DocumentPlace.field := by
  have read (place : DocumentPlace) : Text.splitAt '.' place.field = place.segments := by
    refine splitAt_intercalate ?_ place.undotted_segments
    cases place with
    | setting key => cases key <;> decide
    | sitePath position => exact List.cons_ne_nil _ _
    | name group way => exact List.cons_ne_nil _ _
  intro a b same
  exact DocumentPlace.segments_injective (by rw [← read a, same, read b])

end Fields

/-- Document order among what a node holds: a host has its root mount first,
then its port entries, and then the hosts below. -/
inductive DocumentStep.Before : DocumentStep → DocumentStep → Prop where
  | rootPort {j : Nat} : DocumentStep.Before .root (.port j)
  | rootHost {j : Nat} : DocumentStep.Before .root (.host j)
  | portHost {i j : Nat} : DocumentStep.Before (.port i) (.host j)
  | port {i j : Nat} (earlier : i < j) : DocumentStep.Before (.port i) (.port j)
  | host {i j : Nat} (earlier : i < j) : DocumentStep.Before (.host i) (.host j)
  | mount {i j : Nat} (earlier : i < j) : DocumentStep.Before (.mount i) (.mount j)

/-- Document order among the names below a node: its own name, then those
of one part after another. -/
abbrev WayBefore : List DocumentStep → List DocumentStep → Prop :=
  List.Lex DocumentStep.Before

def DocumentPlace.part : DocumentPlace → Nat
  | .setting .scheme => 0
  | .setting .responseCode => 1
  | .setting .defaultHostName => 2
  | .sitePath _ => 3
  | .name _ _ => 4
  | .setting .apiKey => 5
  | .setting .logFormat => 6

inductive DocumentPlace.Before : DocumentPlace → DocumentPlace → Prop where
  | part {a b : DocumentPlace} (earlier : a.part < b.part) : DocumentPlace.Before a b
  | site {i j : Nat} (earlier : i < j) : DocumentPlace.Before (.sitePath i) (.sitePath j)
  | group {i j : Nat} {way route : List DocumentStep} (earlier : i < j) :
      DocumentPlace.Before (.name i way) (.name j route)
  | way {group : Nat} {way route : List DocumentStep} (earlier : WayBefore way route) :
      DocumentPlace.Before (.name group way) (.name group route)

section Order

theorem DocumentStep.Before.irrefl (step : DocumentStep) : ¬ step.Before step := by
  intro before
  cases before <;> exact absurd ‹_ < _› (Nat.lt_irrefl _)

theorem WayBefore.irrefl (way : List DocumentStep) : ¬ WayBefore way way := by
  induction way with
  | nil => exact nofun
  | cons step rest ih =>
    intro before
    cases before with
    | rel earlier => exact earlier.irrefl
    | cons later => exact ih later

theorem DocumentPlace.Before.irrefl (place : DocumentPlace) : ¬ place.Before place := by
  intro before
  cases before with
  | part earlier => exact absurd earlier (Nat.lt_irrefl _)
  | site earlier => exact absurd earlier (Nat.lt_irrefl _)
  | group earlier => exact absurd earlier (Nat.lt_irrefl _)
  | way earlier => exact WayBefore.irrefl _ earlier

end Order

end SiteRouting
