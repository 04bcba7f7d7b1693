import Mathlib
import SiteRouting.Config.Validation
import SiteRouting.Proofs.Text.Separators

namespace SiteRouting

open Text

/-- A text that is a whole host name: it holds no colon and no blank. A
name that validation accepts for the default host can be sent as a host
value, with or without a port. -/
def IsHostText (s : String) : Prop :=
  ∀ c ∈ s.toList, c ≠ ':' ∧ isBlank c = false

theorem isHostText_of_isHostName {value : String} (accepted : isHostName value) : IsHostText value := by
  simp only [isHostName, Bool.and_eq_true, Bool.not_eq_true', List.any_eq_false] at accepted
  intro c member
  have kept := accepted.2 c member
  simp only [Bool.or_eq_true, beq_iff_eq, not_or] at kept
  exact ⟨kept.1.1, by simpa using kept.2⟩

theorem IsHostText.trim_eq {s : String} (host : IsHostText s) : trim s = s := by
  rw [trim, stripChars_eq_self fun c member => (host c member).2, String.ofList_toList]

theorem mem_of_mem_dropTrailingDot {s : String} {c : Char} (member : c ∈ (dropTrailingDot s).toList) :
    c ∈ s.toList := by
  unfold dropTrailingDot at member
  split at member
  · rename_i rest shape
    have inside : c ∈ s.toList.reverse := by
      rw [shape]
      exact List.mem_cons_of_mem _ (by simpa using member)
    exact List.mem_reverse.mp inside
  · exact member

theorem IsHostText.lowercased {s : String} (host : IsHostText s) : IsHostText (lowercase s) := by
  intro c member
  have old (separates : isSeparator c) := host c (mem_of_mem_lowercase member separates)
  refine ⟨?_, ?_⟩
  · rintro rfl
    exact (old (by decide)).1 rfl
  · by_contra blank
    rw [Bool.not_eq_false] at blank
    have same := (old (by simp [isSeparator, blank])).2
    rw [blank] at same
    cases same

theorem IsHostText.normalizeHostName {s : String} (host : IsHostText s) :
    IsHostText (normalizeHostName s) := by
  intro c member
  have lower : c ∈ (lowercase s).toList := by
    simpa [host.trim_eq] using mem_of_mem_dropTrailingDot member
  exact host.lowercased c lower

theorem dropTrailingDot_of_reverse {s : String} {rest : List Char}
    (shape : s.toList.reverse = '.' :: rest) : (dropTrailingDot s).toList = rest.reverse := by
  simp [dropTrailingDot, shape]

theorem dropTrailingDot_of_not_dot {s : String} (other : ∀ rest, s.toList.reverse ≠ '.' :: rest) :
    dropTrailingDot s = s := by
  unfold dropTrailingDot
  split
  · rename_i rest shape
    exact absurd shape (other rest)
  · rfl

/-- What is left is a text of dots if there was one dot more, or
nothing from the start. -/
theorem toList_dropTrailingDot_eq_dots_iff {s : String} (count : Nat) :
    (dropTrailingDot s).toList = List.replicate count '.' ↔
      s.toList = List.replicate (count + 1) '.' ∨ count = 0 ∧ s.toList = [] := by
  by_cases dotted : ∃ rest, s.toList.reverse = '.' :: rest
  · obtain ⟨rest, shape⟩ := dotted
    have whole : s.toList = rest.reverse ++ ['.'] := by
      rw [← List.reverse_reverse s.toList, shape, List.reverse_cons]
    rw [dropTrailingDot_of_reverse shape, whole, List.replicate_succ']
    simp
  · have other : ∀ rest, s.toList.reverse ≠ '.' :: rest := fun rest shape => dotted ⟨rest, shape⟩
    have undotted : s.toList ≠ List.replicate (count + 1) '.' := by
      intro dots
      refine other (List.replicate count '.') ?_
      rw [dots, List.reverse_replicate, List.replicate_succ]
    rw [dropTrailingDot_of_not_dot other]
    constructor
    · intro dots
      cases count with
      | zero => exact Or.inr ⟨rfl, dots⟩
      | succ count =>
        refine absurd ?_ (other (List.replicate count '.'))
        rw [dots, List.reverse_replicate, List.replicate_succ]
    · rintro (dots | ⟨rfl, empty⟩)
      · exact absurd dots undotted
      · exact empty

theorem IsHostText.toList_normalizeHostName_eq_dots_iff {s : String} (host : IsHostText s) (count : Nat) :
    (SiteRouting.normalizeHostName s).toList = List.replicate count '.' ↔
      s.toList = List.replicate (count + 1) '.' ∨ count = 0 ∧ s.toList = [] := by
  have lower (n : Nat) :
      (lowercase s).toList = List.replicate n '.' ↔ s.toList = List.replicate n '.' := by
    simp only [lowercase, String.toList_ofList, lowercaseChars_eq_dots_iff]
  rw [SiteRouting.normalizeHostName, host.trim_eq, toList_dropTrailingDot_eq_dots_iff, lower]
  exact or_congr_right (and_congr_right fun _ => lower 0)

/-- Nothing is left of a host text only if it is empty or a single dot: only
names of dots lose everything to normalization. -/
theorem IsHostText.normalizeHostName_eq_empty_iff {s : String} (host : IsHostText s) :
    SiteRouting.normalizeHostName s = "" ↔ s = "." ∨ s = "" := by
  rw [← String.toList_inj, ← String.toList_inj, ← String.toList_inj]
  exact (host.toList_normalizeHostName_eq_dots_iff 0).trans
    (or_congr_right (and_iff_right rfl))

theorem IsHostText.normalizeHostName_eq_dot_iff {s : String} (host : IsHostText s) :
    SiteRouting.normalizeHostName s = "." ↔ s = ".." := by
  rw [← String.toList_inj, ← String.toList_inj]
  exact (host.toList_normalizeHostName_eq_dots_iff 1).trans
    (or_iff_left fun impossible => absurd impossible.1 (by decide))

/-- A host text is read as its normal form and no port. -/
theorem IsHostText.parse_eq {s : String} (host : IsHostText s) :
    RequestHost.parse s = RequestHost.named s anyPort := by
  have free : splitFirst? ':' s = none := by
    have absent : ':' ∉ s.toList := fun member => (host ':' member).1 rfl
    simp [splitFirst?, cutFirst?_eq_none_iff.mpr absent]
  simp [RequestHost.parse, host.trim_eq, free]

theorem isBlank_of_isDigit {c : Char} (digit : c.isDigit) : isBlank c = false := by
  have bounds : 48 ≤ c.toNat ∧ c.toNat ≤ 57 := by
    simpa [Char.isDigit, UInt32.le_iff_toNat_le] using digit
  simp only [isBlank, Bool.or_eq_false_iff, Bool.and_eq_false_iff, decide_eq_false_iff_not,
    beq_eq_false_iff_ne]
  omega

/-- A host text with a port behind a colon is read as its normal form
and that port. -/
theorem IsHostText.parse_port {s : String} (host : IsHostText s) {port : Port} (fits : port ≤ maxPort) :
    RequestHost.parse s!"{s}:{port}" = RequestHost.named s port := by
  have text : (s!"{s}:{port}").toList = s.toList ++ ':' :: (toString port).toList := by
    change (s ++ ":" ++ toString port).toList = _
    simp
  have digits : ∀ c ∈ (toString port).toList, isBlank c = false := by
    intro c member
    rw [Nat.toString_eq_repr, Nat.toList_repr] at member
    exact isBlank_of_isDigit (Nat.isDigit_of_mem_toDigits (by decide) (by decide) member)
  have kept : trim s!"{s}:{port}" = s!"{s}:{port}" := by
    rw [trim, stripChars_eq_self, String.ofList_toList]
    rw [text]
    intro c member
    rcases List.mem_append.mp member with inHost | behind
    · exact (host c inHost).2
    · rcases List.mem_cons.mp behind with rfl | inPort
      · decide
      · exact digits c inPort
  have absent : ':' ∉ s.toList := fun member => (host ':' member).1 rfl
  have cut : splitFirst? ':' s!"{s}:{port}" = some (s, toString port) := by
    simp only [splitFirst?, text, cutFirst?_append _ absent, Option.map_some, String.ofList_toList]
  simp only [RequestHost.parse, kept, cut, numeral?_toString fits]

theorem RequestHost.named_port {name : String} {port : Port} {request : RequestHost}
    (named : RequestHost.named name port = .ok request) : request.port = port := by
  simp only [RequestHost.named] at named
  split at named
  · cases named
  · rw [← Except.ok.inj named]

theorem RequestHost.parse_port_le {rawHost : String} {request : RequestHost}
    (parsed : RequestHost.parse rawHost = .ok request) : request.port ≤ maxPort := by
  unfold RequestHost.parse at parsed
  split at parsed
  · rw [RequestHost.named_port parsed]
    decide
  · split at parsed
    · cases parsed
    · rename_i read
      rw [RequestHost.named_port parsed]
      exact numeral?_le read

end SiteRouting
