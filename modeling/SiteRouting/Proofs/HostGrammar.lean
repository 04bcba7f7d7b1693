import Mathlib
import SiteRouting.Proofs.Lookup.Addressing
import SiteRouting.Proofs.Lookup.Refusal

namespace SiteRouting

open Text

/-- The digits of a decimal numeral, and the number that they write. -/
structure IsNumeral (digits : List Char) (value : Nat) : Prop where
  some_digit : digits ≠ []
  all_digits : ∀ c ∈ digits, c.isDigit
  value : Nat.ofDigitChars 10 digits 0 = value

/-- A text that is a numeral up to a bound, with or without a plus sign. -/
def IsBoundedNumeral (bound : Nat) (text : List Char) (value : Nat) : Prop :=
  value ≤ bound ∧ ∃ digits, (text = digits ∨ text = '+' :: digits) ∧ IsNumeral digits value

/-- What a value without blanks at its ends says: the text of a name, and a
port behind the first colon. A port is written in ASCII digits, and one plus
sign may stand in front of them. -/
inductive WritesHost (value : String) : String → Port → Prop
  | portless (uncoloned : ':' ∉ value.toList) : WritesHost value value anyPort
  | ported {name : String} {portText : List Char} {port : Port}
      (parts : value.toList = name.toList ++ ':' :: portText) (uncoloned : ':' ∉ name.toList)
      (isPort : IsBoundedNumeral maxPort portText port) : WritesHost value name port

def LacksPort (value : String) : Prop :=
  ∃ name portText, value.toList = name ++ ':' :: portText ∧ ':' ∉ name ∧
    ∀ port, ¬ IsBoundedNumeral maxPort portText port

def IsUndotted (text short : String) : Prop :=
  text.toList = short.toList ++ ['.'] ∨ text = short ∧ ∀ front, text.toList ≠ front ++ ['.']

section Numerals

theorem digitsValue?_eq_some_iff {digits : List Char} {value : Nat} :
    digitsValue? digits = some value ↔ IsNumeral digits value := by
  by_cases all : ∀ c ∈ digits, c.isDigit
  · have isDigits : digits.all isDigit = true := by
      simpa [isDigit_eq] using all
    rw [digitsValue?, isDigits, valueOfDigits_eq all]
    by_cases empty : digits = []
    · simp only [empty, List.isEmpty_nil, Bool.true_or, if_true]
      exact iff_of_false (by simp) fun numeral => numeral.some_digit rfl
    · simp only [List.isEmpty_eq_false_iff.mpr empty, Bool.not_true, Bool.or_self, Bool.false_eq_true,
        if_false, Option.some.injEq]
      exact ⟨fun value => ⟨empty, all, value⟩, fun numeral => numeral.value⟩
  · have other : digits.all isDigit = false := by
      rw [Bool.eq_false_iff]
      simpa [isDigit_eq] using all
    rw [digitsValue?, other, Bool.not_false, Bool.or_true, if_pos rfl]
    exact iff_of_false (by simp) fun numeral => all numeral.all_digits

theorem numeral?_eq_some_iff {bound value : Nat} {s : String} :
    numeral? bound s = some value ↔ IsBoundedNumeral bound s.toList value := by
  have reads (digits : List Char) :
      (do let found ← digitsValue? digits; if found ≤ bound then some found else none) = some value ↔
        value ≤ bound ∧ IsNumeral digits value := by
    simp only [Option.bind_eq_bind, Option.bind_eq_some_iff, Option.ite_none_right_eq_some,
      Option.some.injEq, digitsValue?_eq_some_iff]
    constructor
    · rintro ⟨found, numeral, fits, rfl⟩
      exact ⟨fits, numeral⟩
    · rintro ⟨fits, numeral⟩
      exact ⟨value, numeral, fits, rfl⟩
  rw [numeral?, reads, IsBoundedNumeral]
  refine and_congr_right fun _ => ?_
  split
  · rename_i rest signed
    rw [signed]
    constructor
    · exact fun numeral => ⟨rest, Or.inr rfl, numeral⟩
    · rintro ⟨digits, rfl | same, numeral⟩
      · exact absurd (numeral.all_digits '+' List.mem_cons_self) (by decide)
      · rw [(List.cons.inj same).2]
        exact numeral
  · rename_i unsigned
    constructor
    · exact fun numeral => ⟨s.toList, Or.inl rfl, numeral⟩
    · rintro ⟨digits, same | signed, numeral⟩
      · rw [same]
        exact numeral
      · exact absurd signed (unsigned digits)

end Numerals

section Names

theorem dropTrailingDot_eq_iff {text short : String} : dropTrailingDot text = short ↔ IsUndotted text short := by
  by_cases dotted : ∃ front, text.toList = front ++ ['.']
  · obtain ⟨front, whole⟩ := dotted
    have dropped : (dropTrailingDot text).toList = front := by
      have shape : text.toList.reverse = '.' :: front.reverse := by simp [whole]
      rw [dropTrailingDot_of_reverse shape, List.reverse_reverse]
    rw [← String.toList_inj, dropped, IsUndotted, whole]
    constructor
    · rintro rfl
      exact Or.inl rfl
    · rintro (same | ⟨_, undotted⟩)
      · exact List.append_cancel_right same
      · exact absurd rfl (undotted front)
  · have undotted : ∀ front, text.toList ≠ front ++ ['.'] := fun front whole => dotted ⟨front, whole⟩
    have kept : dropTrailingDot text = text := by
      refine dropTrailingDot_of_not_dot fun rest shape => undotted rest.reverse ?_
      rw [← List.reverse_reverse text.toList, shape, List.reverse_cons]
    rw [kept, IsUndotted]
    constructor
    · exact fun same => Or.inr ⟨same, undotted⟩
    · rintro (whole | ⟨same, _⟩)
      · exact absurd whole (undotted short.toList)
      · exact same

theorem RequestHost.named_eq_ok_iff {text name : String} {port portToo : Port} :
    RequestHost.named text port = .ok ⟨name, portToo⟩ ↔
      name ≠ "" ∧ port = portToo ∧ IsUndotted (lowercase (trim text)) name := by
  rw [← dropTrailingDot_eq_iff, ← normalizeHostName]
  simp only [RequestHost.named, String.isEmpty_iff]
  by_cases empty : normalizeHostName text = ""
  · simp only [empty, if_true]
    refine iff_of_false (by simp) ?_
    rintro ⟨some_char, _, same⟩
    exact some_char same.symm
  · simp only [empty, if_false, Except.ok.injEq, RequestHost.mk.injEq]
    constructor
    · rintro ⟨rfl, rfl⟩
      exact ⟨empty, rfl, rfl⟩
    · rintro ⟨_, rfl, rfl⟩
      exact ⟨rfl, rfl⟩

end Names

section Parts

variable {value : String}

theorem eq_of_first_colon {front other back behind : List Char}
    (same : front ++ ':' :: back = other ++ ':' :: behind) (free : ':' ∉ front) (freeToo : ':' ∉ other) :
    front = other ∧ back = behind := by
  have cut := cutFirst?_append back free
  rw [same, cutFirst?_append behind freeToo, Option.some.injEq, Prod.mk.injEq] at cut
  exact ⟨cut.1.symm, cut.2.symm⟩

theorem IsBoundedNumeral.unique {bound a b : Nat} {text : List Char} (left : IsBoundedNumeral bound text a)
    (right : IsBoundedNumeral bound text b) : a = b := by
  rw [← String.toList_ofList (l := text), ← numeral?_eq_some_iff] at left right
  exact Option.some.inj (left.symm.trans right)

theorem WritesHost.unique {text other : String} {port portToo : Port} (left : WritesHost value text port)
    (right : WritesHost value other portToo) : text = other ∧ port = portToo := by
  cases left with
  | portless uncoloned =>
    cases right with
    | portless => exact ⟨rfl, rfl⟩
    | ported parts => exact absurd (parts ▸ by simp) uncoloned
  | ported parts free isPort =>
    cases right with
    | portless uncoloned => exact absurd (parts ▸ by simp) uncoloned
    | ported others freeToo isPortToo =>
      obtain ⟨sameName, rfl⟩ := eq_of_first_colon (parts.symm.trans others) free freeToo
      exact ⟨String.toList_inj.mp sameName, isPort.unique isPortToo⟩

theorem WritesHost.not_lacksPort {text : String} {port : Port} (writes : WritesHost value text port) :
    ¬ LacksPort value := by
  rintro ⟨front, behind, parts, free, portless⟩
  cases writes with
  | portless uncoloned => exact uncoloned (parts ▸ by simp)
  | ported others freeToo isPort =>
    obtain ⟨_, rfl⟩ := eq_of_first_colon (parts.symm.trans others) free freeToo
    exact portless port isPort

/-- Every value writes a host, or it has a colon that no port follows. -/
theorem exists_writesHost_or_lacksPort (value : String) :
    (∃ text port, WritesHost value text port) ∨ LacksPort value := by
  by_cases coloned : ':' ∈ value.toList
  · obtain ⟨name, portText, parts, free⟩ := List.eq_append_cons_of_mem coloned
    by_cases isPort : ∃ port, IsBoundedNumeral maxPort portText port
    · obtain ⟨port, isPort⟩ := isPort
      refine Or.inl ⟨String.ofList name, port, .ported ?_ ?_ isPort⟩
      · rw [String.toList_ofList, parts]
      · rwa [String.toList_ofList]
    · exact Or.inr ⟨name, portText, parts, free, not_exists.mp isPort⟩
  · exact Or.inl ⟨value, anyPort, .portless coloned⟩

theorem splitFirst?_of_parts {name portText : List Char} (parts : value.toList = name ++ ':' :: portText)
    (free : ':' ∉ name) : splitFirst? ':' value = some (String.ofList name, String.ofList portText) := by
  rw [splitFirst?, parts, cutFirst?_append portText free]
  rfl

theorem RequestHost.parse_of_writesHost {rawHost text : String} {port : Port}
    (writes : WritesHost (trim rawHost) text port) : RequestHost.parse rawHost = RequestHost.named text port := by
  rw [RequestHost.parse]
  cases writes with
  | portless uncoloned =>
    have uncut : splitFirst? ':' (trim rawHost) = none := by
      rw [splitFirst?, cutFirst?_eq_none_iff.mpr uncoloned, Option.map_none]
    rw [uncut]
  | ported parts free isPort =>
    rename_i portText
    have read : numeral? maxPort (String.ofList portText) = some port := by
      rwa [numeral?_eq_some_iff, String.toList_ofList]
    rw [splitFirst?_of_parts parts free]
    simp only [read, String.ofList_toList]

theorem RequestHost.parse_of_lacksPort {rawHost : String} (lacking : LacksPort (trim rawHost)) :
    RequestHost.parse rawHost = .error (.invalidPort rawHost) := by
  obtain ⟨name, portText, parts, free, portless⟩ := lacking
  have unread : numeral? maxPort (String.ofList portText) = none := by
    refine Option.eq_none_iff_forall_ne_some.mpr fun port read => portless port ?_
    rwa [numeral?_eq_some_iff, String.toList_ofList] at read
  rw [RequestHost.parse, splitFirst?_of_parts parts free]
  simp only [unread]

end Parts

/-- A raw value, trimmed, is read as a name and a port exactly if it writes
them: the name is what stands before the first colon, trimmed, lowercase and
without one dot at its end, and something of it is left. It is refused for
its port if there is a colon and no port behind the first one, and for its
name if there is a port, or no colon, and nothing is left of the name. -/
theorem RequestHost.parse_grammar (rawHost : String) :
    (∀ name port, RequestHost.parse rawHost = .ok ⟨name, port⟩ ↔
      name ≠ "" ∧ ∃ text, WritesHost (trim rawHost) text port ∧ IsUndotted (lowercase (trim text)) name) ∧
    ∀ cause, RequestHost.parse rawHost = .error cause ↔
      cause = .invalidPort rawHost ∧ LacksPort (trim rawHost) ∨
        cause = .emptyHost ∧ ∃ text port, WritesHost (trim rawHost) text port ∧
          IsUndotted (lowercase (trim text)) "" := by
  rcases exists_writesHost_or_lacksPort (trim rawHost) with ⟨text, port, writes⟩ | lacking
  · rw [RequestHost.parse_of_writesHost writes]
    constructor
    · intro name portToo
      rw [RequestHost.named_eq_ok_iff]
      constructor
      · rintro ⟨some_char, rfl, undotted⟩
        exact ⟨some_char, text, writes, undotted⟩
      · rintro ⟨some_char, other, writesToo, undotted⟩
        obtain ⟨rfl, rfl⟩ := writes.unique writesToo
        exact ⟨some_char, rfl, undotted⟩
    · intro cause
      rw [RequestHost.named_eq_error_iff, normalizeHostName, dropTrailingDot_eq_iff]
      constructor
      · rintro ⟨nothing, rfl⟩
        exact Or.inr ⟨rfl, text, port, writes, nothing⟩
      · rintro (⟨_, lacking⟩ | ⟨rfl, other, portToo, writesToo, nothing⟩)
        · exact absurd lacking writes.not_lacksPort
        · obtain ⟨rfl, _⟩ := writes.unique writesToo
          exact ⟨nothing, rfl⟩
  · rw [RequestHost.parse_of_lacksPort lacking]
    constructor
    · intro name port
      refine iff_of_false (by simp) ?_
      rintro ⟨_, _, writes, _⟩
      exact writes.not_lacksPort lacking
    · intro cause
      constructor
      · rintro ⟨⟩
        exact Or.inl ⟨rfl, lacking⟩
      · rintro (⟨rfl, _⟩ | ⟨_, _, _, writes, _⟩)
        · rfl
        · exact absurd lacking writes.not_lacksPort

/-- A plus sign in front of a port is no digit, and the port is read
all the same. -/
theorem RequestHost.parse_signed_port :
    RequestHost.parse "localhost:+80" = .ok ⟨"localhost", 80⟩ ∧
      ':' ∈ (trim "localhost:+80").toList ∧
      ∀ name portText, (trim "localhost:+80").toList = name ++ ':' :: portText → ':' ∉ name →
        ∀ port, ¬ IsNumeral portText port := by
  have parts : (trim "localhost:+80").toList = "localhost".toList ++ ':' :: "+80".toList := by
    decide +kernel
  refine ⟨by decide +kernel, by rw [parts]; simp, ?_⟩
  intro name portText others free port numeral
  obtain ⟨_, rfl⟩ := eq_of_first_colon (parts.symm.trans others) (by decide) free
  exact absurd (numeral.all_digits '+' (by decide)) (by decide)

end SiteRouting
