import Mathlib
import SiteRouting.HostName

namespace SiteRouting.Text

/-- Whether a character ends a label, a host name or the value that holds it.
Lowercasing neither makes nor removes such a character, so what validation
finds in a configured name is still found in its normal form. -/
def isSeparator (c : Char) : Bool :=
  c == ':' || c == '/' || c == '.' || isBlank c

def separatorRanges : List (Nat × Nat) :=
  [(0x09, 0x0D), (0x20, 0x20), (0x2E, 0x2F), (0x3A, 0x3A), (0x85, 0x85), (0xA0, 0xA0),
    (0x1680, 0x1680), (0x2000, 0x200A), (0x2028, 0x2029), (0x202F, 0x202F), (0x205F, 0x205F),
    (0x3000, 0x3000)]

theorem isSeparator_eq_inRanges (c : Char) : isSeparator c = inRanges separatorRanges c.toNat := by
  have code (d : Char) : c = d ↔ c.toNat = d.toNat := Char.toNat_inj.symm
  rw [Bool.eq_iff_iff]
  simp only [isSeparator, isBlank, inRanges, separatorRanges, List.any_cons, List.any_nil,
    Bool.or_eq_true, Bool.and_eq_true, beq_iff_eq, decide_eq_true_eq, Bool.or_false, code]
  have colon : ':'.toNat = 0x3A := rfl
  have slash : '/'.toNat = 0x2F := rfl
  have dot : '.'.toNat = 0x2E := rfl
  omega

def CaseRun.avoids (run : CaseRun) (range : Nat × Nat) : Bool :=
  (run.last : Int) + run.offset < range.1 || (range.2 : Int) < run.first + run.offset

theorem lowercaseRuns_avoid :
    ∀ run ∈ lowercaseRuns, ∀ range ∈ separatorRanges, run.avoids range := by
  decide +kernel

/-- The lowercase form of a character in a run is no separator. A form that
is no code point at all is read as NUL, which is none either. -/
theorem CaseRun.isSeparator_offset {run : CaseRun} {code : Nat} (known : run ∈ lowercaseRuns)
    (covered : run.covers code) : isSeparator (Char.ofNat ((code : Int) + run.offset).toNat) = false := by
  simp only [CaseRun.covers, Bool.and_eq_true, decide_eq_true_eq] at covered
  obtain ⟨⟨lower, upper⟩, _⟩ := covered
  rw [isSeparator_eq_inRanges, Char.toNat_ofNat]
  split
  · simp only [inRanges, List.any_eq_false, Bool.and_eq_true, decide_eq_true_eq, not_and]
    intro range member low
    have away := lowercaseRuns_avoid run known range member
    -- A sum below zero is read as zero, which has to be outside as well.
    have positive : 0 < range.1 := by
      have all : ∀ r ∈ separatorRanges, 0 < r.1 := by decide
      exact all range member
    simp only [CaseRun.avoids, Bool.or_eq_true, decide_eq_true_eq] at away
    omega
  · decide

theorem isSeparator_toLower {c : Char} (changed : c.toLower ≠ c) : isSeparator c.toLower = false := by
  have upper : c.isUpper := by
    by_contra other
    exact changed (Char.toLower_eq_of_not_isUpper other)
  have bounds : 65 ≤ c.toNat ∧ c.toNat ≤ 90 := by
    simpa [Char.isUpper, UInt32.le_iff_toNat_le] using upper
  have valid : (c.toNat + 32).isValidChar := by omega
  rw [Char.toLower_eq_of_isUpper upper, isSeparator_eq_inRanges, Char.toNat_ofNat, if_pos valid]
  simp only [inRanges, separatorRanges, List.any_cons, List.any_nil, Bool.or_false,
    Bool.or_eq_false_iff, Bool.and_eq_false_iff, decide_eq_false_iff_not]
  omega

theorem eq_of_mem_lowercaseChar {c d : Char} (member : d ∈ lowercaseChar c)
    (separates : isSeparator d) : d = c := by
  unfold lowercaseChar at member
  split at member
  · by_contra different
    rw [List.mem_singleton] at member
    subst member
    rw [isSeparator_toLower different] at separates
    cases separates
  split at member
  · rcases List.mem_pair.mp member with rfl | rfl <;> exact absurd separates (by decide)
  split at member
  · rename_i run found
    rw [List.mem_singleton] at member
    subst member
    have covered : run.covers c.toNat := by simpa using List.find?_some found
    rw [run.isSeparator_offset (List.mem_of_find?_eq_some found) covered] at separates
    cases separates
  · exact List.mem_singleton.mp member

theorem lowercaseChar_ne_nil (c : Char) : lowercaseChar c ≠ [] := by
  unfold lowercaseChar
  split
  · simp
  split
  · simp
  split <;> simp

/-- One character goes to at least one, and to a separator only if it
is that separator. -/
theorem lowercaseChars_cons (before after : List Char) (c : Char) :
    ∃ form, lowercaseChars before (c :: after) = form ++ lowercaseChars (c :: before) after ∧
      form ≠ [] ∧ ∀ d ∈ form, isSeparator d → d = c := by
  refine ⟨_, rfl, ?_, ?_⟩
  · split
    · simp
    · exact lowercaseChar_ne_nil c
  · intro d member separates
    split at member
    · rw [List.mem_singleton] at member
      subst member
      split at separates <;> exact absurd separates (by decide)
    · exact eq_of_mem_lowercaseChar member separates

theorem mem_of_mem_lowercaseChars {before cs : List Char} {d : Char}
    (member : d ∈ lowercaseChars before cs) (separates : isSeparator d) : d ∈ cs := by
  induction cs generalizing before with
  | nil => simp [lowercaseChars] at member
  | cons c after ih =>
    obtain ⟨form, split, _, kept⟩ := lowercaseChars_cons before after c
    rw [split, List.mem_append] at member
    rcases member with here | later
    · rw [kept d here separates]
      exact List.mem_cons_self
    · exact List.mem_cons_of_mem c (ih later)

theorem mem_of_mem_lowercase {s : String} {d : Char} (member : d ∈ (lowercase s).toList)
    (separates : isSeparator d) : d ∈ s.toList :=
  mem_of_mem_lowercaseChars (by simpa [lowercase] using member) separates

theorem lowercaseChars_dot (before after : List Char) :
    lowercaseChars before ('.' :: after) = '.' :: lowercaseChars ('.' :: before) after := by
  have dot : lowercaseChar '.' = ['.'] := by decide
  simp [lowercaseChars, dot]

/-- Exactly the texts of dots have lowercase forms of dots, and each
is its own. -/
theorem lowercaseChars_eq_dots_iff {before cs : List Char} {count : Nat} :
    lowercaseChars before cs = List.replicate count '.' ↔ cs = List.replicate count '.' := by
  induction cs generalizing before count with
  | nil => simp [lowercaseChars]
  | cons c after ih =>
    by_cases dot : c = '.'
    · subst dot
      cases count with
      | zero => simp [lowercaseChars_dot]
      | succ count => simp [lowercaseChars_dot, List.replicate_succ, ih]
    · have other : c :: after ≠ List.replicate count '.' :=
        fun same => dot (List.eq_of_mem_replicate (same ▸ List.mem_cons_self))
      refine iff_of_false ?_ other
      intro dots
      obtain ⟨form, split, nonempty, kept⟩ := lowercaseChars_cons before after c
      obtain ⟨d, others, rfl⟩ := List.exists_cons_of_ne_nil nonempty
      have inside : d ∈ List.replicate count '.' := by
        rw [← dots, split]
        exact List.mem_cons_self
      have head : d = '.' := List.eq_of_mem_replicate inside
      have same := kept d List.mem_cons_self (by rw [head]; decide)
      exact dot (same.symm.trans head)

end SiteRouting.Text
