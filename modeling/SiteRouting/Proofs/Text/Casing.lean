import Mathlib
import SiteRouting.Proofs.Text.Separators

namespace SiteRouting.Text

/-- Whether lowercasing leaves a character as it is, wherever it stands. No
lowercase form is a character that has another one, and the sigma that
depends on its neighbours is gone, so a second pass finds nothing to do. -/
def isLowered (c : Char) : Bool :=
  c != 'Σ' && lowercaseChar c == [c]

/-- All characters that have another lowercase form, those that have it by
a rule of their own first. -/
def changedRuns : List CaseRun :=
  ⟨0x41, 0x5A, 1, 0x20⟩ :: ⟨0x130, 0x130, 1, 0⟩ :: lowercaseRuns

def CaseRun.image (run : CaseRun) : Nat × Nat :=
  (((run.first : Int) + run.offset).toNat, ((run.last : Int) + run.offset).toNat)

/-- Whether the lowercase forms of a run, whose ends are given, are no
characters of another run: they lie outside of it, or only at the
places that it leaves out. -/
def CaseRun.isFreeOf (run other : CaseRun) (ends : Nat × Nat) : Bool :=
  Nat.blt ends.2 other.first || Nat.blt other.last ends.1 ||
    (other.stride == 2 && (run.stride == 2 || run.first == run.last) && (ends.1 + other.first) % 2 == 1)

theorem changedRuns_free :
    lowercaseRuns.all (fun run => changedRuns.all fun other => run.isFreeOf other run.image) = true := by
  decide +kernel

theorem lowercaseRuns_upward : ∀ run ∈ lowercaseRuns, 0 ≤ (run.first : Int) + run.offset := by
  decide +kernel

theorem CaseRun.covers_image_eq_false {run other : CaseRun} {code : Nat} (known : run ∈ lowercaseRuns)
    (knownToo : other ∈ changedRuns) (covered : run.covers code) :
    other.covers ((code : Int) + run.offset).toNat = false := by
  have free := List.all_eq_true.mp (List.all_eq_true.mp changedRuns_free run known) other knownToo
  have upward := lowercaseRuns_upward run known
  simp only [CaseRun.isFreeOf, CaseRun.image, Bool.or_eq_true, Bool.and_eq_true, Nat.blt_eq,
    beq_iff_eq] at free
  simp only [CaseRun.covers, Bool.and_eq_true, decide_eq_true_eq, beq_iff_eq] at covered
  obtain ⟨⟨lower, upper⟩, place⟩ := covered
  rw [Bool.eq_false_iff]
  intro inOther
  simp only [CaseRun.covers, Bool.and_eq_true, decide_eq_true_eq, beq_iff_eq] at inOther
  obtain ⟨⟨lowerToo, upperToo⟩, placeToo⟩ := inOther
  rcases free with (below | above) | ⟨⟨everySecond, spaced⟩, apart⟩
  · omega
  · omega
  · rw [everySecond] at placeToo
    rcases spaced with everySecondToo | single
    · rw [everySecondToo] at place
      omega
    · omega

theorem isLowered_iff {c : Char} : isLowered c ↔ c ≠ 'Σ' ∧ lowercaseChar c = [c] := by
  simp [isLowered]

theorem isLowered_of_not_covered {c : Char} (free : ∀ run ∈ changedRuns, run.covers c.toNat = false) :
    isLowered c := by
  have missing : lowercaseRuns.find? (·.covers c.toNat) = none := by
    simpa using fun run member => free run (by simp [changedRuns, member])
  have notUpper : ¬ c.isUpper := by
    have outside := free ⟨0x41, 0x5A, 1, 0x20⟩ (by simp [changedRuns])
    simp only [CaseRun.covers, Nat.mod_one, beq_self_eq_true, Bool.and_true, Bool.and_eq_false_iff,
      decide_eq_false_iff_not] at outside
    rw [Char.isUpper, decide_eq_true_eq]
    exact fun inside => outside.elim (· inside.1) (· inside.2)
  have notDotted : (c.toNat == 0x130) = false := by
    have outside := free ⟨0x130, 0x130, 1, 0⟩ (by simp [changedRuns])
    simp only [CaseRun.covers, Nat.mod_one, beq_self_eq_true, Bool.and_true, Bool.and_eq_false_iff,
      decide_eq_false_iff_not] at outside
    rw [beq_eq_false_iff_ne]
    omega
  rw [isLowered_iff]
  constructor
  · rintro rfl
    exact absurd missing (by decide +kernel)
  · rw [lowercaseChar, missing, notDotted, Char.toLower_eq_of_not_isUpper notUpper]
    simp

theorem isLowered_toLower {c : Char} (ascii : c.toNat < 0x80) : isLowered c.toLower := by
  have all : ∀ code < 0x80, isLowered (Char.ofNat code).toLower := by decide +kernel
  have here := all c.toNat ascii
  rwa [Char.ofNat_toNat] at here

theorem isLowered_of_mem_lowercaseChar {c d : Char} (member : d ∈ lowercaseChar c) : isLowered d := by
  unfold lowercaseChar at member
  split at member
  · rename_i ascii
    rw [List.mem_singleton.mp member]
    exact isLowered_toLower ascii
  rename_i notAscii
  split at member
  · rcases List.mem_pair.mp member with rfl | rfl <;> decide +kernel
  rename_i notDotted
  split at member
  · rename_i run found
    have known := List.mem_of_find?_eq_some found
    have covered : run.covers c.toNat := by simpa using List.find?_some found
    rw [List.mem_singleton.mp member]
    refine isLowered_of_not_covered fun other knownToo => ?_
    -- A sum that is no code point is read as NUL, which no run has.
    rw [Char.toNat_ofNat]
    split
    · exact CaseRun.covers_image_eq_false known knownToo covered
    · have bottom : ∀ run ∈ changedRuns, run.covers 0 = false := by decide +kernel
      exact bottom other knownToo
  · rename_i missing
    rw [List.mem_singleton.mp member]
    refine isLowered_of_not_covered fun run known => ?_
    simp only [changedRuns, List.mem_cons] at known
    rcases known with rfl | rfl | listed
    · simp only [CaseRun.covers, Bool.and_eq_false_iff, decide_eq_false_iff_not]
      omega
    · simp only [beq_iff_eq] at notDotted
      simp only [CaseRun.covers, Bool.and_eq_false_iff, decide_eq_false_iff_not]
      omega
    · simpa using List.find?_eq_none.mp missing run listed

theorem isLowered_of_mem_lowercaseChars {before cs : List Char} {d : Char}
    (member : d ∈ lowercaseChars before cs) : isLowered d := by
  induction cs generalizing before with
  | nil => simp [lowercaseChars] at member
  | cons c after ih =>
    rcases List.mem_append.mp member with here | later
    · split at here
      · rw [List.mem_singleton.mp here]
        split <;> decide +kernel
      · exact isLowered_of_mem_lowercaseChar here
    · exact ih later

theorem isLowered_of_mem_lowercase {s : String} {d : Char} (member : d ∈ (lowercase s).toList) :
    isLowered d :=
  isLowered_of_mem_lowercaseChars (by simpa [lowercase] using member)

theorem lowercaseChars_eq_self {before cs : List Char} (lowered : ∀ c ∈ cs, isLowered c) :
    lowercaseChars before cs = cs := by
  induction cs generalizing before with
  | nil => rfl
  | cons c after ih =>
    obtain ⟨notSigma, fixed⟩ := isLowered_iff.mp (lowered c List.mem_cons_self)
    rw [lowercaseChars, if_neg (by simpa using notSigma), fixed,
      ih fun d member => lowered d (List.mem_cons_of_mem c member)]
    rfl

theorem lowercase_eq_self {s : String} (lowered : ∀ c ∈ s.toList, isLowered c) : lowercase s = s := by
  rw [lowercase, lowercaseChars_eq_self lowered, String.ofList_toList]

end SiteRouting.Text
