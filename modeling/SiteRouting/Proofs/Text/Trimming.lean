import Mathlib
import SiteRouting.Text.Blank

namespace SiteRouting.Text

variable {p : Char → Bool}

theorem dropWhile_eq_self_of_head? {cs : List Char} (kept : ∀ c, cs.head? = some c → p c = false) :
    cs.dropWhile p = cs := by
  cases cs with
  | nil => rfl
  | cons c rest => rw [List.dropWhile_cons_of_neg (by simp [kept c rfl])]

/-- Characters in front of the first kept one have no part in what is left. -/
theorem stripChars_dropWhile (cs : List Char) : stripChars p (cs.dropWhile p) = stripChars p cs := by
  rw [stripChars, List.dropWhile_idempotent, ← stripChars]

theorem stripChars_stripChars (cs : List Char) : stripChars p (stripChars p cs) = stripChars p cs := by
  have front : (stripChars p cs).dropWhile p = stripChars p cs := by
    refine dropWhile_eq_self_of_head? fun c first => ?_
    -- What is left is an initial part of the text behind its first kept character.
    have initial : stripChars p cs <+: cs.dropWhile p := by
      rw [← List.reverse_suffix, stripChars, List.reverse_reverse]
      exact List.dropWhile_suffix p
    obtain ⟨rest, whole⟩ := initial
    have head : (cs.dropWhile p).head? = some c := by
      rw [← whole, List.head?_append, first]
      rfl
    have found := List.head?_dropWhile_not p cs
    rw [head] at found
    simpa using found
  have back : (stripChars p cs).reverse.dropWhile p = (stripChars p cs).reverse := by
    rw [stripChars, List.reverse_reverse, List.dropWhile_idempotent]
  rw [stripChars, front, back, List.reverse_reverse]

theorem mem_of_mem_stripChars {cs : List Char} {c : Char} (member : c ∈ stripChars p cs) : c ∈ cs := by
  rw [stripChars, List.mem_reverse] at member
  have inside := List.mem_reverse.mp ((List.dropWhile_sublist p).mem member)
  exact (List.dropWhile_sublist p).mem inside

/-- Behind a character that is kept, a text of kept characters is left whole. -/
theorem stripChars_append_cons (cs : List Char) {c : Char} {tail : List Char} (stop : p c = false)
    (kept : ∀ d ∈ tail, p d = false) :
    stripChars p (cs ++ c :: tail) = cs.dropWhile p ++ c :: tail := by
  have front : (cs ++ c :: tail).dropWhile p = cs.dropWhile p ++ c :: tail := by
    rw [List.dropWhile_append, List.dropWhile_cons_of_neg (by simp [stop])]
    split
    · rename_i blank
      rw [List.isEmpty_iff.mp blank, List.nil_append]
    · rfl
  have back : (cs.dropWhile p ++ c :: tail).reverse.dropWhile p = (cs.dropWhile p ++ c :: tail).reverse := by
    refine dropWhile_eq_self_of_head? fun last atEnd => ?_
    rw [List.reverse_append, List.reverse_cons, List.append_assoc, List.head?_append] at atEnd
    cases behind : tail.reverse with
    | nil =>
      rw [behind] at atEnd
      cases atEnd
      exact stop
    | cons d rest =>
      rw [behind] at atEnd
      cases atEnd
      exact kept last (by rw [← List.mem_reverse, behind]; exact List.mem_cons_self)
  rw [stripChars, front, back, List.reverse_reverse]

theorem trim_trim (s : String) : trim (trim s) = trim s := by
  rw [trim, toList_trim, stripChars_stripChars, ← trim]

/-- A text with no blank at either end, which trimming leaves alone. -/
structure IsTrimmed (s : String) : Prop where
  front : ∀ c, s.toList.head? = some c → isBlank c = false
  back : ∀ c, s.toList.getLast? = some c → isBlank c = false

theorem eq_of_dropWhile_eq_self {cs : List Char} (whole : cs.dropWhile p = cs) {c : Char}
    (first : cs.head? = some c) : p c = false := by
  have found := List.head?_dropWhile_not p cs
  rw [whole, first] at found
  simpa using found

theorem stripChars_eq_self_iff {cs : List Char} :
    stripChars p cs = cs ↔
      (∀ c, cs.head? = some c → p c = false) ∧ ∀ c, cs.getLast? = some c → p c = false := by
  constructor
  · intro whole
    have front : cs.dropWhile p = cs := by
      refine (List.dropWhile_suffix p).eq_of_length_le ?_
      have isPart : (cs.dropWhile p).reverse.dropWhile p <:+ (cs.dropWhile p).reverse :=
        List.dropWhile_suffix p
      calc cs.length = (stripChars p cs).length := by rw [whole]
        _ ≤ (cs.dropWhile p).length := by simpa [stripChars] using isPart.length_le
    rw [stripChars, front, List.reverse_eq_iff] at whole
    exact ⟨fun c => eq_of_dropWhile_eq_self front, fun c last =>
      eq_of_dropWhile_eq_self whole (by rw [List.head?_reverse, last])⟩
  · rintro ⟨front, back⟩
    rw [stripChars, dropWhile_eq_self_of_head? front, dropWhile_eq_self_of_head?, List.reverse_reverse]
    intro c last
    exact back c (by rwa [List.head?_reverse] at last)

theorem trim_eq_self_iff {s : String} : trim s = s ↔ IsTrimmed s := by
  rw [← String.toList_inj, toList_trim, stripChars_eq_self_iff]
  exact ⟨fun ⟨front, back⟩ => ⟨front, back⟩, fun trimmed => ⟨trimmed.front, trimmed.back⟩⟩

theorem isTrimmed_trim (s : String) : IsTrimmed (trim s) :=
  trim_eq_self_iff.mp (trim_trim s)

end SiteRouting.Text
