import Mathlib
import SiteRouting.Proofs.Text.Trimming
import SiteRouting.Tree.Walk

namespace SiteRouting

def pathText (segments : List String) : String :=
  String.ofList (segments.flatMap fun segment => '/' :: segment.toList)

def slashes (count : Nat) : String :=
  String.ofList (List.replicate count '/')

/-- A segment that stays whole between slashes: it is not empty and has no
slash. Slashes at the ends of a path are nothing to it. -/
def IsPlainSegment (segment : String) : Prop :=
  segment ≠ "" ∧ '/' ∉ segment.toList

@[simp]
theorem toList_pathText (segments : List String) :
    (pathText segments).toList = segments.flatMap fun segment => '/' :: segment.toList :=
  String.toList_ofList

@[simp]
theorem toList_slashes (count : Nat) : (slashes count).toList = List.replicate count '/' :=
  String.toList_ofList

theorem pathText_append (segments more : List String) :
    pathText (segments ++ more) = pathText segments ++ pathText more := by
  rw [← String.toList_inj, String.toList_append]
  simp only [toList_pathText, List.flatMap_append]

theorem pathText_begins (segments : List String) :
    (pathText segments).toList = [] ∨ ∃ rest, (pathText segments).toList = '/' :: rest := by
  rw [toList_pathText]
  cases segments with
  | nil => exact Or.inl rfl
  | cons first others => exact Or.inr ⟨_, rfl⟩

theorem slashes_begins (count : Nat) :
    (slashes count).toList = [] ∨ ∃ rest, (slashes count).toList = '/' :: rest := by
  rw [toList_slashes]
  cases count with
  | zero => exact Or.inl rfl
  | succ count => exact Or.inr ⟨_, rfl⟩

namespace Text

variable {p : Char → Bool} {sep : Char}

/-- Between characters that are stripped, a text with kept characters at both
ends is left whole; behind it only what stands at the very end is lost. -/
theorem stripChars_append {lead body tail : List Char} (dropped : ∀ c ∈ lead, p c = true)
    (some_char : body ≠ []) (first : ∀ c, body.head? = some c → p c = false)
    (last : ∀ c, body.getLast? = some c → p c = false) :
    stripChars p (lead ++ (body ++ tail)) = body ++ (tail.reverse.dropWhile p).reverse := by
  have front : (lead ++ (body ++ tail)).dropWhile p = body ++ tail := by
    rw [List.dropWhile_append_of_pos dropped]
    refine dropWhile_eq_self_of_head? fun c atFront => first c ?_
    rwa [List.head?_append_of_ne_nil body some_char] at atFront
  have back : body.reverse.dropWhile p = body.reverse :=
    dropWhile_eq_self_of_head? fun c atEnd => last c (by rwa [List.head?_reverse] at atEnd)
  rw [stripChars, front, List.reverse_append, List.dropWhile_append]
  split
  · rename_i nothing
    rw [back, List.reverse_reverse, List.isEmpty_iff.mp nothing, List.reverse_nil, List.append_nil]
  · rw [List.reverse_append, List.reverse_reverse]

theorem stripChars_of_all {cs : List Char} (dropped : ∀ c ∈ cs, p c = true) : stripChars p cs = [] := by
  rw [stripChars, List.dropWhile_eq_nil_iff.mpr dropped]
  rfl

/-- Segments without a separator are read back when the text behind them is
empty or begins with one. -/
theorem segments_flatMap {first tail : List Char} {others : List (List Char)} (free : sep ∉ first)
    (frees : ∀ other ∈ others, sep ∉ other) (begins : tail = [] ∨ ∃ rest, tail = sep :: rest) :
    ∃ more, segments sep (first ++ (others.flatMap (sep :: ·) ++ tail)) = first :: (others ++ more) ∧
      (tail = [] → more = []) := by
  induction others generalizing first with
  | nil =>
    rcases begins with rfl | ⟨rest, rfl⟩
    · refine ⟨[], ?_, fun _ => rfl⟩
      simpa using segments_of_not_mem free
    · exact ⟨segments sep rest, segments_append rest free, nofun⟩
  | cons second others ih =>
    obtain ⟨more, whole, ends⟩ :=
      ih (frees second List.mem_cons_self) fun other later => frees other (List.mem_cons_of_mem _ later)
    refine ⟨more, ?_, ends⟩
    rw [List.flatMap_cons, List.cons_append, List.cons_append, List.append_assoc, segments_append _ free, whole,
      List.cons_append]

end Text

theorem getLast?_pathText_ne {segments : List String} (plain : ∀ segment ∈ segments, IsPlainSegment segment)
    {c : Char} (last : (pathText segments).toList.getLast? = some c) : c ≠ '/' := by
  rw [toList_pathText] at last
  obtain rfl | ⟨before, segment, rfl⟩ := List.eq_nil_or_concat segments
  · cases last
  obtain ⟨some_char, unslashed⟩ := plain segment (by simp)
  obtain none | ⟨chars, d, ends⟩ := List.eq_nil_or_concat segment.toList
  · exact absurd (String.toList_inj.mp none) some_char
  rw [List.concat_eq_append] at last ends
  have whole : (before ++ [segment]).flatMap (fun segment => '/' :: segment.toList) =
      (before.flatMap (fun segment => '/' :: segment.toList) ++ '/' :: chars) ++ [d] := by
    simp [ends]
  rw [whole, List.getLast?_concat, Option.some.injEq] at last
  rintro rfl
  exact unslashed (by simp [ends, last])

/-- Stripping a path takes the slashes in front of its first segment, and
what it has of them at its end. -/
theorem stripChars_path {first : String} {others : List String}
    (plain : ∀ segment ∈ first :: others, IsPlainSegment segment) (leading : Nat) (tail : String) :
    Text.stripChars (· == '/') (slashes leading ++ pathText (first :: others) ++ tail).toList =
      first.toList ++ ((others.map String.toList).flatMap ('/' :: ·) ++
        (tail.toList.reverse.dropWhile (· == '/')).reverse) := by
  obtain ⟨some_char, unslashed⟩ := plain first List.mem_cons_self
  obtain ⟨c, chars, begin⟩ := List.exists_cons_of_ne_nil
    (fun none => some_char (String.toList_inj.mp none) : first.toList ≠ [])
  let body := first.toList ++ (others.map String.toList).flatMap ('/' :: ·)
  have split : (pathText (first :: others)).toList = '/' :: body := by simp [body, List.flatMap_map]
  have head : ∀ d, body.head? = some d → (d == '/') = false := by
    intro d atFront
    simp only [body, begin, List.cons_append, List.head?_cons, Option.some.injEq] at atFront
    rw [beq_eq_false_iff_ne, ← atFront]
    rintro rfl
    exact unslashed (begin ▸ List.mem_cons_self)
  have last : ∀ d, body.getLast? = some d → (d == '/') = false := by
    intro d atEnd
    refine beq_eq_false_iff_ne.mpr (getLast?_pathText_ne plain ?_)
    rw [split, List.getLast?_cons, atEnd, Option.getD_some]
  have lead : ∀ d ∈ List.replicate (leading + 1) '/', (d == '/') = true := by simp
  have whole : (slashes leading ++ pathText (first :: others) ++ tail).toList =
      List.replicate (leading + 1) '/' ++ (body ++ tail.toList) := by
    rw [String.toList_append, String.toList_append, split, toList_slashes]
    simp [List.replicate_succ']
  rw [whole, Text.stripChars_append lead (by simp [body, begin]) head last]
  exact List.append_assoc _ _ _

/-- Without the slashes at its end a text still begins with a slash or
is empty. -/
theorem dropSlashes_begins {tail : List Char} (begins : tail = [] ∨ ∃ rest, tail = '/' :: rest) :
    (tail.reverse.dropWhile (· == '/')).reverse = [] ∨
      ∃ rest, (tail.reverse.dropWhile (· == '/')).reverse = '/' :: rest := by
  have initial : (tail.reverse.dropWhile (· == '/')).reverse <+: tail := by
    rw [← List.reverse_suffix, List.reverse_reverse]
    exact List.dropWhile_suffix _
  rcases begins with rfl | ⟨rest, rfl⟩
  · exact Or.inl (List.prefix_nil.mp initial)
  · exact (List.prefix_cons_iff.mp initial).imp_right fun ⟨behind, same, _⟩ => ⟨behind, same⟩

/-- Plain segments at the front of a path are read back, behind any number of
slashes. A text behind them that is empty or begins with a slash adds further
segments, and none if it is nothing but slashes. -/
theorem pathSegments_front {front : List String} (plain : ∀ segment ∈ front, IsPlainSegment segment)
    (leading : Nat) {tail : String} (begins : tail.toList = [] ∨ ∃ rest, tail.toList = '/' :: rest) :
    ∃ more, pathSegments (slashes leading ++ pathText front ++ tail) = front ++ more ∧
      ((∀ c ∈ tail.toList, c = '/') → more = []) := by
  cases front with
  | nil =>
    refine ⟨_, (List.nil_append _).symm, fun slash => ?_⟩
    have nothing : Text.stripChars (· == '/') (slashes leading ++ pathText [] ++ tail).toList = [] := by
      refine Text.stripChars_of_all fun c member => beq_iff_eq.mpr ?_
      simp only [String.toList_append, toList_slashes, toList_pathText, List.flatMap_nil, List.append_nil,
        List.mem_append] at member
      exact member.elim (fun inLead => List.eq_of_mem_replicate inLead) (slash c)
    rw [pathSegments, nothing]
  | cons first others =>
    have free : ∀ other ∈ others.map String.toList, '/' ∉ other := by
      intro chars member
      obtain ⟨other, later, rfl⟩ := List.mem_map.mp member
      exact (plain other (List.mem_cons_of_mem first later)).2
    obtain ⟨more, cut, ends⟩ := Text.segments_flatMap (plain first List.mem_cons_self).2 free
      (dropSlashes_begins begins)
    refine ⟨more.map String.ofList, ?_, fun slash => ?_⟩
    · have some_char : first.toList ≠ [] := fun none =>
        (plain first List.mem_cons_self).1 (String.toList_inj.mp none)
      rw [pathSegments, stripChars_path plain]
      split
      · rename_i nothing
        exact absurd (List.append_eq_nil_iff.mp nothing).1 some_char
      · have readBack : String.ofList ∘ String.toList = id := funext fun _ => String.ofList_toList
        rw [cut, List.map_cons, List.map_append, List.map_map, readBack, List.map_id, String.ofList_toList]
        rfl
    · have nothing : tail.toList.reverse.dropWhile (· == '/') = [] :=
        List.dropWhile_eq_nil_iff.mpr fun c member => beq_iff_eq.mpr (slash c (List.mem_reverse.mp member))
      rw [ends (by rw [nothing, List.reverse_nil]), List.map_nil]

end SiteRouting
