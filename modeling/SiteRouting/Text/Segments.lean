namespace SiteRouting.Text

/-- The segments of a list between the occurrences of a separator; there is
always at least one. Joining them again with the separator gives the list
back, and cutting what was joined gives the segments back. -/
def segments (sep : Char) : List Char → List (List Char)
  | [] => [[]]
  | c :: rest =>
    if c == sep then [] :: segments sep rest
    else match segments sep rest with
      | [] => [[c]]
      | first :: others => (c :: first) :: others

def joinSegments (sep : Char) : List (List Char) → List Char
  | [] => []
  | [last] => last
  | first :: second :: others => first ++ sep :: joinSegments sep (second :: others)

def cutFirst? (sep : Char) : List Char → Option (List Char × List Char)
  | [] => none
  | c :: rest =>
    if c == sep then some ([], rest)
    else (cutFirst? sep rest).map fun (head, tail) => (c :: head, tail)

def splitAt (sep : Char) (s : String) : List String :=
  (segments sep s.toList).map String.ofList

def splitFirst? (sep : Char) (s : String) : Option (String × String) :=
  (cutFirst? sep s.toList).map fun (head, tail) => (String.ofList head, String.ofList tail)

def hasChar (c : Char) (s : String) : Bool :=
  s.toList.contains c

def dropInitial? (initial s : String) : Option String :=
  if initial.toList.isPrefixOf s.toList then some (String.ofList (s.toList.drop initial.toList.length))
  else none

def startsWith (s initial : String) : Bool :=
  initial.toList.isPrefixOf s.toList

def endsWith (s final : String) : Bool :=
  final.toList.isSuffixOf s.toList

theorem startsWith_iff {s initial : String} : startsWith s initial = true ↔ ∃ rest, s = initial ++ rest := by
  rw [startsWith, List.isPrefixOf_iff_prefix]
  constructor
  · rintro ⟨rest, whole⟩
    exact ⟨String.ofList rest, by simp [← String.toList_inj, ← whole]⟩
  · rintro ⟨rest, rfl⟩
    exact ⟨rest.toList, String.toList_append.symm⟩

theorem segments_ne_nil (sep : Char) (cs : List Char) : segments sep cs ≠ [] := by
  induction cs with
  | nil => simp [segments]
  | cons c rest ih =>
    unfold segments
    split
    · simp
    · split <;> simp

theorem joinSegments_segments (sep : Char) (cs : List Char) :
    joinSegments sep (segments sep cs) = cs := by
  induction cs with
  | nil => rfl
  | cons c rest ih =>
    unfold segments
    by_cases h : c = sep
    · subst h
      have nonempty := segments_ne_nil c rest
      cases hs : segments c rest with
      | nil => exact absurd hs nonempty
      | cons first others =>
        rw [hs] at ih
        simp [joinSegments, ih]
    · cases hs : segments sep rest with
      | nil => exact absurd hs (segments_ne_nil sep rest)
      | cons first others =>
        rw [hs] at ih
        cases others <;> simp_all [joinSegments]

theorem segments_of_not_mem {sep : Char} {cs : List Char} (free : sep ∉ cs) : segments sep cs = [cs] := by
  induction cs with
  | nil => rfl
  | cons c rest ih =>
    simp only [List.mem_cons, not_or] at free
    simp [segments, Ne.symm free.1, ih free.2]

theorem segments_append {sep : Char} {head : List Char} (tail : List Char) (free : sep ∉ head) :
    segments sep (head ++ sep :: tail) = head :: segments sep tail := by
  induction head with
  | nil => simp [segments]
  | cons c rest ih =>
    simp only [List.mem_cons, not_or] at free
    simp [segments, Ne.symm free.1, ih free.2]

theorem segments_joinSegments {sep : Char} {parts : List (List Char)} (some_part : parts ≠ [])
    (free : ∀ part ∈ parts, sep ∉ part) : segments sep (joinSegments sep parts) = parts := by
  fun_induction joinSegments sep parts with
  | case1 => exact absurd rfl some_part
  | case2 last => exact segments_of_not_mem (free last (List.mem_singleton_self last))
  | case3 first second others ih =>
    rw [segments_append _ (free first List.mem_cons_self)]
    rw [ih (List.cons_ne_nil _ _) fun part member => free part (List.mem_cons_of_mem _ member)]

theorem cutFirst?_eq_none_iff {sep : Char} {cs : List Char} :
    cutFirst? sep cs = none ↔ sep ∉ cs := by
  induction cs with
  | nil => simp [cutFirst?]
  | cons c rest ih =>
    by_cases h : c = sep
    · simp [cutFirst?, h]
    · simp [cutFirst?, h, ih, Ne.symm h]

theorem cutFirst?_append {sep : Char} {head : List Char} (tail : List Char) (free : sep ∉ head) :
    cutFirst? sep (head ++ sep :: tail) = some (head, tail) := by
  induction head with
  | nil => simp [cutFirst?]
  | cons c rest ih =>
    simp only [List.mem_cons, not_or] at free
    simp [cutFirst?, Ne.symm free.1, ih free.2]

theorem cutFirst?_eq_some_iff {sep : Char} {cs head tail : List Char} :
    cutFirst? sep cs = some (head, tail) ↔ cs = head ++ sep :: tail ∧ sep ∉ head := by
  constructor
  · intro cut
    induction cs generalizing head with
    | nil => cases cut
    | cons c rest ih =>
      unfold cutFirst? at cut
      split at cut
      · rename_i same
        cases cut
        exact ⟨by rw [List.nil_append, beq_iff_eq.mp same], List.not_mem_nil⟩
      · rename_i other
        obtain ⟨⟨inner, behind⟩, later, same⟩ := Option.map_eq_some_iff.mp cut
        obtain ⟨rfl, rfl⟩ := Prod.mk.inj same
        obtain ⟨whole, free⟩ := ih later
        have differs : sep ≠ c := fun same => other (beq_iff_eq.mpr same.symm)
        exact ⟨by rw [whole, List.cons_append], List.not_mem_cons_of_ne_of_not_mem differs free⟩
  · rintro ⟨rfl, free⟩
    exact cutFirst?_append tail free

end SiteRouting.Text
