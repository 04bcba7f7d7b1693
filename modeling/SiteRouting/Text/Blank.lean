namespace SiteRouting.Text

/-- Membership in the Unicode class White_Space. The zero-width spaces and
the ASCII information separators do not belong to it. -/
def isBlank (c : Char) : Bool :=
  let code := c.toNat
  (0x09 ≤ code && code ≤ 0x0D) || code == 0x20 || code == 0x85 || code == 0xA0 || code == 0x1680 ||
  (0x2000 ≤ code && code ≤ 0x200A) || code == 0x2028 || code == 0x2029 || code == 0x202F ||
  code == 0x205F || code == 0x3000

/-- The characters between the first and the last one that fail `p`. -/
def stripChars (p : Char → Bool) (cs : List Char) : List Char :=
  ((cs.dropWhile p).reverse.dropWhile p).reverse

def trim (s : String) : String :=
  String.ofList (stripChars isBlank s.toList)

def isBlankText (s : String) : Bool :=
  s.toList.all isBlank

@[simp]
theorem stripChars_nil (p : Char → Bool) : stripChars p [] = [] := rfl

theorem stripChars_eq_self {p : Char → Bool} {cs : List Char} (kept : ∀ c ∈ cs, p c = false) :
    stripChars p cs = cs := by
  have front (ds : List Char) (h : ∀ d ∈ ds, p d = false) : ds.dropWhile p = ds := by
    cases ds with
    | nil => rfl
    | cons d rest => simp [h d (by simp)]
  have back : cs.reverse.dropWhile p = cs.reverse := front _ fun d hd => kept d (by simpa using hd)
  simp only [stripChars, front cs kept, back, List.reverse_reverse]

@[simp]
theorem toList_trim (s : String) : (trim s).toList = stripChars isBlank s.toList := by
  simp [trim]

end SiteRouting.Text
