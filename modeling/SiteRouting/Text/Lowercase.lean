import SiteRouting.Text.CaseTable

namespace SiteRouting.Text

def inRanges (ranges : List (Nat × Nat)) (code : Nat) : Bool :=
  ranges.any fun r => r.1 ≤ code && code ≤ r.2

/-- The lowercase form of one character that does not depend on its neighbours. -/
def lowercaseChar (c : Char) : List Char :=
  if c.toNat < 0x80 then [c.toLower]
  else if c.toNat == 0x130 then ['i', Char.ofNat 0x307]
  else match lowercaseRuns.find? (·.covers c.toNat) with
    | some run => [Char.ofNat ((c.toNat : Int) + run.offset).toNat]
    | none => [c]

/-- Whether the first character that is not case-ignorable is a letter
with case. -/
def startsWithLetter (cs : List Char) : Bool :=
  match cs.dropWhile (inRanges caseIgnorableRanges ·.toNat) with
  | [] => false
  | c :: _ => inRanges casedRanges c.toNat

/-- A sigma ends a word when a letter precedes it and none follows. -/
def isFinalSigma (before after : List Char) : Bool :=
  startsWithLetter before && !startsWithLetter after

/-- Lowercases a list of characters; `before` holds those already
read, the nearest one first. -/
def lowercaseChars (before : List Char) : List Char → List Char
  | [] => []
  | c :: after =>
    (if c == 'Σ' then [if isFinalSigma before after then 'ς' else 'σ'] else lowercaseChar c) ++
      lowercaseChars (c :: before) after

/-- Full Unicode lowercasing of a text. Two characters are special:
capital sigma has a form of its own at the end of a word, and capital I
with a dot becomes two characters. -/
def lowercase (s : String) : String :=
  String.ofList (lowercaseChars [] s.toList)

end SiteRouting.Text
