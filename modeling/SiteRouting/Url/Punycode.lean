namespace SiteRouting.Url

def punycodeDigit? (c : Char) : Option Nat :=
  if 'a' ≤ c && c ≤ 'z' then some (c.toNat - 'a'.toNat)
  else if 'A' ≤ c && c ≤ 'Z' then some (c.toNat - 'A'.toNat)
  else if '0' ≤ c && c ≤ '9' then some (c.toNat - '0'.toNat + 26)
  else none

/-- The least digit that continues a number instead of ending it, at a
position of the number. -/
def punycodeThreshold (position bias : Nat) : Nat :=
  if position ≤ bias then 1 else if bias + 26 ≤ position then 26 else position - bias

/-- Divides by 35 until the value is small enough, and counts 36 for each time. -/
def scaleDown (delta : Nat) : Nat × Nat :=
  if 455 < delta then
    let (small, scaled) := scaleDown (delta / 35)
    (small, scaled + 36)
  else (delta, 0)
termination_by delta
decreasing_by exact Nat.div_lt_self (by omega) (by omega)

/-- The bias for the number after one of size `delta`, when the text
then has `count` characters. -/
def nextBias (delta count : Nat) (isFirst : Bool) : Nat :=
  let start := if isFirst then delta / 700 else delta / 2
  let (small, scaled) := scaleDown (start + start / count)
  scaled + 36 * small / (small + 38)

/-- The state between two numbers: the text so far, the last character
inserted, the place after it, and the bias. -/
structure PunycodeState where
  text : List Char
  last : Nat := 0x80
  place : Nat := 0
  bias : Nat := 72

/-- Inserts a character at the distance `delta` from the one before. Places
are counted round the text, and each round goes on to the next code point. -/
def PunycodeState.insert? (s : PunycodeState) (delta : Nat) : Option PunycodeState :=
  let count := s.text.length + 1
  let position := s.place + delta
  let code := s.last + position / count
  let place := position % count
  if h : code.isValidChar then
    some ⟨s.text.insertIdx place (Char.ofNatAux code h), code, place + 1,
      nextBias delta count (s.text.all (·.toNat < 0x80))⟩
  else none

/-- Reads numbers up to the end of the input, which must not break one off.
`delta` and `weight` are the value so far and the weight of the next digit,
`position` is 36 at a number's first digit. -/
def readInsertions (s : PunycodeState) (position weight delta : Nat) :
    List Char → Option PunycodeState
  | [] => if position == 36 then some s else none
  | c :: rest =>
    match punycodeDigit? c with
    | none => none
    | some digit =>
      let threshold := punycodeThreshold position s.bias
      let delta := delta + digit * weight
      if digit < threshold then
        match s.insert? delta with
        | none => none
        | some s => readInsertions s 36 1 0 rest
      else readInsertions s (position + 36) (weight * (36 - threshold)) delta rest

/-- The text that a label's Punycode stands for. The ASCII characters stand
in front of the last hyphen; behind it, numbers in base 36 tell one after
another which character to insert and where. A hyphen with nothing in front
of it separates nothing, and is no digit either. -/
def ofPunycode? (cs : List Char) : Option (List Char) :=
  let insertions := (cs.reverse.takeWhile (· != '-')).reverse
  let ascii := cs.take (cs.length - insertions.length - 1)
  if ascii.isEmpty && insertions.length < cs.length then none
  else (readInsertions { text := ascii } 36 1 0 insertions).map (·.text)

end SiteRouting.Url
