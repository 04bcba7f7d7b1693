namespace SiteRouting.Text

def isDigit (c : Char) : Bool :=
  '0' ≤ c && c ≤ '9'

def hexDigit? (c : Char) : Option Nat :=
  if isDigit c then some (c.toNat - '0'.toNat)
  else if 'a' ≤ c && c ≤ 'f' then some (c.toNat - 'a'.toNat + 10)
  else if 'A' ≤ c && c ≤ 'F' then some (c.toNat - 'A'.toNat + 10)
  else none

def isDigitOf (base : Nat) (c : Char) : Bool :=
  (hexDigit? c).any (· < base)

/-- The number that some ASCII digits write in a base up to sixteen. -/
def valueOfDigits (base : Nat) (digits : List Char) : Nat :=
  digits.foldl (fun value digit => base * value + (hexDigit? digit).getD 0) 0

theorem isDigit_eq (c : Char) : isDigit c = c.isDigit := by
  simp only [isDigit, Char.isDigit, Char.le_def]

theorem valueOfDigits_eq {digits : List Char} (all : ∀ c ∈ digits, c.isDigit = true) :
    valueOfDigits 10 digits = Nat.ofDigitChars 10 digits 0 := by
  suffices ∀ start, digits.foldl (fun value digit => 10 * value + (hexDigit? digit).getD 0) start =
      Nat.ofDigitChars 10 digits start from this 0
  induction digits with
  | nil => simp
  | cons c rest ih =>
    intro start
    have digit : hexDigit? c = some (c.toNat - '0'.toNat) := by simp [hexDigit?, isDigit_eq, all c]
    simp [digit, ih fun d hd => all d (List.mem_cons_of_mem _ hd), Nat.ofDigitChars_cons]

end SiteRouting.Text
