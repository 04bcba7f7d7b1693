import SiteRouting.Text.Digit

namespace SiteRouting.Text

def digitsValue? (digits : List Char) : Option Nat :=
  if digits.isEmpty || !digits.all isDigit then none else some (valueOfDigits 10 digits)

/-- The value of a decimal numeral, as ports and address segments are
written, when it does not exceed the bound: ASCII digits, an optional plus
sign in front, any number of leading zeros, and no other sign or blank. -/
def numeral? (bound : Nat) (s : String) : Option Nat := do
  let digits := match s.toList with
    | '+' :: rest => rest
    | cs => cs
  let value ← digitsValue? digits
  if value ≤ bound then some value else none

theorem numeral?_toString {bound n : Nat} (fits : n ≤ bound) : numeral? bound (toString n) = some n := by
  have digits : ∀ c ∈ Nat.toDigits 10 n, c.isDigit = true :=
    fun c hc => Nat.isDigit_of_mem_toDigits (by decide) (by decide) hc
  have unsigned : ∀ rest, Nat.toDigits 10 n ≠ '+' :: rest := by
    intro rest h
    have plus := digits '+' (by simp [h])
    exact absurd plus (by decide)
  have text : (toString n).toList = Nat.toDigits 10 n := by
    rw [Nat.toString_eq_repr, Nat.toList_repr]
  have value : digitsValue? (Nat.toDigits 10 n) = some n := by
    have isDigits : (Nat.toDigits 10 n).all isDigit = true := by
      simpa [isDigit_eq] using digits
    rw [digitsValue?, isDigits, valueOfDigits_eq digits, Nat.ofDigitChars_ten_toDigits]
    simp [Nat.toDigits_ne_nil]
  simp only [numeral?, text]
  simp [value, fits]

theorem numeral?_le {bound n : Nat} {s : String} (read : numeral? bound s = some n) : n ≤ bound := by
  simp only [numeral?, Option.bind_eq_bind, Option.bind_eq_some_iff, Option.ite_none_right_eq_some] at read
  obtain ⟨value, _, fits, same⟩ := read
  exact Option.some.inj same ▸ fits

end SiteRouting.Text
