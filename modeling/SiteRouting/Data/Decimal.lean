import SiteRouting.Text.Digit

namespace SiteRouting.Data

/-- Whether digits times a power of ten round to infinity in double
precision: they reach the middle between the largest finite number and
the next power of two. -/
def overflows (digits : List Char) (power : Int) : Bool :=
  let value := Text.valueOfDigits 10 digits
  let magnitude := (Nat.toDigits 10 value).length + power
  let middle := (Nat.pow 2 54 - 1) * Nat.pow 2 970
  if value == 0 || magnitude < 0 then false
  else if 400 < magnitude then true
  else if 0 ≤ power then middle ≤ value * Nat.pow 10 power.toNat
  else middle * Nat.pow 10 (-power).toNat ≤ value

end SiteRouting.Data
