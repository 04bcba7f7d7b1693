import SiteRouting.Data.Decimal
import SiteRouting.Data.Toml.QuotedText
import SiteRouting.Data.Value

namespace SiteRouting.Data.Toml

open Text

/-- Digits without the underscores between them; an underscore has a
digit on both sides. -/
def ungrouped? (isDigit : Char → Bool) : List Char → Option (List Char)
  | [] => none
  | [c] => if isDigit c then some [c] else none
  | c :: '_' :: rest => if isDigit c then (ungrouped? isDigit rest).map (c :: ·) else none
  | c :: rest => if isDigit c then (ungrouped? isDigit rest).map (c :: ·) else none

def unsigned : List Char → Bool × List Char
  | '-' :: rest => (true, rest)
  | '+' :: rest => (false, rest)
  | digits => (false, digits)

def decimalDigits? (cs : List Char) : Option (List Char) :=
  match cs with
  | '0' :: _ :: _ => none
  | _ => ungrouped? isDigit cs

def maxInteger : Nat := 0x7FFFFFFFFFFFFFFF

def basedInteger? (base : Nat) (digits : List Char) : Option Int := do
  let digits ← ungrouped? (isDigitOf base) digits
  let value := valueOfDigits base digits
  if value ≤ maxInteger then some value else none

def integer? : List Char → Option Int
  | '0' :: 'x' :: digits => basedInteger? 16 digits
  | '0' :: 'o' :: digits => basedInteger? 8 digits
  | '0' :: 'b' :: digits => basedInteger? 2 digits
  | token => do
    let (negative, digits) := unsigned token
    let value := valueOfDigits 10 (← decimalDigits? digits)
    if negative then (if value ≤ maxInteger + 1 then some (-value) else none)
    else (if value ≤ maxInteger then some value else none)

/-- The parts of a number with a fraction or an exponent: digits, digits
behind the point, exponent. -/
def decimalParts? (unsignedToken : List Char) : Option (List Char × List Char × Int) := do
  let isMark (c : Char) : Bool := c == 'e' || c == 'E'
  let mantissa := unsignedToken.takeWhile (!isMark ·)
  let whole := mantissa.takeWhile (· != '.')
  let integral ← decimalDigits? whole
  let fraction ← match mantissa.drop whole.length with
    | [] => some []
    | _ :: digits => ungrouped? isDigit digits
  let exponent ← match unsignedToken.drop mantissa.length with
    | [] => if mantissa.length == whole.length then none else some 0
    | _ :: written => do
      let (negative, digits) := unsigned written
      let value := valueOfDigits 10 (← ungrouped? isDigit digits)
      some (if negative then -(value : Int) else value)
  return (integral, fraction, exponent)

/-- Whether a text is a number with a fraction or an exponent, or a special
number. Positive numbers beyond double precision are refused. -/
def isDecimal (token : List Char) : Bool :=
  let (negative, digits) := unsigned token
  if digits == ['i', 'n', 'f'] || digits == ['n', 'a', 'n'] then true
  else match decimalParts? digits with
    | none => false
    | some (integral, fraction, exponent) =>
      negative || !overflows (integral ++ fraction) (exponent - fraction.length)

def fixedDigits? (count low high : Nat) (input : List Char) : Option (Nat × List Char) :=
  let digits := input.take count
  let value := valueOfDigits 10 digits
  if digits.length == count && digits.all isDigit && low ≤ value && value ≤ high then
    some (value, input.drop count)
  else none

def daysOfMonth (year month : Nat) : Nat :=
  let isLeap := year % 4 == 0 && (year % 100 != 0 || year % 400 == 0)
  if month == 2 then (if isLeap then 29 else 28)
  else if month == 4 || month == 6 || month == 9 || month == 11 then 30 else 31

def date? (input : List Char) : Option (List Char × List Char) := do
  let (year, rest) ← fixedDigits? 4 0 9999 input
  let '-' :: rest := rest | none
  let (month, rest) ← fixedDigits? 2 1 12 rest
  let '-' :: rest := rest | none
  let (_, rest) ← fixedDigits? 2 1 (daysOfMonth year month) rest
  return (input.take 10, rest)

/-- The digits of a fraction of a second up to the last one that counts. -/
def secondsFraction (digits : List Char) : List Char :=
  match ((digits.take 9).reverse.dropWhile (· == '0')).reverse with
  | [] => []
  | counted => '.' :: counted

def time? (input : List Char) : Option (List Char × List Char) := do
  let (_, rest) ← fixedDigits? 2 0 23 input
  let ':' :: rest := rest | none
  let (_, rest) ← fixedDigits? 2 0 59 rest
  let ':' :: rest := rest | none
  let (_, rest) ← fixedDigits? 2 0 60 rest
  match rest with
  | '.' :: fraction =>
    let digits := fraction.takeWhile isDigit
    if digits.isEmpty then none
    else return (input.take 8 ++ secondsFraction digits, fraction.drop digits.length)
  | _ => return (input.take 8, rest)

def zone? : List Char → Option (List Char × List Char)
  | 'Z' :: rest | 'z' :: rest => some (['Z'], rest)
  | sign :: rest => do
    if sign != '+' && sign != '-' then none
    let (hours, minutes) ← fixedDigits? 2 0 23 rest
    let ':' :: minutes := minutes | none
    let (minute, after) ← fixedDigits? 2 0 59 minutes
    let sign := if hours == 0 && minute == 0 then '+' else sign
    return (sign :: rest.take 5, after)
  | [] => none

/-- A date, a time, or a date and a time with or without a zone. -/
def moment? (token : List Char) : Option String := do
  let whole (found : List Char × List Char) : Option String :=
    if found.2.isEmpty then some (String.ofList found.1) else none
  match date? token with
  | none => whole (← time? token)
  | some (date, []) => return String.ofList date
  | some (date, delimiter :: rest) =>
    if delimiter != 'T' && delimiter != 't' && delimiter != ' ' then none
    let (time, rest) ← time? rest
    let (zone, rest) ← if rest.isEmpty then some ([], []) else zone? rest
    whole (date ++ 'T' :: time ++ zone, rest)

def scalarValue? (token : List Char) : Option Value :=
  if token == ['t', 'r', 'u', 'e'] then some (.bool true)
  else if token == ['f', 'a', 'l', 's', 'e'] then some (.bool false)
  else match integer? token with
    | some value => some (.int value)
    | none =>
      if isDecimal token then some (.decimal (String.ofList token))
      else (moment? token).map .moment

def endsScalar (c : Char) : Bool :=
  c == ' ' || c == '\t' || c == '\r' || c == '\n' || c == ',' || c == ']' || c == '\x7d' || c == '#'

/-- A value that is not in quotes: a truth value, a number, a date or a
time. It is written without blanks inside, except that a date takes a
time behind a blank with it. -/
def scalar? : Scan Value := fun input =>
  let token := input.takeWhile (!endsScalar ·)
  let rest := input.drop token.length
  let alone := (scalarValue? token).map (·, rest)
  match rest with
  | ' ' :: next =>
    let time := next.takeWhile (!endsScalar ·)
    match date? token, moment? (token ++ ' ' :: time) with
    | some (_, []), some written => some (.moment written, next.drop time.length)
    | _, _ => alone
  | _ => alone

end SiteRouting.Data.Toml
