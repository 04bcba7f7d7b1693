import SiteRouting.Data.Decimal

namespace SiteRouting.Data.Json

open Text

def isBlank (c : Char) : Bool :=
  c == ' ' || c == '\n' || c == '\t' || c == '\r'

/-- What is left of a text behind the blanks at its front. Every scan answers
what is left in this way, or none where the text cannot be JSON. -/
def skipBlanks (input : List Char) : List Char :=
  input.dropWhile isBlank

def fourHex? (input : List Char) : Option (Nat × List Char) :=
  let digits := input.take 4
  if digits.length == 4 && digits.all fun c => (hexDigit? c).isSome then
    some (valueOfDigits 16 digits, input.drop 4)
  else none

/-- The character of an escape with hexadecimal digits. Characters beyond the
first plane are written as two escapes, and neither half may stand alone. -/
def unicodeEscape? (input : List Char) : Option (Char × List Char) := do
  let (unit, rest) ← fourHex? input
  if unit < 0xD800 || 0xDFFF < unit then return (Char.ofNat unit, rest)
  if 0xDC00 ≤ unit then none
  let '\\' :: 'u' :: rest := rest | none
  let (low, rest) ← fourHex? rest
  if low < 0xDC00 || 0xDFFF < low then none
  return (Char.ofNat (0x10000 + 0x400 * (unit - 0xD800) + (low - 0xDC00)), rest)

def shortEscape? : Char → Option Char
  | '"' => some '"'
  | '\\' => some '\\'
  | '/' => some '/'
  | 'b' => some '\x08'
  | 'f' => some '\x0c'
  | 'n' => some '\n'
  | 'r' => some '\r'
  | 't' => some '\t'
  | _ => none

/-- The rest of a text after its opening quote; `fuel` is more than
the length of the input. -/
def textBody? (fuel : Nat) (found : List Char) (input : List Char) : Option (String × List Char) :=
  match fuel, input with
  | 0, _ => none
  | _, [] => none
  | fuel + 1, c :: rest =>
    if c == '"' then some (String.ofList found.reverse, rest)
    else if c == '\\' then
      match rest with
      | [] => none
      | 'u' :: digits => do
        let (c, rest) ← unicodeEscape? digits
        textBody? fuel (c :: found) rest
      | letter :: rest => do textBody? fuel ((← shortEscape? letter) :: found) rest
    else if c.toNat < 0x20 then none
    else textBody? fuel (c :: found) rest

def text? : List Char → Option (String × List Char)
  | '"' :: rest => textBody? (rest.length + 1) [] rest
  | _ => none

/-- Passes over the rest of a text. Escapes have to be well formed but need
not stand for characters. -/
def skipTextBody (fuel : Nat) (input : List Char) : Option (List Char) :=
  match fuel, input with
  | 0, _ => none
  | _, [] => none
  | fuel + 1, c :: rest =>
    if c == '"' then some rest
    else if c == '\\' then
      match rest with
      | [] => none
      | 'u' :: digits => (fourHex? digits).bind fun (_, rest) => skipTextBody fuel rest
      | letter :: rest => (shortEscape? letter).bind fun _ => skipTextBody fuel rest
    else if c.toNat < 0x20 then none
    else skipTextBody fuel rest

/-- A number: its sign is passed over; its digits, the count of them
behind the point, its exponent. -/
structure NumberScan where
  digits : List Char
  scale : Nat
  exponent : Int
  rest : List Char

def number? (input : List Char) : Option NumberScan := do
  let input := if input.head? == some '-' then input.drop 1 else input
  let whole := input.takeWhile isDigit
  if whole.isEmpty || (whole.head? == some '0' && 1 < whole.length) then none
  let rest := input.drop whole.length
  let (fraction, rest) ← match rest with
    | '.' :: digits =>
      let fraction := digits.takeWhile isDigit
      if fraction.isEmpty then none else some (fraction, digits.drop fraction.length)
    | _ => some ([], rest)
  let (exponent, rest) ← match rest with
    | mark :: written =>
      if mark != 'e' && mark != 'E' then some (0, rest)
      else
        let signed := written.head? == some '-' || written.head? == some '+'
        let after := if signed then written.drop 1 else written
        let digits := after.takeWhile isDigit
        let value : Int := valueOfDigits 10 digits
        if digits.isEmpty then none
        else some (if written.head? == some '-' then -value else value, after.drop digits.length)
    | [] => some (0, rest)
  return ⟨whole ++ fraction, fraction.length, exponent, rest⟩

def word? (word : String) (input : List Char) : Option (List Char) :=
  if word.toList.isPrefixOf input then some (input.drop word.toList.length) else none

def skipScalar (input : List Char) : Option (List Char) :=
  match input with
  | '"' :: rest => skipTextBody (rest.length + 1) rest
  | 'n' :: _ => word? "null" input
  | 't' :: _ => word? "true" input
  | 'f' :: _ => word? "false" input
  | _ => (number? input).map (·.rest)

def skipKey (input : List Char) : Option (List Char) :=
  match skipBlanks input with
  | '"' :: rest => do
    let rest ← skipTextBody (rest.length + 1) rest
    let ':' :: rest := skipBlanks rest | none
    return rest
  | _ => none

inductive Bracket where
  | list
  | table
  deriving DecidableEq, Repr

/-- Passes over what is left of the open lists and tables, the innermost one
first, when a value has just ended; `fuel` is more than the length of the
input. `expectValue` says that a value has to stand next instead. -/
def skipOpen (fuel : Nat) (expectValue : Bool) (openBrackets : List Bracket) (input : List Char) :
    Option (List Char) :=
  match fuel with
  | 0 => none
  | fuel + 1 =>
    match expectValue, openBrackets, skipBlanks input with
    | true, _, '[' :: rest =>
      match skipBlanks rest with
      | ']' :: rest => skipOpen fuel false openBrackets rest
      | start => skipOpen fuel true (.list :: openBrackets) start
    | true, _, '\x7b' :: rest =>
      match skipBlanks rest with
      | '\x7d' :: rest => skipOpen fuel false openBrackets rest
      | start => do skipOpen fuel true (.table :: openBrackets) (← skipKey start)
    | true, _, start => do skipOpen fuel false openBrackets (← skipScalar start)
    | false, [], _ => some input
    | false, .list :: outer, ']' :: rest => skipOpen fuel false outer rest
    | false, .table :: outer, '\x7d' :: rest => skipOpen fuel false outer rest
    | false, .list :: _, ',' :: rest => skipOpen fuel true openBrackets rest
    | false, .table :: _, ',' :: rest => do skipOpen fuel true openBrackets (← skipKey rest)
    | false, _, _ => none

def skipValue (input : List Char) : Option (List Char) :=
  skipOpen (2 * input.length + 2) true [] input

end SiteRouting.Data.Json
