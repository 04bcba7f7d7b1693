import SiteRouting.Text.Digit
import SiteRouting.Text.Segments

namespace SiteRouting.Url

open Text

/-- The value of digits in a base; no digits stand for zero. -/
def basedValue? (base : Nat) (digits : List Char) : Option Nat :=
  if digits.all (isDigitOf base) then some (valueOfDigits base digits) else none

/-- The value of a part of a version 4 address: hexadecimal after `0x`,
octal after another zero. -/
def addressPart? : List Char → Option Nat
  | [] => none
  | '0' :: 'x' :: digits => basedValue? 16 digits
  | '0' :: 'X' :: digits => basedValue? 16 digits
  | '0' :: digit :: digits => basedValue? 8 (digit :: digits)
  | digits => basedValue? 10 digits

def dropEmptyLast (labels : List (List Char)) : List (List Char) :=
  if labels.getLast? == some [] then labels.dropLast else labels

/-- Whether the last label is a number, so that all of them have to be an
address. One empty label at the end does not count. -/
def endsInNumber (labels : List (List Char)) : Bool :=
  match (dropEmptyLast labels).getLast? with
  | none => false
  | some last => (!last.isEmpty && last.all isDigit) || (addressPart? last).isSome

/-- Whether labels are the parts of a version 4 address: up to four, all but the
last one bytes, while the last one fills all bytes that the others leave. -/
def isVersion4 (labels : List (List Char)) : Bool :=
  match (dropEmptyLast labels).mapM addressPart? with
  | none => false
  | some parts =>
    match parts.reverse with
    | [] => false
    | last :: others =>
      others.length ≤ 3 && others.all (· ≤ 255) && last < Nat.pow 256 (4 - others.length)

/-- Whether a text is a group of a version 6 address: up to four
hexadecimal digits. -/
def isGroup (cs : List Char) : Bool :=
  1 ≤ cs.length && cs.length ≤ 4 && cs.all (isDigitOf 16)

def isDecimalByte (cs : List Char) : Bool :=
  match cs with
  | [] => false
  | ['0'] => true
  | '0' :: _ => false
  | _ => cs.all isDigit && valueOfDigits 10 cs ≤ 255

/-- Whether a text is four decimal bytes between dots, which stand for
two groups. -/
def isDottedQuad (cs : List Char) : Bool :=
  let parts := segments '.' cs
  parts.length == 4 && parts.all isDecimalByte

/-- How many groups the texts between colons stand for; only the last
one may be a dotted quad. -/
def groupCount? : List (List Char) → Option Nat
  | [] => some 0
  | [last] => if isGroup last then some 1 else if isDottedQuad last then some 2 else none
  | group :: rest => if isGroup group then (groupCount? rest).map (· + 1) else none

def groupTexts (cs : List Char) : List (List Char) :=
  if cs.isEmpty then [] else segments ':' cs

/-- What stands before and after the first two colons in a row, where
groups are left out. -/
def cutAtGap? : List Char → Option (List Char × List Char)
  | [] => none
  | ':' :: ':' :: rest => some ([], rest)
  | c :: rest => (cutAtGap? rest).map fun (before, after) => (c :: before, after)

/-- Whether a text is a version 6 address: eight groups, of which one run may
be left out. The groups that are left out are one or more. -/
def isVersion6 (cs : List Char) : Bool :=
  match cutAtGap? cs with
  | none => groupCount? (segments ':' cs) == some 8
  | some (before, after) =>
    let groups := groupTexts before
    groups.all isGroup && (groupCount? (groupTexts after)).any (groups.length + · ≤ 7)

end SiteRouting.Url
