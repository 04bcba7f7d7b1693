import SiteRouting.Data.Json.Scan

namespace SiteRouting.Data.Json

inductive RecordError where
  /-- The text is not JSON, as far as it was read. -/
  | malformed
  /-- The text is JSON of another shape, as far as it was read. -/
  | misshapen
  deriving DecidableEq, Repr

def wellFormed {α : Type} : Option α → Except RecordError α
  | none => .error .malformed
  | some found => .ok found

/-- The fault of a value that is no text. Lists and tables are not
read to find it. -/
def notText (input : List Char) : RecordError :=
  let misshapen (read : Bool) : RecordError := if read then .misshapen else .malformed
  match input with
  | '[' :: _ | '\x7b' :: _ => .misshapen
  | 'n' :: _ => misshapen (word? "null" input).isSome
  | 't' :: _ => misshapen (word? "true" input).isSome
  | 'f' :: _ => misshapen (word? "false" input).isSome
  | '"' :: _ => misshapen (text? input).isSome
  | _ => misshapen <| match number? input with
    | none => false
    | some number => !overflows number.digits (number.exponent - number.scale)

def readText (input : List Char) : Except RecordError (String × List Char) :=
  match skipBlanks input with
  | '"' :: rest => wellFormed (text? ('"' :: rest))
  | start => .error (notText start)

/-- Reads the entries of a table up to its end, given the field if it was
found already; `fuel` is more than the length of the input. -/
def readEntries (field : String) (fuel : Nat) (found : Option String) (isFirst : Bool)
    (input : List Char) : Except RecordError (String × List Char) :=
  match fuel with
  | 0 => .error .malformed
  | fuel + 1 => do
    match skipBlanks input with
    | '\x7d' :: rest =>
      match found with
      | none => .error .misshapen
      | some value => .ok (value, rest)
    | start =>
      let start ← if isFirst then .ok start else match start with
        | ',' :: rest => .ok (skipBlanks rest)
        | _ => .error .malformed
      let (key, rest) ← wellFormed (text? start)
      if key == field && found.isSome then .error .misshapen
      else match skipBlanks rest with
        | ':' :: rest =>
          if key == field then
            let (value, rest) ← readText rest
            readEntries field fuel (some value) false rest
          else readEntries field fuel found false (← wellFormed (skipValue rest))
        | _ => .error .malformed

def readOnlyItem (input : List Char) : Except RecordError (String × List Char) := do
  match skipBlanks input with
  | ']' :: _ => .error .misshapen
  | [] => .error .malformed
  | start =>
    let (value, rest) ← readText start
    match skipBlanks rest with
    | ']' :: rest => .ok (value, rest)
    | _ => .error .malformed

/-- The text field of a record, which is a table with the field and any
others, or a list with the field alone. The text is read from front to back,
and the first fault decides the answer. -/
def textField (field : String) (json : String) : Except RecordError String := do
  let (value, rest) ← match skipBlanks json.toList with
    | '\x7b' :: rest => readEntries field (rest.length + 1) none true rest
    | '[' :: rest => readOnlyItem rest
    | start => .error (notText start)
  if (skipBlanks rest).isEmpty then .ok value else .error .malformed

end SiteRouting.Data.Json
