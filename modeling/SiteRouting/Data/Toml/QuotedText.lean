import SiteRouting.Text.Digit

namespace SiteRouting.Data.Toml

open Text

/-- A reader of the front of a text: what it found and what is left. -/
abbrev Scan (α : Type) := List Char → Option (α × List Char)

def isLineBlank (c : Char) : Bool :=
  c == ' ' || c == '\t'

/-- Characters that may stand in a text or a comment: no control
characters but the tab. -/
def isPlain (c : Char) : Bool :=
  c == '\t' || (0x20 ≤ c.toNat && c.toNat != 0x7F)

def newline? : List Char → Option (List Char)
  | '\n' :: rest => some rest
  | '\r' :: '\n' :: rest => some rest
  | _ => none

/-- The character of a code point written in hexadecimal digits;
surrogates are none. -/
def hexChar? (digits : List Char) : Option Char := do
  let code ← digits.foldlM (fun value digit => do return 16 * value + (← hexDigit? digit)) 0
  if code < 0xD800 || (0xDFFF < code && code < 0x110000) then some (Char.ofNat code) else none

def escaped? : Char → Option Char
  | 'b' => some '\x08'
  | 't' => some '\t'
  | 'n' => some '\n'
  | 'f' => some '\x0c'
  | 'r' => some '\r'
  | '"' => some '"'
  | '\\' => some '\\'
  | _ => none

def escape? : Scan Char
  | 'u' :: a :: b :: c :: d :: rest => (hexChar? [a, b, c, d]).map (·, rest)
  | 'U' :: a :: b :: c :: d :: e :: f :: g :: h :: rest =>
    (hexChar? [a, b, c, d, e, f, g, h]).map (·, rest)
  | letter :: rest => (escaped? letter).map (·, rest)
  | [] => none

/-- The rest of a basic text on one line; `fuel` is the length of the
input or more. -/
def basicLine (fuel : Nat) (found : List Char) (input : List Char) : Option (String × List Char) :=
  match fuel, input with
  | 0, _ => none
  | _, [] => none
  | fuel + 1, c :: rest =>
    if c == '"' then some (String.ofList found.reverse, rest)
    else if c == '\\' then (escape? rest).bind fun (c, rest) => basicLine fuel (c :: found) rest
    else if isPlain c then basicLine fuel (c :: found) rest
    else none

def literalLine (found : List Char) : List Char → Option (String × List Char)
  | [] => none
  | c :: rest =>
    if c == '\'' then some (String.ofList found.reverse, rest)
    else if isPlain c then literalLine (c :: found) rest
    else none

/-- The end of a text on several lines: three quotes, before which up
to two more belong to it. -/
def closing? (quote : Char) (found input : List Char) : Option (String × List Char) :=
  let quotes := (input.takeWhile (· == quote)).length
  if quotes < 3 then none
  else
    let extra := min (quotes - 3) 2
    some (String.ofList (found.reverse ++ List.replicate extra quote), input.drop (3 + extra))

/-- Whether a backslash joins lines: only blanks stand between it and
the end of its line. -/
def joinsLines (afterBackslash : List Char) : Bool :=
  (newline? (afterBackslash.dropWhile isLineBlank)).isSome

/-- The rest of a basic text on several lines. After a backslash that joins
lines everything is passed over up to the next character that is visible. -/
def basicLines (fuel : Nat) (joining : Bool) (found input : List Char) :
    Option (String × List Char) :=
  match fuel, input with
  | 0, _ => none
  | _, [] => none
  | fuel + 1, c :: rest =>
    match newline? (c :: rest) with
    | some next => basicLines fuel joining (if joining then found else '\n' :: found) next
    | none =>
      if joining && isLineBlank c then basicLines fuel true found rest
      else if c == '"' then
        match closing? '"' found (c :: rest) with
        | some closed => some closed
        | none => basicLines fuel false (c :: found) rest
      else if c == '\\' then
        if joinsLines rest then basicLines fuel true found rest
        else (escape? rest).bind fun (c, rest) => basicLines fuel false (c :: found) rest
      else if isPlain c then basicLines fuel false (c :: found) rest
      else none

def literalLines (fuel : Nat) (found input : List Char) : Option (String × List Char) :=
  match fuel, input with
  | 0, _ => none
  | _, [] => none
  | fuel + 1, c :: rest =>
    match newline? (c :: rest) with
    | some next => literalLines fuel ('\n' :: found) next
    | none =>
      if c == '\'' then
        match closing? '\'' found (c :: rest) with
        | some closed => some closed
        | none => literalLines fuel (c :: found) rest
      else if isPlain c then literalLines fuel (c :: found) rest
      else none

def afterFirstNewline (input : List Char) : List Char :=
  (newline? input).getD input

/-- A text in quotes on one line, as keys may be written. -/
def lineText? : Scan String
  | '"' :: rest => basicLine (rest.length + 1) [] rest
  | '\'' :: rest => literalLine [] rest
  | _ => none

/-- A text in quotes, as values may be written: a basic one with escapes or a
literal one without, on one line or on several. -/
def quotedText? : Scan String
  | '"' :: '"' :: '"' :: rest => basicLines (rest.length + 1) false [] (afterFirstNewline rest)
  | '\'' :: '\'' :: '\'' :: rest => literalLines (rest.length + 1) [] (afterFirstNewline rest)
  | input => lineText? input

end SiteRouting.Data.Toml
