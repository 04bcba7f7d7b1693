import SiteRouting.Data.Toml.Definition
import SiteRouting.Data.Toml.Scalar

namespace SiteRouting.Data.Toml

open Text

/-- How deep lists and tables may be nested, and how many keys a
dotted key may have. -/
def nestingLimit : Nat := 79

def isBareKeyChar (c : Char) : Bool :=
  ('a' ≤ c && c ≤ 'z') || ('A' ≤ c && c ≤ 'Z') || isDigit c || c == '_' || c == '-'

def skipBlanks (input : List Char) : List Char :=
  input.dropWhile isLineBlank

def skipComment (input : List Char) : List Char :=
  match input with
  | '#' :: rest => rest.dropWhile isPlain
  | _ => input

def simpleKey? : Scan String := fun input =>
  match input with
  | '"' :: _ | '\'' :: _ => lineText? input
  | _ =>
    let key := input.takeWhile isBareKeyChar
    if key.isEmpty then none else some (String.ofList key, input.drop key.length)

def moreKeys? (fuel : Nat) (input : List Char) : Option (List String × List Char) :=
  match fuel, skipBlanks input with
  | fuel + 1, '.' :: rest => do
    let (key, rest) ← simpleKey? (skipBlanks rest)
    let (keys, rest) ← moreKeys? fuel rest
    return (key :: keys, rest)
  | 0, '.' :: _ => none
  | _, rest => some ([], rest)

/-- A dotted key: the keys before the last one, and the last one. -/
def dottedKey? (input : List Char) : Option ((List String × String) × List Char) := do
  let (first, rest) ← simpleKey? (skipBlanks input)
  let (others, rest) ← moreKeys? (nestingLimit - 1) rest
  let keys := first :: others
  return ((keys.dropLast, keys.getLastD first), rest)

/-- Passes over blanks, ends of lines and comments between the items of a list. -/
def skipLines (fuel : Nat) (input : List Char) : List Char :=
  match fuel with
  | 0 => input
  | fuel + 1 =>
    let input := skipBlanks input
    match newline? (skipComment input) with
    | some next => skipLines fuel next
    | none => input

/-- The items of a list after its opening bracket, each read by `item`. -/
def listItems? (item : Scan Value) (fuel : Nat) (found : List Value) (input : List Char) :
    Option (Value × List Char) :=
  match fuel with
  | 0 => none
  | fuel + 1 =>
    match skipLines input.length input with
    | ']' :: rest => some (.list found.reverse, rest)
    | start => do
      let (value, rest) ← item start
      match skipLines rest.length rest with
      | ',' :: rest => listItems? item fuel (value :: found) rest
      | ']' :: rest => return (.list (value :: found).reverse, rest)
      | _ => none

/-- The entries of a table in braces after its first brace. They stand on one
line, and no comma stands behind the last one. -/
def tableEntries? (item : Scan Value) (fuel : Nat) (found : Entries) (input : List Char) :
    Option (Value × List Char) :=
  match fuel with
  | 0 => none
  | fuel + 1 => do
    let ((path, key), rest) ← dottedKey? input
    let '=' :: rest := rest | none
    let (value, rest) ← item (skipBlanks rest)
    let found ← defineDotted path key value .header found
    match skipBlanks rest with
    | ',' :: rest => tableEntries? item fuel found rest
    | '\x7d' :: rest => return (.table (entriesToValues found), rest)
    | _ => none

def value? : Nat → Scan Value
  | depth, '[' :: rest =>
    match depth with
    | 0 => none
    | depth + 1 => listItems? (value? depth) (rest.length + 1) [] rest
  | depth, '\x7b' :: rest =>
    match depth with
    | 0 => none
    | depth + 1 =>
      match skipBlanks rest with
      | '\x7d' :: rest => some (.table [], rest)
      | _ => tableEntries? (value? depth) (rest.length + 1) [] rest
  | _, input =>
    match input with
    | '"' :: _ | '\'' :: _ => (quotedText? input).map fun (text, rest) => (.text text, rest)
    | _ => scalar? input

/-- A line of a document that is not blank: a header, or a key with its
value, which may hold lists and tables. -/
inductive Statement where
  | table (path : List String) (key : String)
  | element (path : List String) (key : String)
  | assign (path : List String) (key : String) (value : Value)
  deriving Repr

/-- The front of a line: a header or a key with its value. -/
def statement? : Scan Statement
  | '[' :: '[' :: rest => do
    let ((path, key), rest) ← dottedKey? rest
    let ']' :: ']' :: rest := rest | none
    return (.element path key, rest)
  | '[' :: rest => do
    let ((path, key), rest) ← dottedKey? rest
    let ']' :: rest := rest | none
    return (.table path key, rest)
  | input => do
    let ((path, key), rest) ← dottedKey? input
    let '=' :: rest := rest | none
    let (value, rest) ← value? nestingLimit (skipBlanks rest)
    return (.assign path key value, rest)

def endOfLine? (input : List Char) : Option (List Char) :=
  match skipComment (skipBlanks input) with
  | [] => some []
  | rest => newline? rest

/-- The statements of a document; `fuel` is more than the length of the input. -/
def statements? (fuel : Nat) (input : List Char) : Option (List Statement) :=
  match fuel, skipBlanks input with
  | 0, _ => none
  | _, [] => some []
  | fuel + 1, start =>
    match endOfLine? start with
    | some next => statements? fuel next
    | none => do
      let (statement, rest) ← statement? start
      let others ← statements? fuel (← endOfLine? rest)
      return statement :: others

/-- Carries out statements one after another; `current` is the table
that was opened last. -/
def carryOut (current : List String) (document : Entries) : List Statement → Option Entries
  | [] => some document
  | .table path key :: rest => do
    carryOut (path ++ [key]) (← openTable path key document) rest
  | .element path key :: rest => do
    carryOut (path ++ [key]) (← openElement path key document) rest
  | .assign path key value :: rest => do
    carryOut current (← defineIn current path key value document) rest

/-- The table that a document describes, none if it is malformed. A byte
order mark at its front is passed over. -/
def parse? (document : String) : Option Value := do
  let input := match document.toList with
    | '\ufeff' :: rest => rest
    | cs => cs
  let statements ← statements? (input.length + 1) input
  let entries ← carryOut [] [] statements
  return .table (entriesToValues entries)

end SiteRouting.Data.Toml
