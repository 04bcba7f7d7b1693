import SiteRouting.Data.Value

namespace SiteRouting.Data.Toml

/-- How a table came to be. A table may be opened by one header, before
which longer headers may have implied it; a table made by dotted keys stays
open to dotted keys only. -/
inductive Origin where
  /-- By a header, or as the whole document. -/
  | header
  /-- As part of the path of a header. -/
  | implied
  /-- As part of a dotted key. -/
  | dotted
  deriving DecidableEq, Repr

/-- What a key is defined as so far. Keys may be defined once, but a table
stays open to what its origin allows. -/
inductive Item where
  | value (value : Value)
  | table (origin : Origin) (entries : List (String × Item))
  /-- Tables in a list, the newest one first. -/
  | tables (newestFirst : List (List (String × Item)))

abbrev Entries := List (String × Item)

/-- Replaces what a key is defined as, or defines it behind the others. -/
def define (key : String) (f : Option Item → Option Item) : Entries → Option Entries
  | [] => (f none).map fun item => [(key, item)]
  | (other, item) :: rest =>
    if other == key then (f (some item)).map fun item => (key, item) :: rest
    else (define key f rest).map ((other, item) :: ·)

/-- Changes the table at a path, given how it came to be. Missing tables are
made as `made`. Dotted keys do not pass through tables that have a header; in
a list the newest table is meant. -/
def within (made : Origin) (change : Origin → Entries → Option Entries) :
    List String → Origin → Entries → Option Entries
  | [], origin, entries => change origin entries
  | key :: rest, _, entries => define key (fun
    | none => (within made change rest made []).map (.table made)
    | some (.value _) => none
    | some (.tables []) => none
    | some (.tables (newest :: older)) =>
      (within made change rest .header newest).map fun newest => .tables (newest :: older)
    | some (.table origin inner) =>
      if made == .dotted && origin == .header then none
      else (within made change rest origin inner).map (.table origin)) entries

/-- Defines the last of some dotted keys inside the table that the others name. -/
def defineDotted (path : List String) (key : String) (value : Value) (origin : Origin)
    (entries : Entries) : Option Entries :=
  within .dotted (fun reached inner =>
    if !path.isEmpty && reached != .dotted then none
    else define key (fun
      | none => some (.value value)
      | some _ => none) inner) path origin entries

def openTable (path : List String) (key : String) (document : Entries) : Option Entries :=
  within .implied (fun _ entries => define key (fun
    | none => some (.table .header [])
    | some (.table .implied inner) => some (.table .header inner)
    | some _ => none) entries) path .header document

def openElement (path : List String) (key : String) (document : Entries) : Option Entries :=
  within .implied (fun _ entries => define key (fun
    | none => some (.tables [[]])
    | some (.tables older) => some (.tables ([] :: older))
    | some _ => none) entries) path .header document

def defineIn (current : List String) (path : List String) (key : String) (value : Value)
    (document : Entries) : Option Entries :=
  within .implied (defineDotted path key value) current .header document

mutual

def Item.toValue : Item → Value
  | .value value => value
  | .table _ entries => .table (entriesToValues entries)
  | .tables newestFirst => .list (tablesToValues newestFirst).reverse

def entriesToValues : List (String × Item) → List (String × Value)
  | [] => []
  | (key, item) :: rest => (key, item.toValue) :: entriesToValues rest

def tablesToValues : List (List (String × Item)) → List Value
  | [] => []
  | entries :: rest => .table (entriesToValues entries) :: tablesToValues rest

end

end SiteRouting.Data.Toml
