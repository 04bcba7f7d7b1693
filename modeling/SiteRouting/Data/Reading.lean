import SiteRouting.Data.Value

namespace SiteRouting.Data

inductive ShapeError where
  | unexpected (wanted : String)
  | outOfRange (bound : Nat)
  | missing (key : String)
  | tooDeep
  deriving DecidableEq, Repr

abbrev Reader (α : Type) := Value → Except ShapeError α

/-- The key under which a date or time counts as a table. -/
def momentKey : String := "$__toml_private_datetime"

def Value.entries : Reader (List (String × Value))
  | .table entries => .ok entries
  | .moment written => .ok [(momentKey, .text written)]
  | _ => .error (.unexpected "table")

/-- A value as a record with the given keys: a table has its fields by their
keys, a list has them by their positions, in this order. -/
def Value.record (keys : List String) : Reader (List (String × Value))
  | .list items => .ok (keys.zip items)
  | value => value.entries

def Value.asText : Reader String
  | .text value => .ok value
  | _ => .error (.unexpected "text")

def Value.asBool : Reader Bool
  | .bool value => .ok value
  | _ => .error (.unexpected "boolean")

def Value.asNat (bound : Nat) : Reader Nat
  | .int value =>
    if 0 ≤ value && value.toNat ≤ bound then .ok value.toNat else .error (.outOfRange bound)
  | _ => .error (.unexpected "number")

def Value.asList {α : Type} (item : Reader α) : Reader (List α)
  | .list items => items.mapM item
  | _ => .error (.unexpected "list")

def Value.asTable {α : Type} (item : Reader α) (value : Value) :
    Except ShapeError (List (String × α)) := do
  (← value.entries).mapM fun (key, value) => do return (key, ← item value)

def required {α : Type} (record : List (String × Value)) (key : String) (read : Reader α) :
    Except ShapeError α :=
  match record.lookup key with
  | none => .error (.missing key)
  | some value => read value

/-- A field of a record. One that is missing takes its default. -/
def defaulted {α : Type} (record : List (String × Value)) (key : String) (default : α)
    (read : Reader α) : Except ShapeError α :=
  match record.lookup key with
  | none => .ok default
  | some value => read value

def optional {α : Type} (record : List (String × Value)) (key : String) (read : Reader α) :
    Except ShapeError (Option α) :=
  match record.lookup key with
  | none | some .null => .ok none
  | some value => (read value).map some

end SiteRouting.Data
