namespace SiteRouting.Data

/-- A value of a data format: what a configuration document or a request body
holds before it is given a meaning. -/
inductive Value where
  | null
  | bool (value : Bool)
  | int (value : Int)
  /-- A number with a fraction or an exponent, as written. -/
  | decimal (written : String)
  | text (value : String)
  /-- A date, a time or both, as written. -/
  | moment (written : String)
  | list (items : List Value)
  /-- Keys with their values in the order in which they are given. -/
  | table (entries : List (String × Value))
  deriving Repr, Inhabited

mutual

def Value.depth : Value → Nat
  | .list items => depthOfItems items + 1
  | .table entries => depthOfEntries entries + 1
  | _ => 0

def depthOfItems : List Value → Nat
  | [] => 0
  | item :: rest => max item.depth (depthOfItems rest)

def depthOfEntries : List (String × Value) → Nat
  | [] => 0
  | (_, value) :: rest => max value.depth (depthOfEntries rest)

end

def Value.texts (texts : List String) : Value :=
  .list (texts.map .text)

end SiteRouting.Data
