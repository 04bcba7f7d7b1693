import SiteRouting.Http.Request

namespace SiteRouting.Http

def isTokenChar (c : Char) : Bool :=
  c.isAlphanum || "!#$%&'*+-.^_`|~".toList.contains c

def isQuotedChar (c : Char) : Bool :=
  0x20 ≤ c.toNat && c.toNat != 0x7F

/-- What follows a quoted value after its opening quote. The value has at
least one character, which may be a quote. -/
def afterQuoted? : List Char → Option (List Char)
  | [] => none
  | first :: rest =>
    match rest.dropWhile (fun c => c != '"' && isQuotedChar c) with
    | '"' :: after => if isQuotedChar first then some after else none
    | _ => none

/-- Whether a list of parameters is well formed, given its text after a
semicolon; `fuel` is more than the length of the input. -/
def hasParameters (fuel : Nat) (input : List Char) : Bool :=
  match fuel, input.dropWhile (· == ' ') with
  | 0, _ => false
  | _, [] => true
  | fuel + 1, start =>
    let name := start.takeWhile isTokenChar
    match name, start.drop name.length with
    | [], _ => false
    | _, '=' :: '"' :: rest =>
      match (afterQuoted? rest).map (·.dropWhile (· == ' ')) with
      | some [] => true
      | some (';' :: rest) => hasParameters fuel rest
      | _ => false
    | _, '=' :: rest =>
      let value := rest.takeWhile isTokenChar
      match rest.drop value.length with
      | [] => true
      | ';' :: rest => !value.isEmpty && hasParameters fuel rest
      | _ => false
    | _, _ => false

/-- A subtype and the suffix behind its last plus sign. A plus sign in
front starts no suffix. -/
def splitSubtype (subtype : List Char) : List Char × Option (List Char) :=
  let suffix := (subtype.reverse.takeWhile (· != '+')).reverse
  let before := subtype.length - suffix.length
  if before ≤ 1 then (subtype, none) else (subtype.take (before - 1), some suffix)

/-- Whether a subtype is JSON or has the suffix for formats built on JSON. -/
def isJsonSubtype (subtype : List Char) : Bool :=
  let (base, suffix) := splitSubtype subtype
  base == "json".toList || suffix == some "json".toList

/-- Whether a media type is that of a JSON body: a type, a subtype that is
JSON or has the suffix for it, and parameters that are well formed. -/
def isJsonMediaType (mediaType : String) : Bool :=
  let input := (headerName mediaType).toList
  let mainType := input.takeWhile isTokenChar
  match input.drop mainType.length with
  | '/' :: rest =>
    let subtype := rest.takeWhile isTokenChar
    let isWellFormed := match rest.drop subtype.length with
      | [] => true
      | ';' :: parameters => hasParameters (parameters.length + 1) parameters
      | _ => false
    mainType == "application".toList && isJsonSubtype subtype && isWellFormed
  | _ => false

def Request.announcesJson (request : Request) : Bool :=
  ((request.text? "content-type").map isJsonMediaType).getD false

end SiteRouting.Http
