import SiteRouting.Data.Value
import SiteRouting.Text.Blank
import SiteRouting.Text.Segments

namespace SiteRouting.Http

/-- A request, and what it tells about the host it was addressed to. Header
names may be in any case and may repeat. -/
structure Request where
  method : String
  target : String
  headers : List (String × String) := []
  body : String := ""
  deriving DecidableEq, Repr

/-- A response. The body is none if it is empty or no JSON. Without an
identifier in the request the server makes one for the response. -/
structure Response where
  status : Nat
  body : Option Data.Value := none
  requestId : Option String := none
  deriving Repr

/-- Whether a header value can be read as text: it holds visible
ASCII, blanks and tabs. -/
def isReadable (value : String) : Bool :=
  value.toList.all fun c => c == '\t' || (0x20 ≤ c.toNat && c.toNat < 0x7F)

def headerName (name : String) : String :=
  String.ofList (name.toList.map Char.toLower)

/-- The value of the first header of a name. The name is given in lowercase,
while the request may write it in any case. -/
def Request.header? (request : Request) (name : String) : Option String :=
  (request.headers.find? fun header => headerName header.1 == name).map (·.2)

/-- The value of the first header of a name, if it can be read as text. -/
def Request.text? (request : Request) (name : String) : Option String :=
  (request.header? name).filter isReadable

/-- A text without the blanks at its ends, unless nothing is left. -/
def visible? (s : String) : Option String :=
  let trimmed := Text.trim s
  if trimmed.isEmpty then none else some trimmed

def firstListItem (value : String) : String :=
  match Text.splitFirst? ',' value with
  | some (first, _) => first
  | none => value

/-- The host that the client addressed: the first one that a proxy passes on,
else the request's own host. -/
def Request.farthestHost? (request : Request) : Option String :=
  ((request.text? "x-forwarded-host").map firstListItem).bind visible? <|>
    (request.text? "host").bind visible?

def Request.identifier? (request : Request) : Option String :=
  request.header? "x-request-id"

/-- The origin form of a target: without scheme, authority and fragment. -/
def originForm (target : String) : List Char :=
  let target := target.toList.takeWhile (· != '#')
  if target.head? == some '/' then target
  else
    let afterScheme := (target.dropWhile (· != ':')).drop 3
    let path := afterScheme.dropWhile fun c => c != '/' && c != '?'
    if path.head? == some '/' then path else '/' :: path

def Request.path (request : Request) : String :=
  String.ofList ((originForm request.target).takeWhile (· != '?'))

def Request.query (request : Request) : String :=
  String.ofList (((originForm request.target).dropWhile (· != '?')).drop 1)

end SiteRouting.Http
