import SiteRouting.Issue
import SiteRouting.MatchError
import SiteRouting.Text.Blank
import SiteRouting.Text.Lowercase
import SiteRouting.Text.Numeral
import SiteRouting.Text.Segments

namespace SiteRouting

/-- The label that stands for any label at its place and any labels
further left. -/
def wildcardLabel : String := "_default_"

def dropTrailingDot (s : String) : String :=
  match s.toList.reverse with
  | '.' :: rest => String.ofList rest.reverse
  | _ => s

/-- The form in which host names are compared: trimmed, lowercase,
without one trailing dot. Names in the configuration and names in
requests are both brought into it. -/
def normalizeHostName (name : String) : String :=
  dropTrailingDot (Text.lowercase (Text.trim name))

/-- The host a request asks for: a normalized name and a port,
`anyPort` when it names none. -/
structure RequestHost where
  name : String
  port : Port
  deriving DecidableEq, Repr

/-- A normalized request host. It is refused when nothing is left of its
name, as of a blank one or of a single dot. -/
def RequestHost.named (name : String) (port : Port) : Except MatchError RequestHost :=
  let normal := normalizeHostName name
  if normal.isEmpty then .error .emptyHost else .ok ⟨normal, port⟩

/-- Splits a raw host value at its first colon. The port is judged
before the name. -/
def RequestHost.parse (rawHost : String) : Except MatchError RequestHost :=
  match Text.splitFirst? ':' (Text.trim rawHost) with
  | none => named (Text.trim rawHost) anyPort
  | some (name, portText) =>
    match Text.numeral? maxPort portText with
    | none => .error (.invalidPort rawHost)
    | some port => named name port

/-- The labels of a host name between its dots, the most specific one
first, as they are written. -/
def hostLabels (name : String) : List String :=
  Text.splitAt '.' name

/-- Whether a label can be a segment of an address literal: a numeral up to
255, which may begin with zeros or a plus sign. -/
def isAddressSegment (label : String) : Bool :=
  (Text.numeral? 255 label).isSome

/-- The segments of a configured name that is an address literal, none for a name
without dots. Any other name with dots has to be configured as nested nodes. -/
def addressSegments (name : String) : Except Fault (Option (List String)) :=
  if !Text.hasChar '.' name then .ok none
  else if (hostLabels name).all isAddressSegment then .ok (some (hostLabels name))
  else .error (.dottedHostName name)

/-- The labels that a configured name adds to its parent, the outermost one first.
An address literal adds one for each of its segments, any other name itself. -/
def nodeLabels (name : String) : Except Fault (List String) :=
  (addressSegments name).map fun
    | some segments => segments.reverse
    | none => [name]

end SiteRouting
