import SiteRouting.Config.Reading
import SiteRouting.Config.Validation
import SiteRouting.Data.Toml.Document

namespace SiteRouting

/-- Why a document does not lead to a registry. Its text is parsed, given its
types, and validated, and the first of these to fail decides the answer. -/
inductive LoadError where
  /-- The document cannot be read. -/
  | unreadable
  /-- The document is malformed or has values of a wrong type. -/
  | malformed
  /-- The document has values that no build can use. -/
  | invalid (violations : List Violation)
  /-- The build was refused. -/
  | rejected (issues : List Issue)
  deriving DecidableEq, Repr

abbrev Source := Except LoadError Configuration

def Configuration.validated (config : Configuration) : Source :=
  if config.isValid then .ok config else .error (.invalid config.violations)

def Configuration.parse (document : String) : Source :=
  match Data.Toml.parse? document with
  | none => .error .malformed
  | some value =>
    match read value with
    | .error _ => .error .malformed
    | .ok config => config.validated

/-- The configuration in a file, given its text if it can be read. A text
that is malformed or invalid is no configuration either. -/
def Configuration.load (file : Option String) : Source :=
  match file with
  | none => .error .unreadable
  | some document => parse document

end SiteRouting
