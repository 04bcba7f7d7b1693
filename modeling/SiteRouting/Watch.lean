import SiteRouting.Config.Loading

namespace SiteRouting

inductive FileChange where
  /-- A new document takes the place of the file. -/
  | put (document : String)
  /-- Another file of the directory is written. -/
  | putOther (document : String)
  /-- A file of the same name is written in a directory below. -/
  | putBelow (document : String)
  /-- The file is deleted. -/
  | remove
  /-- The file is renamed to a place outside the directory. -/
  | moveAway
  deriving DecidableEq, Repr

/-- The text of the file after a change, none if there is no file. -/
def FileChange.fileAfter (file : Option String) : FileChange → Option String
  | .put document => some document
  | .putOther _ | .putBelow _ => file
  | .remove | .moveAway => none

/-- Whether the watcher is told of a change: renaming the file away counts as
modifying it, deleting it does not. -/
def FileChange.concerns : FileChange → Bool
  | .put _ | .moveAway => true
  | .putOther _ | .putBelow _ | .remove => false

/-- What the watcher hands on when it is told of a change and finds the file
like this: a configuration that loads, and nothing otherwise. -/
def reload (file : Option String) : List Configuration :=
  match Configuration.load file with
  | .ok config => [config]
  | .error _ => []

/-- The file after a change, and what the watcher hands on because of it. A change
that creates or modifies the file makes the watcher load it as it is then. -/
def FileChange.observe (file : Option String) (change : FileChange) :
    Option String × List Configuration :=
  let after := change.fileAfter file
  (after, if change.concerns then reload after else [])

end SiteRouting
