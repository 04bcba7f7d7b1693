namespace SiteRouting

inductive LookupKey where
  | aliasName
  | mountType
  deriving DecidableEq, Repr

/-- The causes for which a lookup is refused. A lookup that merely finds
nothing is not refused: it answers none. -/
inductive MatchError where
  /-- No build was accepted yet. -/
  | notConfigured
  /-- Nothing is left of the host name once it is normalized. -/
  | emptyHost
  /-- What follows the first colon is no port; the request's own text is kept. -/
  | invalidPort (rawHost : String)
  /-- An alias lookup with an empty part. -/
  | invalidLookup (missing : LookupKey)
  deriving DecidableEq, Repr

def LookupKey.description : LookupKey → String
  | .aliasName => "alias"
  | .mountType => "mount type"

def MatchError.message : MatchError → String
  | .notConfigured => "no correct virtual hosts configured"
  | .emptyHost => "empty host name"
  | .invalidPort rawHost => s!"host '{rawHost}' contains an invalid port number"
  | .invalidLookup missing => s!"invalid lookup: {missing.description} is empty"

def MatchError.status : MatchError → Nat
  | .notConfigured => 503
  | .emptyHost => 400
  | .invalidPort _ => 400
  | .invalidLookup _ => 500

end SiteRouting
