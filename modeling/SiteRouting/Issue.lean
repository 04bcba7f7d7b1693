namespace SiteRouting

/-- A port number; `anyPort` stands for every port that has no entry
of its own. -/
abbrev Port := Nat

/-- The port entry that serves ports without an entry of their own. A request
that names no port asks for this one. -/
def anyPort : Port := 0

def maxPort : Port := 65535

/-- What a fault costs the build that finds it, from the value that it is
about to the whole registry. -/
inductive Severity where
  /-- The value cannot be used; its node is kept. -/
  | warning
  /-- The node is skipped with everything below it, but a port entry
  without a root mount is kept. -/
  | error
  /-- The build stops. -/
  | fatal
  deriving DecidableEq, Repr

def Severity.rank : Severity → Nat
  | .warning => 0
  | .error => 1
  | .fatal => 2

def Severity.atLeast (s bound : Severity) : Bool :=
  bound.rank ≤ s.rank

def Severity.label : Severity → String
  | .warning => "warning"
  | .error => "error"
  | .fatal => "fatal"

/-- A fault that a build can find in a configuration, with the values
that its message shows. -/
inductive Fault where
  | duplicateHostGroup (name : String)
  | duplicateHost (group hostName : String)
  | dottedHostName (name : String)
  | duplicateMount (parentPath name : String)
  | duplicatePortMount (hostName : String) (port : Port)
  | missingRootMount (hostName : String) (port : Port)
  | relativeMountPoint (mountPoint : String)
  | unknownSiteRoot (mountPoint : String)
  | missingPreviewSite (previewMountPoint : String)
  | malformedContextPath (value : String)
  | unsupportedResponseCode (code : Nat)
  | aliasConflict (group aliasName mountType existing : String)
  | duplicateIdentifier (identifier : String)
  | invalidCmsLocation (location : String)
  deriving DecidableEq, Repr

/-- Two groups or two hosts of one name leave the tree ambiguous and stop
the build; a node that cannot be attached is skipped; a bad value costs
no node. A port entry without a root mount counts as an error too,
although the entry is kept. -/
def Fault.severity : Fault → Severity
  | .duplicateHostGroup _ | .duplicateHost _ _ => .fatal
  | .dottedHostName _ | .duplicateMount _ _ | .duplicatePortMount _ _ | .missingRootMount _ _
  | .relativeMountPoint _ | .unknownSiteRoot _ => .error
  | .missingPreviewSite _ | .malformedContextPath _ | .unsupportedResponseCode _
  | .aliasConflict _ _ _ _ | .duplicateIdentifier _ | .invalidCmsLocation _ => .warning

def Fault.message : Fault → String
  | .duplicateHostGroup name => s!"duplicate host group '{name}'"
  | .duplicateHost group hostName => s!"duplicate virtual host '{hostName}' in host group '{group}'"
  | .dottedHostName name =>
    s!"virtual host name '{name}' contains dots but is not an ip address; configure it hierarchically"
  | .duplicateMount parentPath name => s!"duplicate mount '{name}' below '{parentPath}'"
  | .duplicatePortMount hostName port =>
    s!"duplicate port mount for port {port} on host '{hostName}'"
  | .missingRootMount hostName port =>
    s!"port mount for port {port} on host '{hostName}' has no root mount"
  | .relativeMountPoint mountPoint => s!"mount point '{mountPoint}' is not absolute"
  | .unknownSiteRoot mountPoint =>
    s!"mount point '{mountPoint}' does not point to a site root; fix it or set is_mapped = false"
  | .missingPreviewSite previewMountPoint =>
    s!"no preview site root '{previewMountPoint}'; the live site is used for preview"
  | .malformedContextPath value =>
    s!"only_for_context_path '{value}' must be a single segment starting with '/'; ignored"
  | .unsupportedResponseCode code =>
    s!"scheme_not_matching_response_code {code} is not supported; inherited value used"
  | .aliasConflict group aliasName mountType existing =>
    s!"alias '{aliasName}' with type '{mountType}' is already used in host group '{group}' by '{existing}'"
  | .duplicateIdentifier identifier =>
    s!"mount identifier '{identifier}' is used more than once; last one wins"
  | .invalidCmsLocation location => s!"cms location '{location}' is not a valid url; ignored"

/-- A fault and the slash separated place of the node it was found at, as it
is reported to whoever asked for the build. -/
structure Issue where
  location : String
  fault : Fault
  deriving DecidableEq, Repr

def Issue.severity (issue : Issue) : Severity :=
  issue.fault.severity

def Issue.text (issue : Issue) : String :=
  s!"[{issue.severity.label}] {issue.location}: {issue.fault.message}"

/-- The issues of at least a given severity, in the order found. -/
def issuesAtLeast (bound : Severity) (issues : List Issue) : List Issue :=
  issues.filter (·.severity.atLeast bound)

end SiteRouting
