import SiteRouting.Config
import SiteRouting.Properties

namespace SiteRouting

inductive Defect where
  | unsupportedScheme (scheme : String)
  | unsupportedResponseCode (code : Nat)
  | noHostName (value : String)
  | relativePath
  | duplicateSite (path : String)
  | emptyName
  | nameWithSlash (name : String)
  | emptyApiKey
  | unknownLogFormat (format : String)
  deriving DecidableEq, Repr

def Defect.message : Defect → String
  | .unsupportedScheme scheme => s!"unsupported scheme '{scheme}'"
  | .unsupportedResponseCode code => s!"unsupported response code {code}"
  | .noHostName value => s!"'{value}' is not a host name"
  | .relativePath => "must be absolute"
  | .duplicateSite path => s!"duplicate site root '{path}'"
  | .emptyName => "must not be empty"
  | .nameWithSlash name => s!"'{name}' must not contain '/'"
  | .emptyApiKey => "must not be empty when admin is enabled"
  | .unknownLogFormat format => s!"expected 'pretty' or 'json', got '{format}'"

/-- A defect and the dotted path of the value that has it, in which an
element of a list is told by its position. -/
structure Violation where
  field : String
  defect : Defect
  deriving DecidableEq, Repr

def Violation.text (violation : Violation) : String :=
  s!"{violation.field}: {violation.defect.message}"

def violationsText (violations : List Violation) : String :=
  "Validation failed: " ++ ", ".intercalate (violations.map Violation.text)

def isKnownScheme (scheme : String) : Bool :=
  scheme.isEmpty || scheme == "http" || scheme == "https"

/-- Whether a default host can be looked up: it is not blank, and has
no colon, slash or blank. -/
def isHostName (value : String) : Bool :=
  !Text.isBlankText value && !value.toList.any fun c => c == ':' || c == '/' || Text.isBlank c

/-- The defect of a node name. A name that is blank is not searched
for slashes. -/
def nameDefect? (name : String) : Option Defect :=
  if Text.isBlankText name then some .emptyName
  else if Text.hasChar '/' name then some (.nameWithSlash name)
  else none

def nameViolations (field name : String) : List Violation :=
  (nameDefect? name).toList.map fun defect => ⟨s!"{field}.name", defect⟩

def elementField (list : String) (position : Nat) : String :=
  s!"{list}[{position}]"

def Defaults.violations (defaults : Defaults) : List Violation :=
  (match defaults.scheme with
    | some scheme => if isKnownScheme scheme then [] else [⟨"hosts.scheme", .unsupportedScheme scheme⟩]
    | none => []) ++
  (if isSupportedResponseCode defaults.schemeNotMatchingResponseCode then []
    else [⟨"hosts.scheme_not_matching_response_code",
      .unsupportedResponseCode defaults.schemeNotMatchingResponseCode⟩]) ++
  (match defaults.defaultHostName with
    | some name => if isHostName name then [] else [⟨"hosts.default_host_name", .noHostName name⟩]
    | none => [])

/-- The violations of sites, given their position and the paths of
those before them. -/
def siteViolations (position : Nat) (earlier : List String) : List SiteNode → List Violation
  | [] => []
  | site :: rest =>
    let field := elementField "sites" position ++ ".path"
    (if Text.startsWith site.path "/" then [] else [⟨field, .relativePath⟩]) ++
      (if earlier.contains site.path then [⟨field, .duplicateSite site.path⟩] else []) ++
      siteViolations (position + 1) (site.path :: earlier) rest

mutual

def MountNode.violations (field : String) : MountNode → List Violation
  | .node own mounts => nameViolations field own.name ++ mountViolations s!"{field}.mounts" 0 mounts

def mountViolations (list : String) (position : Nat) : List MountNode → List Violation
  | [] => []
  | mount :: rest =>
    mount.violations (elementField list position) ++ mountViolations list (position + 1) rest

end

def portViolations (list : String) (position : Nat) : List PortNode → List Violation
  | [] => []
  | port :: rest =>
    (port.root.toList.flatMap fun root => root.violations (elementField list position ++ ".root")) ++
      portViolations list (position + 1) rest

mutual

def HostNode.violations (field : String) : HostNode → List Violation
  | .node own root ports hosts =>
    nameViolations field own.name ++
      (root.toList.flatMap fun mount => mount.violations s!"{field}.root") ++
      portViolations s!"{field}.port_mounts" 0 ports ++
      hostViolations s!"{field}.hosts" 0 hosts

def hostViolations (list : String) (position : Nat) : List HostNode → List Violation
  | [] => []
  | host :: rest =>
    host.violations (elementField list position) ++ hostViolations list (position + 1) rest

end

def groupViolations (position : Nat) : List GroupNode → List Violation
  | [] => []
  | group :: rest =>
    let field := elementField "host_groups" position
    nameViolations field group.name ++ hostViolations s!"{field}.hosts" 0 group.hosts ++
      groupViolations (position + 1) rest

def AdminSettings.violations (admin : AdminSettings) : List Violation :=
  if admin.enabled && Text.isBlankText admin.apiKey then [⟨"admin.api_key", .emptyApiKey⟩] else []

def ObservabilitySettings.violations (observability : ObservabilitySettings) : List Violation :=
  if observability.logFormat == "pretty" || observability.logFormat == "json" then []
  else [⟨"observability.log_format", .unknownLogFormat observability.logFormat⟩]

/-- Every value of a configuration that no build could use, in document
order, each with its place in the document. -/
def Configuration.violations (config : Configuration) : List Violation :=
  config.hosts.violations ++ siteViolations 0 [] config.sites ++
    groupViolations 0 config.hostGroups ++ config.admin.violations ++ config.observability.violations

def Configuration.isValid (config : Configuration) : Bool :=
  config.violations.isEmpty

end SiteRouting
