import SiteRouting.Config
import SiteRouting.Text.Blank
import SiteRouting.Text.Ordered
import SiteRouting.Text.Segments

namespace SiteRouting

/-- The scheme of a registry that configures none, and of a host that
configures a blank one. -/
def defaultScheme : String := "http"

def liveType : String := "live"

def previewType : String := "preview"

/-- The codes that a request of another scheme can be answered with. -/
def supportedResponseCodes : List Nat := [200, 301, 302, 303, 307, 403, 404]

def isSupportedResponseCode (code : Nat) : Bool :=
  supportedResponseCodes.contains code

/-- Whether a text is a context path: a slash, and behind it one
segment, which may be empty. -/
def isContextPath (value : String) : Bool :=
  match value.toList with
  | '/' :: segment => !segment.contains '/'
  | _ => false

/-- The properties that hosts and mounts have in common, as they apply to a
node. Each node lays its own settings over the properties of the node
above, once, when it is built. -/
structure NodeProperties where
  scheme : String
  locale : Option String
  homepage : Option String
  pageNotFound : Option String
  contextPathInUrl : Bool
  portInUrl : Bool
  onlyForContextPath : Option String
  versionInPreviewHeader : Bool
  cacheable : Bool
  defaultResourceBundleId : Option String
  schemeNotMatchingResponseCode : Nat
  deriving DecidableEq, Repr

/-- The properties of a mount as they apply to it, the ones in common
with hosts and its own. -/
structure MountProperties extends NodeProperties where
  mountType : String
  /-- Further types as configured; they may repeat each other and the
  mount type. -/
  extraTypes : List String
  isMapped : Bool
  isSite : Bool
  namedPipeline : Option String
  embeddedMountPath : Option String
  mountPoint : Option String
  authenticated : Bool
  roles : List String
  users : List String
  subjectBasedSession : Bool
  sessionStateful : Bool
  formLoginPage : Option String
  defaultSitemapItemHandlerIds : List String
  deriving DecidableEq, Repr

/-- A scheme without surrounding blanks. If nothing is left of it, it
gives way to the fallback. -/
def schemeOr (fallback scheme : String) : String :=
  if (Text.trim scheme).isEmpty then fallback else Text.trim scheme

/-- The use that is made of a context path restriction: an empty one lifts the
restriction from above, and so does a malformed one, which is reported besides. -/
inductive ContextPathSetting where
  | inherited
  | lifted
  | restricted (path : String)
  | malformed (value : String)
  deriving DecidableEq, Repr

def ContextPathSetting.read : Option String → ContextPathSetting
  | none => .inherited
  | some value =>
    if value.isEmpty then .lifted
    else if isContextPath value then .restricted value
    else .malformed value

/-- The restriction that applies to a node below one with the given
restriction, and to the nodes further down that say nothing about it. -/
def ContextPathSetting.apply (inherited : Option String) : ContextPathSetting → Option String
  | .inherited => inherited
  | .lifted => none
  | .restricted path => some path
  | .malformed _ => none

def ContextPathSetting.faults : ContextPathSetting → List Fault
  | .malformed value => [.malformedContextPath value]
  | _ => []

/-- The code that applies below a node with the given one; an
unsupported code is passed over. -/
def responseCodeOr (inherited : Nat) : Option Nat → Nat
  | none => inherited
  | some code => if isSupportedResponseCode code then code else inherited

def responseCodeFaults : Option Nat → List Fault
  | none => []
  | some code => if isSupportedResponseCode code then [] else [.unsupportedResponseCode code]

/-- The faults in a node's settings, in the order in which they are reported:
first the restriction to a context path, then the response code. -/
def NodeSettings.faults (own : NodeSettings) : List Fault :=
  (ContextPathSetting.read own.onlyForContextPath).faults ++
    responseCodeFaults own.schemeNotMatchingResponseCode

/-- Settings laid over the properties from above. What a node does not set it
takes over; a blank scheme gives way to `blankScheme`. -/
def NodeProperties.overlay (above : NodeProperties) (own : NodeSettings) (blankScheme : String) :
    NodeProperties where
  scheme := (own.scheme.map (schemeOr blankScheme)).getD above.scheme
  locale := own.locale <|> above.locale
  homepage := own.homepage <|> above.homepage
  pageNotFound := own.pageNotFound <|> above.pageNotFound
  contextPathInUrl := own.showContextPath.getD above.contextPathInUrl
  portInUrl := own.showPort.getD above.portInUrl
  onlyForContextPath :=
    (ContextPathSetting.read own.onlyForContextPath).apply above.onlyForContextPath
  versionInPreviewHeader := own.versionInPreviewHeader.getD above.versionInPreviewHeader
  cacheable := own.cacheable.getD above.cacheable
  defaultResourceBundleId := own.defaultResourceBundleId <|> above.defaultResourceBundleId
  schemeNotMatchingResponseCode :=
    responseCodeOr above.schemeNotMatchingResponseCode own.schemeNotMatchingResponseCode

/-- The code for mismatching schemes when the defaults name an unsupported one. -/
def defaultResponseCode : Nat := 301

def Defaults.properties (defaults : Defaults) : NodeProperties where
  scheme := (defaults.scheme.map (schemeOr defaultScheme)).getD defaultScheme
  locale := defaults.locale
  homepage := defaults.homepage
  pageNotFound := defaults.pageNotFound
  contextPathInUrl := defaults.showContextPath
  portInUrl := defaults.showPort
  onlyForContextPath := (ContextPathSetting.read defaults.defaultContextPath).apply none
  versionInPreviewHeader := defaults.versionInPreviewHeader
  cacheable := defaults.cacheable
  defaultResourceBundleId := defaults.defaultResourceBundleId
  schemeNotMatchingResponseCode :=
    responseCodeOr defaultResponseCode (some defaults.schemeNotMatchingResponseCode)

/-- The faults in the defaults; here the response code is reported
first, before the context path. -/
def Defaults.faults (defaults : Defaults) : List Fault :=
  responseCodeFaults (some defaults.schemeNotMatchingResponseCode) ++
    (ContextPathSetting.read defaults.defaultContextPath).faults

/-- The properties of a host below the given ones. A blank scheme sets
the default scheme. -/
def HostSettings.propertiesBelow (own : HostSettings) (above : NodeProperties) : NodeProperties :=
  above.overlay own.toNodeSettings defaultScheme

/-- What a root mount inherits from its host, and fixed values for
what hosts do not have. -/
def MountProperties.ofHost (host : NodeProperties) : MountProperties where
  toNodeProperties := host
  mountType := liveType
  extraTypes := []
  isMapped := true
  isSite := true
  namedPipeline := none
  embeddedMountPath := none
  mountPoint := none
  authenticated := false
  roles := []
  users := []
  subjectBasedSession := false
  sessionStateful := false
  formLoginPage := none
  defaultSitemapItemHandlerIds := []

/-- The mount point below a mount that has one, which the settings may
replace; an empty setting clears it. -/
def mountPointOr (inherited : Option String) : Option String → Option String
  | none => inherited
  | some own => if own.isEmpty then none else some own

/-- The properties of a mount below the given ones. A blank scheme inherits. -/
def MountSettings.propertiesBelow (own : MountSettings) (above : MountProperties) : MountProperties where
  toNodeProperties := above.toNodeProperties.overlay own.toNodeSettings above.scheme
  mountType := own.mountType.getD above.mountType
  extraTypes := own.types.getD above.extraTypes
  isMapped := own.isMapped.getD above.isMapped
  isSite := own.isSite.getD above.isSite
  namedPipeline := own.namedPipeline <|> above.namedPipeline
  embeddedMountPath := own.embeddedMountPath <|> above.embeddedMountPath
  mountPoint := mountPointOr above.mountPoint own.mountPoint
  authenticated := own.authenticated.getD above.authenticated
  roles := (own.roles.map Text.orderedSet).getD above.roles
  users := (own.users.map Text.orderedSet).getD above.users
  subjectBasedSession := own.subjectBasedSession.getD above.subjectBasedSession
  sessionStateful := own.sessionStateful.getD above.sessionStateful
  formLoginPage := own.formLoginPage <|> above.formLoginPage
  defaultSitemapItemHandlerIds :=
    own.defaultSitemapItemHandlerIds.getD above.defaultSitemapItemHandlerIds

/-- The mount type and then the further types as they are configured,
each once. -/
def MountProperties.types (properties : MountProperties) : List String :=
  Text.firstOccurrences (properties.mountType :: properties.extraTypes)

end SiteRouting
