import SiteRouting.Issue

namespace SiteRouting

/-- The keys that hosts and mounts have in common. A key that is none is not
set, and the node takes its value from above. -/
structure NodeSettings where
  scheme : Option String := none
  locale : Option String := none
  homepage : Option String := none
  pageNotFound : Option String := none
  showContextPath : Option Bool := none
  showPort : Option Bool := none
  onlyForContextPath : Option String := none
  versionInPreviewHeader : Option Bool := none
  cacheable : Option Bool := none
  defaultResourceBundleId : Option String := none
  schemeNotMatchingResponseCode : Option Nat := none
  deriving DecidableEq, Repr

/-- The keys of a host, those in common with mounts and those of its own. -/
structure HostSettings extends NodeSettings where
  name : String := ""
  deriving DecidableEq, Repr

def rootMountName : String := "hst:root"

/-- The keys of a mount, those in common with hosts and those of its own. -/
structure MountSettings extends NodeSettings where
  name : String := rootMountName
  identifier : Option String := none
  aliasName : Option String := none
  mountPoint : Option String := none
  mountType : Option String := none
  types : Option (List String) := none
  isMapped : Option Bool := none
  isSite : Option Bool := none
  namedPipeline : Option String := none
  embeddedMountPath : Option String := none
  authenticated : Option Bool := none
  roles : Option (List String) := none
  users : Option (List String) := none
  subjectBasedSession : Option Bool := none
  sessionStateful : Option Bool := none
  formLoginPage : Option String := none
  defaultSitemapItemHandlerIds : Option (List String) := none
  /-- Free-form properties; each key occurs once. -/
  customProperties : List (String × String) := []
  deriving DecidableEq, Repr

/-- A mount and the mounts below it, which continue its path and inherit what
they do not set themselves. -/
inductive MountNode where
  | node (settings : MountSettings) (mounts : List MountNode)
  deriving Repr

/-- The mount tree bound to a port; without a root the port is taken
and leads nowhere. -/
structure PortNode where
  port : Port
  root : Option MountNode := none
  deriving Repr

/-- A host, its mount tree for any port, those for single ports, and
the hosts below it. -/
inductive HostNode where
  | node (settings : HostSettings) (root : Option MountNode) (ports : List PortNode)
      (hosts : List HostNode)
  deriving Repr

/-- A named partition of the hosts. Hosts of one name in different groups
have nothing to do with each other. -/
structure GroupNode where
  name : String
  cmsLocation : Option String := none
  hosts : List HostNode := []
  deriving Repr

/-- A place that mount points can refer to by its path, with the
content that is shown there. -/
structure SiteNode where
  path : String
  contentPath : String
  canonicalContentPath : Option String := none
  deriving DecidableEq, Repr

/-- What holds for the whole registry. These settings are the end of every
chain of inheritance, where no node on it sets a property. -/
structure Defaults where
  defaultHostName : Option String := none
  scheme : Option String := none
  locale : Option String := none
  homepage : Option String := none
  pageNotFound : Option String := none
  showContextPath : Bool := true
  showPort : Bool := true
  defaultContextPath : Option String := none
  versionInPreviewHeader : Bool := true
  cacheable : Bool := false
  defaultResourceBundleId : Option String := none
  schemeNotMatchingResponseCode : Nat := 301
  cmsPreviewPath : Option String := none
  channelManagerHostGroup : Option String := none
  channelManagerSites : Option String := none
  excludedBeginnings : List String := []
  excludedEndings : List String := []
  maxCachedHosts : Nat := 10000
  deriving DecidableEq, Repr

structure AdminSettings where
  enabled : Bool := false
  apiKey : String := "CHANGE_ME_IN_PRODUCTION"
  bindAddress : String := "127.0.0.1:8081"
  requestTimeoutSeconds : Nat := 10
  deriving DecidableEq, Repr

structure ObservabilitySettings where
  logLevel : String := "info"
  logFormat : String := "pretty"
  metricsEnabled : Bool := false
  metricsAddress : String := "0.0.0.0:9090"
  deriving DecidableEq, Repr

/-- A whole document: the defaults, the site roots that mount points
refer to, and the host groups with their forests of hosts, below which
stand the trees of mounts. -/
structure Configuration where
  hosts : Defaults := {}
  sites : List SiteNode := []
  hostGroups : List GroupNode := []
  admin : AdminSettings := {}
  observability : ObservabilitySettings := {}
  deriving Repr

def MountNode.settings : MountNode → MountSettings
  | .node settings _ => settings

def MountNode.mounts : MountNode → List MountNode
  | .node _ mounts => mounts

def MountNode.named (name : String) : MountNode :=
  .node { name } []

def HostNode.settings : HostNode → HostSettings
  | .node settings _ _ _ => settings

def HostNode.root : HostNode → Option MountNode
  | .node _ root _ _ => root

def HostNode.ports : HostNode → List PortNode
  | .node _ _ ports _ => ports

def HostNode.hosts : HostNode → List HostNode
  | .node _ _ _ hosts => hosts

/-- Every port entry of a host: its own root mount serves any port and
stands first. -/
def HostNode.portNodes : HostNode → List PortNode
  | .node _ root ports _ => (root.toList.map fun mount => ⟨anyPort, some mount⟩) ++ ports

end SiteRouting
