import SiteRouting.Content
import SiteRouting.HostName

namespace SiteRouting

abbrev HostId := Nat

abbrev MountId := Nat

/-- A partition of the hosts and the hosts on top of it by their labels. -/
structure HostGroup where
  name : String
  cmsLocation : Option String
  roots : List (String × HostId) := []
  deriving DecidableEq, Repr

/-- The entry of a host for a port. An entry without a root mount
leads nowhere. -/
structure PortMount where
  port : Port
  root : Option MountId
  deriving DecidableEq, Repr

/-- One label of a host name. Its children are found by their labels and
stand in the order in which they were attached. -/
structure VirtualHost where
  id : HostId
  name : String
  hostName : String
  group : String
  cmsLocation : Option String
  parent : Option HostId := none
  children : List (String × HostId) := []
  portMounts : List (Port × PortMount) := []
  properties : NodeProperties
  deriving DecidableEq, Repr

/-- One segment of a mount path, with the mounts below it by their names in
the order in which they were attached. -/
structure Mount where
  id : MountId
  name : String
  identifier : String
  aliasName : Option String
  mountPath : String
  parent : Option MountId := none
  children : List (String × MountId) := []
  host : HostId
  group : String
  port : Port
  properties : MountProperties
  content : ContentPaths
  customProperties : List (String × String)
  deriving DecidableEq, Repr

/-- All groups in declared order, all hosts and all mounts in the order of
their registration. Hosts and mounts live in two arenas and refer to each
other by their positions there. -/
structure HostingTree where
  groups : Array HostGroup := #[]
  hosts : Array VirtualHost := #[]
  mounts : Array Mount := #[]
  deriving DecidableEq, Repr

def HostGroup.root? (group : HostGroup) (label : String) : Option HostId :=
  group.roots.lookup label

def VirtualHost.child? (host : VirtualHost) (label : String) : Option HostId :=
  host.children.lookup label

def VirtualHost.isWildcard (host : VirtualHost) : Bool :=
  host.name == wildcardLabel

def VirtualHost.portMount? (host : VirtualHost) (port : Port) : Option PortMount :=
  host.portMounts.lookup port

def VirtualHost.rootMount? (host : VirtualHost) (port : Port) : Option MountId :=
  (host.portMount? port).bind (·.root)

def Mount.child? (mount : Mount) (name : String) : Option MountId :=
  mount.children.lookup name

def Mount.isRoot (mount : Mount) : Bool :=
  mount.parent.isNone

def Mount.types (mount : Mount) : List String :=
  mount.properties.types

/-- The group of a name; names of groups are unique in a built tree. -/
def HostingTree.group? (tree : HostingTree) (name : String) : Option HostGroup :=
  tree.groups.find? (·.name == name)

def HostingTree.host? (tree : HostingTree) (id : HostId) : Option VirtualHost :=
  tree.hosts[id]?

def HostingTree.mount? (tree : HostingTree) (id : MountId) : Option Mount :=
  tree.mounts[id]?

def HostingTree.childHost? (tree : HostingTree) (host : VirtualHost) (label : String) :
    Option VirtualHost :=
  (host.child? label).bind tree.host?

def HostingTree.childMount? (tree : HostingTree) (mount : Mount) (name : String) : Option Mount :=
  (mount.child? name).bind tree.mount?

/-- The host name, port and path of a mount, as shown in messages. -/
def HostingTree.describeMount (tree : HostingTree) (mount : Mount) : String :=
  let hostName := ((tree.host? mount.host).map (·.hostName)).getD ""
  s!"{hostName}:{mount.port}{mount.mountPath}"

end SiteRouting
