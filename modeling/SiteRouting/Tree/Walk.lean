import SiteRouting.Tree

namespace SiteRouting

/-- Descends from a host by labels, the next one first. A child of the
same name is preferred; without one the wildcard child ends the walk and
takes all remaining labels. -/
def HostingTree.descend (tree : HostingTree) (host : VirtualHost) : List String → Option VirtualHost
  | [] => some host
  | label :: rest =>
    match host.child? label with
    | none => tree.childHost? host wildcardLabel
    | some id =>
      match tree.host? id with
      | none => none
      | some child => tree.descend child rest

/-- The host of a group for the labels of a request, the most specific one
first. The last label has to be the name of a root host. -/
def HostingTree.findHost (tree : HostingTree) (group : HostGroup) (labels : List String) :
    Option VirtualHost :=
  match labels.reverse with
  | [] => none
  | last :: rest =>
    match (group.root? last).bind tree.host? with
    | none => none
    | some root => tree.descend root rest

/-- The mounts met on a walk down a mount tree by the segments of a request
path, while children of their names exist, the deepest one first. -/
def HostingTree.mountTrail (tree : HostingTree) (trail : List Mount) (mount : Mount) :
    List String → List Mount
  | [] => mount :: trail
  | segment :: rest =>
    match tree.childMount? mount segment with
    | none => mount :: trail
    | some child => tree.mountTrail (mount :: trail) child rest

def pathSegments (path : String) : List String :=
  match Text.stripChars (· == '/') path.toList with
  | [] => []
  | stripped => (Text.segments '/' stripped).map String.ofList

def Mount.serves (mount : Mount) (contextPath : Option String) : Bool :=
  match contextPath, mount.properties.onlyForContextPath with
  | some requested, some only => only == requested
  | _, _ => true

/-- The mount for a request path below a root mount: the deepest one on the path
that serves the context path. An empty context path means the root context. -/
def HostingTree.mountFor? (tree : HostingTree) (root : Mount) (contextPath : Option String)
    (path : String) : Option Mount :=
  let contextPath := contextPath.map fun requested => if requested.isEmpty then "/" else requested
  (tree.mountTrail [] root (pathSegments path)).find? (·.serves contextPath)

end SiteRouting
