import SiteRouting.Tree

namespace SiteRouting

/-- Adds a group behind the others. Like every step that lets a tree grow,
this links one new node or, when its name or port is taken among its
siblings, refuses and leaves the tree as it is. -/
def HostingTree.addGroup (tree : HostingTree) (name : String) (cmsLocation : Option String) :
    Except Fault HostingTree :=
  if (tree.group? name).isSome then .error (.duplicateHostGroup name)
  else .ok { tree with groups := tree.groups.push { name, cmsLocation } }

/-- A node for a label below a host or, without one, on top of a
group; it is not linked yet. -/
def VirtualHost.detached (label : String) (parent : Option VirtualHost) (group : String)
    (cmsLocation : Option String) (properties : NodeProperties) : VirtualHost :=
  let name := Text.lowercase label
  { id := 0
    name
    hostName := match parent with
      | none => name
      | some above => s!"{name}.{above.hostName}"
    group
    cmsLocation
    properties }

def HostingTree.addRootHost (tree : HostingTree) (group : Nat) (host : VirtualHost) :
    Except Fault (HostingTree × VirtualHost) :=
  let taken := (tree.groups[group]?.bind (·.root? host.name)).isSome
  if taken then .error (.duplicateHost host.group host.hostName)
  else
    let linked := { host with id := tree.hosts.size, parent := none }
    .ok ({ tree with
      groups := tree.groups.modify group fun g => { g with roots := g.roots ++ [(host.name, linked.id)] }
      hosts := tree.hosts.push linked }, linked)

def HostingTree.addChildHost (tree : HostingTree) (parent : HostId) (host : VirtualHost) :
    Except Fault (HostingTree × VirtualHost) :=
  let taken := ((tree.host? parent).bind (·.child? host.name)).isSome
  if taken then .error (.duplicateHost host.group host.hostName)
  else
    let linked := { host with id := tree.hosts.size, parent := some parent }
    .ok ({ tree with
      hosts := (tree.hosts.modify parent fun above =>
        { above with children := above.children ++ [(host.name, linked.id)] }).push linked }, linked)

/-- Adds a host below another one or, without one, on top of the group
at a position. -/
def HostingTree.addHost (tree : HostingTree) (group : Nat) (parent : Option HostId) (host : VirtualHost) :
    Except Fault (HostingTree × VirtualHost) :=
  match parent with
  | none => tree.addRootHost group host
  | some above => tree.addChildHost above host

def HostingTree.hasPortMount (tree : HostingTree) (host : HostId) (port : Port) : Bool :=
  ((tree.host? host).bind (·.portMount? port)).isSome

def HostingTree.addPortMount (tree : HostingTree) (host : HostId) (entry : PortMount) :
    Except Fault HostingTree :=
  if tree.hasPortMount host entry.port then
    .error (.duplicatePortMount (((tree.host? host).map (·.hostName)).getD "") entry.port)
  else .ok { tree with
    hosts := tree.hosts.modify host fun h =>
      { h with portMounts := h.portMounts ++ [(entry.port, entry)] } }

/-- Adds a mount below another one or, without one, as the root of a
mount tree. -/
def HostingTree.addMount (tree : HostingTree) (parent : Option MountId) (mount : Mount) :
    Except Fault (HostingTree × Mount) :=
  let linked := { mount with id := tree.mounts.size, parent }
  match parent with
  | none => .ok ({ tree with mounts := tree.mounts.push linked }, linked)
  | some above =>
    if ((tree.mount? above).bind (·.child? mount.name)).isSome then
      .error (.duplicateMount (((tree.mount? above).map (·.mountPath)).getD "") mount.name)
    else .ok ({ tree with
      mounts := (tree.mounts.modify above fun m =>
        { m with children := m.children ++ [(mount.name, linked.id)] }).push linked }, linked)

end SiteRouting
