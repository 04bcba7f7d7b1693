import SiteRouting.Digest.Uuid
import SiteRouting.MountIndex
import SiteRouting.Tree.Growth
import SiteRouting.Url

namespace SiteRouting

/-- What a build has made so far, and the issues it has found, in the order
of discovery. A node that cannot be attached is reported there and left out
with everything below it. -/
structure BuildState where
  tree : HostingTree := {}
  index : MountIndex := {}
  issues : List Issue := []
  deriving DecidableEq, Repr

/-- A build that goes on, or the issues found by one that ended, the fatal
one last. Only a repeated name of a group or a host ends a build. -/
abbrev BuildResult := Except (List Issue) BuildState

def BuildState.report (state : BuildState) (location : String) (faults : List Fault) : BuildState :=
  { state with issues := state.issues ++ faults.map fun fault => ⟨location, fault⟩ }

/-- Where a mount is built: its host and port, and the mount above it. A root
mount has none above it and stands on top of its port. -/
structure MountPlace where
  host : VirtualHost
  port : Port
  parent : Option Mount := none

/-- The path of a mount: empty for a root mount, else its name behind
the path above. -/
def MountPlace.mountPath (place : MountPlace) (name : String) : String :=
  match place.parent with
  | none => ""
  | some above => s!"{above.mountPath}/{name}"

/-- The text that the identifier of a mount is derived from when it
configures none. -/
def MountPlace.identifierName (place : MountPlace) (mountPath : String) : String :=
  s!"{place.host.group}/{place.host.hostName}:{place.port}{mountPath}"

/-- A mount from its settings, not linked yet: its position and the link to
the mount above are set when it is added to the tree. -/
def MountPlace.detachedMount (place : MountPlace) (own : MountSettings)
    (properties : MountProperties) (content : ContentPaths) : Mount :=
  let mountPath := place.mountPath own.name
  { id := 0
    name := own.name
    identifier := own.identifier.getD (Digest.uuidOfName (place.identifierName mountPath))
    aliasName := own.aliasName.map Text.lowercase
    mountPath
    host := place.host.id
    group := place.host.group
    port := place.port
    properties
    content
    customProperties := own.customProperties }

/-- Builds, links and registers a single mount below the given properties.
Without a mount in the answer it was left out. -/
def BuildState.attachMount (state : BuildState) (sites : List SiteNode) (place : MountPlace)
    (above : MountProperties) (location : String) (own : MountSettings) :
    BuildState × Option Mount :=
  let properties := own.propertiesBelow above
  let state := state.report location own.toNodeSettings.faults
  match properties.contentPaths sites with
  | .error fault => (state.report location [fault], none)
  | .ok (content, warnings) =>
    let state := state.report location warnings
    match state.tree.addMount (place.parent.map (·.id)) (place.detachedMount own properties content) with
    | .error fault => (state.report location [fault], none)
    | .ok (tree, mount) =>
      let (index, conflicts) := state.index.add tree mount
      ({ state with tree, index }.report location conflicts, some mount)

mutual

/-- Builds a mount before its children, the children in declared order. A
mount that is left out takes everything below it along. -/
def BuildState.buildMount (sites : List SiteNode) (place : MountPlace) (above : MountProperties)
    (location : String) (state : BuildState) : MountNode → BuildState × Option Mount
  | .node own mounts =>
    let location := s!"{location}/{own.name}"
    match state.attachMount sites place above location own with
    | (state, none) => (state, none)
    | (state, some mount) =>
      (state.buildMounts sites { place with parent := some mount } mount.properties location mounts,
        some mount)

def BuildState.buildMounts (sites : List SiteNode) (place : MountPlace) (above : MountProperties)
    (location : String) (state : BuildState) : List MountNode → BuildState
  | [] => state
  | mount :: rest =>
    (state.buildMount sites place above location mount).1.buildMounts sites place above location rest

end

def BuildState.bindPort (state : BuildState) (host : VirtualHost) (location : String)
    (entry : PortMount) : BuildState :=
  match state.tree.addPortMount host.id entry with
  | .error fault => state.report location [fault]
  | .ok tree => { state with tree }

/-- Builds the mount tree of a port. An entry without a root mount is
reported and kept, one whose root mount is left out is not. -/
def BuildState.buildPort (sites : List SiteNode) (host : VirtualHost) (location : String)
    (state : BuildState) (node : PortNode) : BuildState :=
  let location := s!"{location}:{node.port}"
  if state.tree.hasPortMount host.id node.port then
    state.report location [.duplicatePortMount host.hostName node.port]
  else match node.root with
    | none =>
      (state.report location [.missingRootMount host.hostName node.port]).bindPort host location
        ⟨node.port, none⟩
    | some root =>
      match state.buildMount sites { host, port := node.port } (.ofHost host.properties) location root with
      | (state, none) => state
      | (state, some mount) => state.bindPort host location ⟨node.port, some mount.id⟩

/-- The group that hosts are built into: its position and what they
take from it. -/
structure GroupPlace where
  position : Nat
  name : String
  cmsLocation : Option String

/-- Links a host for each label, each one below the one before.
Answers the last one. -/
def HostingTree.addHostChain (tree : HostingTree) (group : GroupPlace) (properties : NodeProperties)
    (parent : Option VirtualHost) : List String → Except Fault (HostingTree × Option VirtualHost)
  | [] => .ok (tree, parent)
  | label :: rest =>
    let host := VirtualHost.detached label parent group.name group.cmsLocation properties
    match tree.addHost group.position (parent.map (·.id)) host with
    | .error fault => .error fault
    | .ok (tree, host) => tree.addHostChain group properties (some host) rest

/-- Where a host is built, as shown in issues before it is linked: its group,
and the full name that it would have. -/
def hostLocation (group name : String) (parent : Option VirtualHost) : String :=
  match parent with
  | none => s!"{group}/{name}"
  | some above => s!"{group}/{name}.{above.hostName}"

/-- Builds and links the hosts of one configuration node, with their mount
trees. Without a host in the answer the node was left out. -/
def BuildState.attachHost (state : BuildState) (sites : List SiteNode) (group : GroupPlace)
    (parent : Option VirtualHost) (above : NodeProperties) (own : HostSettings)
    (ports : List PortNode) : Except (List Issue) (BuildState × Option VirtualHost) :=
  let location := hostLocation group.name own.name parent
  match nodeLabels own.name with
  | .error fault => .ok (state.report location [fault], none)
  | .ok labels =>
    let state := state.report location own.toNodeSettings.faults
    match state.tree.addHostChain group (own.propertiesBelow above) parent labels with
    | .error fault => .error (state.report location [fault]).issues
    | .ok (tree, none) => .ok ({ state with tree }, none)
    | .ok (tree, some host) =>
      let location := s!"{group.name}/{host.hostName}"
      .ok (ports.foldl (BuildState.buildPort sites host location) { state with tree }, some host)

mutual

/-- Builds a host, then its mount trees with the one for any port first, and
then the hosts below it in declared order. -/
def BuildState.buildHost (sites : List SiteNode) (group : GroupPlace) (parent : Option VirtualHost)
    (above : NodeProperties) (state : BuildState) : HostNode → BuildResult
  | .node own root ports hosts =>
    match state.attachHost sites group parent above own (HostNode.portNodes (.node own root ports hosts)) with
    | .error issues => .error issues
    | .ok (state, none) => .ok state
    | .ok (state, some host) => state.buildHosts sites group (some host) host.properties hosts

def BuildState.buildHosts (sites : List SiteNode) (group : GroupPlace) (parent : Option VirtualHost)
    (above : NodeProperties) (state : BuildState) : List HostNode → BuildResult
  | [] => .ok state
  | host :: rest =>
    match state.buildHost sites group parent above host with
    | .error issues => .error issues
    | .ok state => state.buildHosts sites group parent above rest

end

/-- The location of the content management system as far as it can be used.
One that is no absolute URL is reported and not set. -/
def GroupNode.usableCmsLocation (group : GroupNode) : Option String :=
  group.cmsLocation.filter Url.isAbsolute

def GroupNode.faults (group : GroupNode) : List Fault :=
  match group.cmsLocation with
  | none => []
  | some location => if Url.isAbsolute location then [] else [.invalidCmsLocation location]

def BuildState.buildGroup (sites : List SiteNode) (above : NodeProperties) (state : BuildState)
    (group : GroupNode) : BuildResult :=
  let state := state.report group.name group.faults
  match state.tree.addGroup group.name group.usableCmsLocation with
  | .error fault => .error (state.report group.name [fault]).issues
  | .ok tree =>
    let place := ⟨state.tree.groups.size, group.name, group.usableCmsLocation⟩
    { state with tree }.buildHosts sites place none above group.hosts

def BuildState.buildGroups (sites : List SiteNode) (above : NodeProperties) (state : BuildState) :
    List GroupNode → BuildResult
  | [] => .ok state
  | group :: rest =>
    match state.buildGroup sites above group with
    | .error issues => .error issues
    | .ok state => state.buildGroups sites above rest

def defaultsLocation : String := "hosts"

/-- Builds everything that a configuration describes, its groups and their nodes
in declared order, on top of the properties that follow from the defaults. -/
def Configuration.assemble (config : Configuration) : BuildResult :=
  let start : BuildState := {}
  (start.report defaultsLocation config.hosts.faults).buildGroups config.sites
    config.hosts.properties config.hostGroups

inductive BuildPolicy where
  /-- Fatal ones only. -/
  | lenient
  /-- Errors as well. -/
  | strict
  deriving DecidableEq, Repr

def BuildPolicy.refuses : BuildPolicy → Severity
  | .lenient => .fatal
  | .strict => .error

def issuesOf : BuildResult → List Issue
  | .error issues => issues
  | .ok state => state.issues

/-- The outcome of a build under a policy: the finished state, or all
issues if it is refused. -/
def BuildPolicy.judge (policy : BuildPolicy) : BuildResult → BuildResult
  | .error issues => .error issues
  | .ok state =>
    if (issuesAtLeast policy.refuses state.issues).isEmpty then .ok state else .error state.issues

/-- The text shown for a refused build: the issues that are more than warnings. -/
def refusalText (issues : List Issue) : String :=
  let blocking := (issuesAtLeast .error issues).map Issue.text
  "hosting configuration rejected: " ++ ", ".intercalate blocking

end SiteRouting
