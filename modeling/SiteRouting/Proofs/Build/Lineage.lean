import Mathlib
import SiteRouting.Build

namespace SiteRouting

/-- What a configuration says about a host: its group, the labels of its name
and the settings of the nodes that it descends from, its own first. What the
host is called, where it is reported, and which properties it has follow from
this alone. Without labels it stands for the top of the group. -/
structure HostLineage where
  group : String
  labels : List String := []
  nodes : List HostSettings := []
  deriving DecidableEq, Repr

def HostLineage.hostName (lineage : HostLineage) : String :=
  ".".intercalate lineage.labels

def HostLineage.location (lineage : HostLineage) : String :=
  s!"{lineage.group}/{lineage.hostName}"

def HostLineage.locationBelow (above : HostLineage) (name : String) : String :=
  if above.labels.isEmpty then s!"{above.group}/{name}" else s!"{above.group}/{name}.{above.hostName}"

/-- The properties that the settings of all nodes amount to, from the
defaults down. -/
def HostLineage.properties (lineage : HostLineage) (defaults : Defaults) : NodeProperties :=
  lineage.nodes.foldr HostSettings.propertiesBelow defaults.properties

def HostLineage.withNode (above : HostLineage) (own : HostSettings) : HostLineage :=
  { above with nodes := own :: above.nodes }

def HostLineage.withLabel (above : HostLineage) (label : String) : HostLineage :=
  { above with labels := Text.lowercase label :: above.labels }

/-- One lineage for each label of a node, each one below the one before, all
of them with the settings of that node. -/
def HostLineage.chain (above : HostLineage) : List String → List HostLineage
  | [] => []
  | label :: rest => above.withLabel label :: (above.withLabel label).chain rest

/-- The labels that a node adds to a name, the outermost one first;
none if it is no host. -/
def HostSettings.labels (own : HostSettings) : List String :=
  (nodeLabels own.name).toOption.getD []

/-- The last host of a node, below which its mounts and the hosts of
the nodes under it stand. -/
def HostLineage.below (above : HostLineage) (own : HostSettings) : HostLineage :=
  own.labels.foldl HostLineage.withLabel (above.withNode own)

/-- What a configuration says about a mount: its host and port, and the
settings of the nodes that it descends from, its own first. Without settings
it stands for the top of the port. -/
structure MountLineage where
  host : HostLineage
  port : Port
  nodes : List MountSettings := []
  deriving DecidableEq, Repr

def MountLineage.below (above : MountLineage) (own : MountSettings) : MountLineage :=
  { above with nodes := own :: above.nodes }

def MountLineage.location (lineage : MountLineage) : String :=
  lineage.nodes.foldr (fun own location => s!"{location}/{own.name}")
    s!"{lineage.host.location}:{lineage.port}"

/-- The path of a mount: the names of the mounts that it descends from,
without the root mount's. -/
def MountLineage.mountPath (lineage : MountLineage) : String :=
  lineage.nodes.dropLast.foldr (fun own path => s!"{path}/{own.name}") ""

def MountLineage.properties (lineage : MountLineage) (defaults : Defaults) : MountProperties :=
  lineage.nodes.foldr MountSettings.propertiesBelow (.ofHost (lineage.host.properties defaults))

def MountLineage.derivedIdentifier (lineage : MountLineage) : String :=
  Digest.uuidOfName s!"{lineage.host.group}/{lineage.host.hostName}:{lineage.port}{lineage.mountPath}"

mutual

def MountNode.lineages (above : MountLineage) : MountNode → List MountLineage
  | .node own mounts => above.below own :: MountNode.lineagesOfAll (above.below own) mounts

def MountNode.lineagesOfAll (above : MountLineage) : List MountNode → List MountLineage
  | [] => []
  | mount :: rest => mount.lineages above ++ MountNode.lineagesOfAll above rest

end

def PortNode.lineages (host : HostLineage) (node : PortNode) : List MountLineage :=
  match node.root with
  | none => []
  | some root => root.lineages { host, port := node.port }

mutual

/-- A host node and all nodes below it, every node before its children,
with the host above each. -/
def HostNode.preorder (above : HostLineage) : HostNode → List (HostLineage × HostNode)
  | .node own root ports hosts =>
    (above, .node own root ports hosts) :: HostNode.preorderOfAll (above.below own) hosts

def HostNode.preorderOfAll (above : HostLineage) : List HostNode → List (HostLineage × HostNode)
  | [] => []
  | host :: rest => host.preorder above ++ HostNode.preorderOfAll above rest

end

def HostNode.ownHosts (above : HostLineage) (node : HostNode) : List HostLineage :=
  (above.withNode node.settings).chain node.settings.labels

/-- The mounts of a node alone: the mount trees of its ports, the one
for any port first. -/
def HostNode.ownMounts (above : HostLineage) (node : HostNode) : List MountLineage :=
  node.portNodes.flatMap (PortNode.lineages (above.below node.settings))

def GroupNode.preorder (group : GroupNode) : List (HostLineage × HostNode) :=
  HostNode.preorderOfAll { group := group.name } group.hosts

def hostsOf (nodes : List (HostLineage × HostNode)) : List HostLineage :=
  nodes.flatMap fun (above, node) => node.ownHosts above

def mountsOf (nodes : List (HostLineage × HostNode)) : List MountLineage :=
  nodes.flatMap fun (above, node) => node.ownMounts above

def Configuration.hostLineages (config : Configuration) : List HostLineage :=
  hostsOf (config.hostGroups.flatMap GroupNode.preorder)

def Configuration.mountLineages (config : Configuration) : List MountLineage :=
  mountsOf (config.hostGroups.flatMap GroupNode.preorder)

theorem HostLineage.hostName_withLabel (above : HostLineage) (label : String) :
    (above.withLabel label).hostName =
      if above.labels.isEmpty then Text.lowercase label else s!"{Text.lowercase label}.{above.hostName}" := by
  unfold HostLineage.hostName HostLineage.withLabel
  cases above.labels with
  | nil => simp
  | cons first rest => simp [String.intercalate_cons_cons, toString]

theorem MountLineage.location_below (above : MountLineage) (own : MountSettings) :
    (above.below own).location = s!"{above.location}/{own.name}" :=
  rfl

theorem MountLineage.mountPath_below (above : MountLineage) (own : MountSettings) :
    (above.below own).mountPath =
      if above.nodes.isEmpty then "" else s!"{above.mountPath}/{own.name}" := by
  unfold MountLineage.mountPath MountLineage.below
  cases above.nodes with
  | nil => rfl
  | cons first rest => rfl

theorem nodeLabels_ne_nil {name : String} {labels : List String} (labelled : nodeLabels name = .ok labels) :
    labels ≠ [] := by
  have segments : hostLabels name ≠ [] := by
    simp [hostLabels, Text.splitAt, Text.segments_ne_nil]
  unfold nodeLabels addressSegments at labelled
  split at labelled
  · cases labelled
    simp
  · split at labelled
    · cases labelled
      simpa using segments
    · cases labelled

theorem HostSettings.labels_eq {own : HostSettings} {labels : List String}
    (labelled : nodeLabels own.name = .ok labels) : own.labels = labels := by
  rw [HostSettings.labels, labelled]
  rfl

end SiteRouting
