import Mathlib
import SiteRouting.Proofs.Build.Attachment

namespace SiteRouting

/-- Two builds side by side: one of a configuration and one of what stays of
it when it is pruned. They share the tree and the index, and only the first
one reports what was cut off. Beside them stand the lineages of all hosts and
mounts in the order in which they were linked. -/
structure TwinBuild where
  tree : HostingTree := {}
  index : MountIndex := {}
  issues : List Issue := []
  keptIssues : List Issue := []
  cuts : List Cut := []
  hosts : List HostLineage := []
  mounts : List MountLineage := []

def TwinBuild.whole (twin : TwinBuild) : BuildState where
  tree := twin.tree
  index := twin.index
  issues := twin.issues

def TwinBuild.kept (twin : TwinBuild) : BuildState where
  tree := twin.tree
  index := twin.index
  issues := twin.keptIssues

def TwinBuild.note (twin : TwinBuild) (location : String) (faults : List Fault) : TwinBuild :=
  { twin with
    issues := twin.issues ++ issuesAt location faults
    keptIssues := twin.keptIssues ++ issuesAt location faults }

/-- Only the whole configuration has a subtree that is left out, and the
faults of its first node. -/
def TwinBuild.skip (twin : TwinBuild) (notes : List Fault) (cut : Cut) : TwinBuild :=
  { twin with
    issues := twin.issues ++ issuesAt cut.issue.location (notes ++ [cut.issue.fault])
    cuts := twin.cuts ++ [cut] }

def TwinBuild.withHost (twin : TwinBuild) (tree : HostingTree) (lineage : HostLineage) : TwinBuild :=
  { twin with tree, hosts := twin.hosts ++ [lineage] }

def TwinBuild.withMount (twin : TwinBuild) (tree : HostingTree) (mount : Mount) (lineage : MountLineage)
    (notes : List Fault) : TwinBuild :=
  { twin.note lineage.location (notes ++ (twin.index.add tree mount).2) with
    tree
    index := (twin.index.add tree mount).1
    mounts := twin.mounts ++ [lineage] }

/-- A host is as its lineage says, in its group, its name and its properties. -/
structure HostLineage.Describes (lineage : HostLineage) (config : Configuration) (host : VirtualHost) :
    Prop where
  group : host.group = lineage.group
  name : lineage.labels.head? = some host.name
  hostName : host.hostName = lineage.hostName
  properties : host.properties = lineage.properties config.hosts

/-- A mount is as its lineage says. What it does not share with the mounts
below comes from its own settings. -/
structure MountLineage.Describes (lineage : MountLineage) (config : Configuration) (mount : Mount) :
    Prop where
  group : mount.group = lineage.host.group
  port : mount.port = lineage.port
  mountPath : mount.mountPath = lineage.mountPath
  properties : mount.properties = lineage.properties config.hosts
  settings : ∃ own, lineage.nodes.head? = some own ∧ mount.name = own.name ∧
    mount.identifier = own.identifier.getD lineage.derivedIdentifier ∧
    mount.aliasName = own.aliasName.map Text.lowercase ∧ mount.customProperties = own.customProperties
  content : ∃ warnings, mount.properties.contentPaths config.sites = .ok (mount.content, warnings)

section Describes

variable {config : Configuration}

theorem HostLineage.Describes.isLabelled {lineage : HostLineage} {host : VirtualHost}
    (described : lineage.Describes config host) : lineage.labels.isEmpty = false := by
  cases labels : lineage.labels with
  | nil => simpa [labels] using described.name
  | cons first rest => rfl

theorem MountLineage.Describes.isEntered {lineage : MountLineage} {mount : Mount}
    (described : lineage.Describes config mount) : lineage.nodes.isEmpty = false := by
  obtain ⟨own, isFirst, _⟩ := described.settings
  cases nodes : lineage.nodes with
  | nil => simp [nodes] at isFirst
  | cons first rest => rfl

theorem HostLineage.describes_unlinked_iff {lineage : HostLineage} {host : VirtualHost} :
    lineage.Describes config host.unlinked ↔ lineage.Describes config host :=
  ⟨fun told => ⟨told.group, told.name, told.hostName, told.properties⟩,
    fun told => ⟨told.group, told.name, told.hostName, told.properties⟩⟩

theorem MountLineage.describes_unlinked_iff {lineage : MountLineage} {mount : Mount} :
    lineage.Describes config mount.unlinked ↔ lineage.Describes config mount :=
  ⟨fun told => ⟨told.group, told.port, told.mountPath, told.properties, told.settings, told.content⟩,
    fun told => ⟨told.group, told.port, told.mountPath, told.properties, told.settings, told.content⟩⟩

end Describes

structure TwinBuild.HostHeld (twin : TwinBuild) (config : Configuration) (host : VirtualHost)
    (lineage : HostLineage) : Prop where
  listed : twin.hosts[host.id]? = some lineage
  described : lineage.Describes config host

structure TwinBuild.MountHeld (twin : TwinBuild) (config : Configuration) (mount : Mount)
    (lineage : MountLineage) : Prop where
  listed : twin.mounts[mount.id]? = some lineage
  held : twin.tree.HoldsMount mount
  described : lineage.Describes config mount

structure TwinBuild.HostPlaced (twin : TwinBuild) (config : Configuration) (place : GroupPlace)
    (parent : Option VirtualHost) (above : HostLineage) : Prop where
  group : place.name = above.group
  top : parent = none → above.labels = [] ∧ above.nodes = []
  below : ∀ host, parent = some host → twin.HostHeld config host above

structure TwinBuild.MountPlaced (twin : TwinBuild) (config : Configuration) (place : MountPlace)
    (above : MountLineage) : Prop where
  host : twin.HostHeld config place.host above.host
  port : place.port = above.port
  top : place.parent = none → above.nodes = []
  below : ∀ mount, place.parent = some mount → twin.MountHeld config mount above

/-- A lineage is the one above or begins with a node below it. -/
def HostLineage.Enters (lineage above : HostLineage) : Prop :=
  lineage = above ∨ ∃ own, lineage = above.withNode own

/-- What happens in both builds next: they find the same faults, a subtree is
left out of the one that has it, or both link the same node. -/
inductive TwinBuild.Step (config : Configuration) : TwinBuild → TwinBuild → Prop where
  | noted {twin : TwinBuild} {faults : List Fault} (location : String) (notes : AreNotes faults) :
      TwinBuild.Step config twin (twin.note location faults)
  | skipped {twin : TwinBuild} {faults : List Fault} {cut : Cut} (notes : AreNotes faults)
      (severe : cut.issue.fault.cutsOff = true) : TwinBuild.Step config twin (twin.skip faults cut)
  | groupAdded {twin : TwinBuild} {tree : HostingTree} {name : String} {cmsLocation : Option String}
      (added : twin.tree.addGroup name cmsLocation = .ok tree) :
      TwinBuild.Step config twin { twin with tree }
  | hostAdded {twin : TwinBuild} {tree : HostingTree} {place : GroupPlace} {parent : Option VirtualHost}
      {above base : HostLineage} {label : String} {host : VirtualHost}
      (placed : twin.HostPlaced config place parent above) (entered : base.Enters above)
      (added : twin.tree.addHost place.position (parent.map (·.id))
        (.detached label parent place.name place.cmsLocation (base.properties config.hosts)) =
          .ok (tree, host)) :
      TwinBuild.Step config twin (twin.withHost tree (base.withLabel label))
  | mountAdded {twin : TwinBuild} {tree : HostingTree} {place : MountPlace} {above : MountLineage}
      {own : MountSettings} {content : ContentPaths} {warnings : List Fault} {mount : Mount}
      (placed : twin.MountPlaced config place above)
      (derived : ((above.below own).properties config.hosts).contentPaths config.sites =
        .ok (content, warnings))
      (added : twin.tree.addMount (place.parent.map (·.id))
        (place.detachedMount own ((above.below own).properties config.hosts) content) = .ok (tree, mount)) :
      TwinBuild.Step config twin
        (twin.withMount tree mount (above.below own) (own.faults ++ warnings))
  | portBound {twin : TwinBuild} {tree : HostingTree} {host : HostId} {entry : PortMount}
      (added : twin.tree.addPortMount host entry = .ok tree) :
      TwinBuild.Step config twin { twin with tree }

abbrev TwinBuild.Reaches (config : Configuration) : TwinBuild → TwinBuild → Prop :=
  Relation.ReflTransGen (TwinBuild.Step config)

/-- There is one lineage for every host and every mount of the tree. -/
structure TwinBuild.Counted (twin : TwinBuild) : Prop where
  hosts : twin.hosts.length = twin.tree.hosts.size
  mounts : twin.mounts.length = twin.tree.mounts.size

structure TwinBuild.Extends (after before : TwinBuild) : Prop where
  tree : after.tree.Extends before.tree
  hosts : before.hosts <+: after.hosts
  mounts : before.mounts <+: after.mounts

section Sizes

variable {tree after : HostingTree}

theorem HostingTree.size_addHost {position : Nat} {parent : Option HostId} {host linked : VirtualHost}
    (added : tree.addHost position parent host = .ok (after, linked)) :
    after.hosts.size = tree.hosts.size + 1 ∧ after.mounts.size = tree.mounts.size := by
  have grown := (HostingTree.unlinked_addHost added).2
  have hosts := congrArg (·.hosts.size) grown
  have mounts := congrArg (·.mounts.size) grown
  simpa [HostingTree.unlinked] using And.intro hosts mounts

theorem HostingTree.size_addMount {parent : Option MountId} {mount linked : Mount}
    (added : tree.addMount parent mount = .ok (after, linked)) :
    after.hosts.size = tree.hosts.size ∧ after.mounts.size = tree.mounts.size + 1 := by
  have grown := (HostingTree.unlinked_addMount added).2
  have hosts := congrArg (·.hosts.size) grown
  have mounts := congrArg (·.mounts.size) grown
  simpa [HostingTree.unlinked] using And.intro hosts mounts

theorem HostingTree.size_addPortMount {host : HostId} {entry : PortMount}
    (added : tree.addPortMount host entry = .ok after) :
    after.hosts.size = tree.hosts.size ∧ after.mounts.size = tree.mounts.size := by
  have same := HostingTree.unlinked_addPortMount added
  have hosts := congrArg (·.hosts.size) same
  have mounts := congrArg (·.mounts.size) same
  simpa [HostingTree.unlinked] using And.intro hosts mounts

theorem HostingTree.size_addGroup {name : String} {cmsLocation : Option String}
    (added : tree.addGroup name cmsLocation = .ok after) :
    after.hosts.size = tree.hosts.size ∧ after.mounts.size = tree.mounts.size := by
  obtain ⟨_, rfl⟩ := HostingTree.addGroup_eq_ok.mp added
  exact ⟨rfl, rfl⟩

end Sizes

section Extends

variable {config : Configuration} {before after : TwinBuild}

theorem TwinBuild.Extends.refl (twin : TwinBuild) : twin.Extends twin :=
  ⟨.refl _, List.prefix_rfl, List.prefix_rfl⟩

theorem TwinBuild.Extends.trans {a b c : TwinBuild} (later : c.Extends b) (earlier : b.Extends a) :
    c.Extends a :=
  ⟨later.tree.trans earlier.tree, earlier.hosts.trans later.hosts, earlier.mounts.trans later.mounts⟩

theorem TwinBuild.Step.extends (step : TwinBuild.Step config before after) : after.Extends before := by
  cases step with
  | noted location notes => exact ⟨.refl _, List.prefix_rfl, List.prefix_rfl⟩
  | skipped notes severe => exact ⟨.refl _, List.prefix_rfl, List.prefix_rfl⟩
  | groupAdded added => exact ⟨HostingTree.extends_addGroup added, List.prefix_rfl, List.prefix_rfl⟩
  | hostAdded placed entered added =>
    exact ⟨HostingTree.extends_addHost added, List.prefix_append _ _, List.prefix_rfl⟩
  | mountAdded placed derived added =>
    exact ⟨HostingTree.extends_addMount added, List.prefix_rfl, List.prefix_append _ _⟩
  | portBound added => exact ⟨HostingTree.extends_addPortMount added, List.prefix_rfl, List.prefix_rfl⟩

theorem TwinBuild.Reaches.extends (reaches : TwinBuild.Reaches config before after) :
    after.Extends before := by
  induction reaches with
  | refl => exact .refl _
  | tail _ step ih => exact step.extends.trans ih

theorem TwinBuild.Step.counted (step : TwinBuild.Step config before after) (counted : before.Counted) :
    after.Counted := by
  cases step with
  | noted location notes => exact ⟨counted.hosts, counted.mounts⟩
  | skipped notes severe => exact ⟨counted.hosts, counted.mounts⟩
  | groupAdded added =>
    obtain ⟨hosts, mounts⟩ := HostingTree.size_addGroup added
    exact ⟨counted.hosts.trans hosts.symm, counted.mounts.trans mounts.symm⟩
  | hostAdded placed entered added =>
    obtain ⟨hosts, mounts⟩ := HostingTree.size_addHost added
    refine ⟨?_, counted.mounts.trans mounts.symm⟩
    simp [TwinBuild.withHost, hosts, counted.hosts]
  | mountAdded placed derived added =>
    obtain ⟨hosts, mounts⟩ := HostingTree.size_addMount added
    refine ⟨counted.hosts.trans hosts.symm, ?_⟩
    simp [TwinBuild.withMount, TwinBuild.note, mounts, counted.mounts]
  | portBound added =>
    obtain ⟨hosts, mounts⟩ := HostingTree.size_addPortMount added
    exact ⟨counted.hosts.trans hosts.symm, counted.mounts.trans mounts.symm⟩

theorem TwinBuild.Reaches.counted (reaches : TwinBuild.Reaches config before after)
    (counted : before.Counted) : after.Counted := by
  induction reaches with
  | refl => exact counted
  | tail _ step ih => exact step.counted ih

theorem getElem?_of_prefix {α : Type} {front all : List α} {i : Nat} {a : α} (isFront : front <+: all)
    (held : front[i]? = some a) : all[i]? = some a := by
  obtain ⟨rest, rfl⟩ := isFront
  exact List.getElem?_append_left (List.getElem?_eq_some_iff.mp held).1 ▸ held

theorem TwinBuild.HostHeld.extends {host : VirtualHost} {lineage : HostLineage}
    (held : before.HostHeld config host lineage) (grown : after.Extends before) :
    after.HostHeld config host lineage where
  listed := getElem?_of_prefix grown.hosts held.listed
  described := held.described

theorem TwinBuild.MountHeld.extends {mount : Mount} {lineage : MountLineage}
    (held : before.MountHeld config mount lineage) (grown : after.Extends before) :
    after.MountHeld config mount lineage where
  listed := getElem?_of_prefix grown.mounts held.listed
  held := grown.tree.mounts held.held
  described := held.described

theorem TwinBuild.HostPlaced.extends {place : GroupPlace} {parent : Option VirtualHost}
    {above : HostLineage} (placed : before.HostPlaced config place parent above)
    (grown : after.Extends before) : after.HostPlaced config place parent above where
  group := placed.group
  top := placed.top
  below host isParent := (placed.below host isParent).extends grown

theorem TwinBuild.MountPlaced.extends {place : MountPlace} {above : MountLineage}
    (placed : before.MountPlaced config place above) (grown : after.Extends before) :
    after.MountPlaced config place above where
  host := placed.host.extends grown
  port := placed.port
  top := placed.top
  below mount isParent := (placed.below mount isParent).extends grown

end Extends

section Placed

variable {config : Configuration} {twin : TwinBuild}

theorem TwinBuild.HostPlaced.inherited {place : GroupPlace} {parent : Option VirtualHost}
    {above : HostLineage} (placed : twin.HostPlaced config place parent above) :
    config.inherited parent = above.properties config.hosts := by
  cases parent with
  | none =>
    rw [HostLineage.properties, (placed.top rfl).2]
    rfl
  | some host => exact (placed.below host rfl).described.properties

theorem TwinBuild.MountPlaced.inherited {place : MountPlace} {above : MountLineage}
    (placed : twin.MountPlaced config place above) :
    place.inherited = above.properties config.hosts := by
  rw [MountPlace.inherited]
  cases parent : place.parent with
  | none =>
    rw [MountLineage.properties, placed.top parent, ← placed.host.described.properties]
    rfl
  | some mount => exact (placed.below mount parent).described.properties

theorem TwinBuild.MountPlaced.mountPath {place : MountPlace} {above : MountLineage}
    (placed : twin.MountPlaced config place above) (own : MountSettings) :
    place.mountPath own.name = (above.below own).mountPath := by
  rw [MountLineage.mountPath_below, MountPlace.mountPath]
  cases parent : place.parent with
  | none => simp [placed.top parent]
  | some mount =>
    have described := (placed.below mount parent).described
    simp [described.isEntered, described.mountPath]

theorem TwinBuild.HostPlaced.describes {place : GroupPlace} {parent : Option VirtualHost}
    {above base : HostLineage} {label : String} {tree : HostingTree} {host : VirtualHost}
    (placed : twin.HostPlaced config place parent above) (entered : base.Enters above)
    (added : twin.tree.addHost place.position (parent.map (·.id))
      (.detached label parent place.name place.cmsLocation (base.properties config.hosts)) =
        .ok (tree, host)) : (base.withLabel label).Describes config host := by
  have names : base.group = above.group ∧ base.labels = above.labels := by
    rcases entered with rfl | ⟨own, rfl⟩ <;> exact ⟨rfl, rfl⟩
  rw [(HostingTree.unlinked_addHost added).1]
  refine ⟨?_, rfl, ?_, rfl⟩
  · exact placed.group.trans names.1.symm
  · rw [HostLineage.hostName_withLabel]
    cases parent with
    | none =>
      simp [names.2, (placed.top rfl).1, VirtualHost.detached]
    | some host =>
      have described := (placed.below host rfl).described
      have labelled : base.labels.isEmpty = false := names.2 ▸ described.isLabelled
      have sameName : base.hostName = host.hostName := by
        rw [described.hostName, HostLineage.hostName, names.2, HostLineage.hostName]
      simp [labelled, sameName, VirtualHost.detached]

theorem TwinBuild.MountPlaced.describes {place : MountPlace} {above : MountLineage} {own : MountSettings}
    {content : ContentPaths} {warnings : List Fault} {tree : HostingTree} {mount : Mount}
    (placed : twin.MountPlaced config place above)
    (derived : ((above.below own).properties config.hosts).contentPaths config.sites =
      .ok (content, warnings))
    (added : twin.tree.addMount (place.parent.map (·.id))
      (place.detachedMount own ((above.below own).properties config.hosts) content) = .ok (tree, mount)) :
    (above.below own).Describes config mount := by
  rw [(HostingTree.unlinked_addMount added).1]
  refine ⟨placed.host.described.group, placed.port, placed.mountPath own, rfl, ?_, warnings, derived⟩
  refine ⟨own, rfl, rfl, ?_, rfl, rfl⟩
  simp only [MountPlace.detachedMount, MountPlace.identifierName, MountLineage.derivedIdentifier,
    placed.mountPath own, placed.host.described.group, placed.host.described.hostName, placed.port]
  rfl

end Placed

end SiteRouting
