import Mathlib
import SiteRouting.Proofs.Build.IgnoredValues
import SiteRouting.Proofs.Build.Pruning

namespace SiteRouting

def HostLineage.withoutIgnored (lineage : HostLineage) : HostLineage :=
  { lineage with nodes := lineage.nodes.map HostSettings.withoutIgnored }

def MountLineage.withoutIgnored (lineage : MountLineage) : MountLineage where
  host := lineage.host.withoutIgnored
  port := lineage.port
  nodes := lineage.nodes.map MountSettings.withoutIgnored

def Branch.withoutIgnored : Branch → Branch
  | .host node => .host node.withoutIgnored
  | .port node => .port node.withoutIgnored
  | .mount node => .mount node.withoutIgnored

def Cut.withoutIgnored (cut : Cut) : Cut :=
  { cut with branch := cut.branch.withoutIgnored }

/-- What stays and what is cut off, both without the values in vain. -/
def Pruned.withoutIgnored {α : Type} (clean : α → α) (pruned : Pruned α) : Pruned α :=
  ⟨clean pruned.kept, pruned.cuts.map Cut.withoutIgnored⟩

def cleanedOutcome {α : Type} (clean : α → α) : Except Cut (Pruned α) → Except Cut (Pruned α)
  | .error cut => .error cut.withoutIgnored
  | .ok here => .ok (here.withoutIgnored clean)

section Lineages

variable (defaults : Defaults)

theorem HostLineage.unrestricted_withoutIgnored (lineage : HostLineage) :
    (lineage.withoutIgnored.properties defaults).unrestricted = (lineage.properties defaults).unrestricted := by
  rw [HostLineage.properties, HostLineage.properties, HostLineage.withoutIgnored, List.foldr_map]
  induction lineage.nodes with
  | nil => rfl
  | cons own rest ih => exact own.unrestricted_below ih

theorem MountLineage.unrestricted_withoutIgnored (lineage : MountLineage) :
    (lineage.withoutIgnored.properties defaults).unrestricted = (lineage.properties defaults).unrestricted := by
  rw [MountLineage.properties, MountLineage.properties, MountLineage.withoutIgnored, List.foldr_map]
  induction lineage.nodes with
  | nil => exact MountProperties.unrestricted_ofHost (lineage.host.unrestricted_withoutIgnored defaults)
  | cons own rest ih => exact own.unrestricted_below ih

theorem HostLineage.withoutIgnored_below (above : HostLineage) (own : HostSettings) :
    (above.below own).withoutIgnored = above.withoutIgnored.below own.withoutIgnored := by
  have labels : own.withoutIgnored.labels = own.labels := rfl
  have start : above.withoutIgnored.withNode own.withoutIgnored = (above.withNode own).withoutIgnored := rfl
  rw [HostLineage.below, HostLineage.below, labels, start]
  generalize above.withNode own = base
  induction own.labels generalizing base with
  | nil => rfl
  | cons label rest ih => exact ih (base.withLabel label)

theorem MountLineage.location_withoutIgnored (lineage : MountLineage) :
    lineage.withoutIgnored.location = lineage.location := by
  rw [MountLineage.location, MountLineage.location, MountLineage.withoutIgnored, List.foldr_map]
  rfl

theorem MountLineage.mountPath_withoutIgnored (lineage : MountLineage) :
    lineage.withoutIgnored.mountPath = lineage.mountPath := by
  rw [MountLineage.mountPath, MountLineage.mountPath, MountLineage.withoutIgnored, ← List.map_dropLast,
    List.foldr_map]
  rfl

end Lineages

theorem Pruned.cons_withoutIgnored {α : Type} {clean : α → α} {cleanAll : List α → List α}
    (here : Pruned α) (others : Pruned (List α)) (cons : ∀ node rest, cleanAll (node :: rest) =
      clean node :: cleanAll rest) :
    (here.withoutIgnored clean).cons (others.withoutIgnored cleanAll) =
      (here.cons others).withoutIgnored cleanAll := by
  rw [Pruned.cons, Pruned.withoutIgnored, Pruned.withoutIgnored, Pruned.withoutIgnored, Pruned.cons]
  simp only [cons, List.map_append]

section Mounts

variable (config : Configuration)

theorem MountLineage.obstacle?_withoutIgnored (above : MountLineage) (own : MountSettings)
    (siblings : List String) :
    above.withoutIgnored.obstacle? config.withoutIgnored own.withoutIgnored siblings =
      above.obstacle? config own siblings := by
  have below : above.withoutIgnored.below own.withoutIgnored = (above.below own).withoutIgnored := rfl
  have content := MountProperties.contentPaths_of_unrestricted config.sites
    ((above.below own).unrestricted_withoutIgnored config.hosts)
  have name : own.withoutIgnored.name = own.name := rfl
  have hosts : config.withoutIgnored.hosts = config.hosts := rfl
  have sites : config.withoutIgnored.sites = config.sites := rfl
  rw [MountLineage.obstacle?, MountLineage.obstacle?, below, hosts, sites, content, name,
    MountLineage.mountPath_withoutIgnored]

mutual

theorem MountNode.prune_withoutIgnored (above : MountLineage) (siblings : List String) :
    (node : MountNode) →
    node.withoutIgnored.prune config.withoutIgnored above.withoutIgnored siblings =
      cleanedOutcome MountNode.withoutIgnored (node.prune config above siblings)
  | .node own mounts => by
    have below := MountNode.pruneAll_withoutIgnored (above.below own) [] mounts
    have same : above.withoutIgnored.below own.withoutIgnored = (above.below own).withoutIgnored := rfl
    unfold MountNode.withoutIgnored MountNode.prune
    rw [MountLineage.obstacle?_withoutIgnored, same, MountLineage.location_withoutIgnored]
    cases above.obstacle? config own siblings with
    | some fault => rfl
    | none =>
      dsimp only
      rw [below]
      rfl

theorem MountNode.pruneAll_withoutIgnored (above : MountLineage) (siblings : List String) :
    (nodes : List MountNode) →
    MountNode.pruneAll config.withoutIgnored above.withoutIgnored siblings
        (MountNode.withoutIgnoredInAll nodes) =
      (MountNode.pruneAll config above siblings nodes).withoutIgnored MountNode.withoutIgnoredInAll
  | [] => by
    unfold MountNode.withoutIgnoredInAll MountNode.pruneAll
    rfl
  | mount :: rest => by
    have name : mount.withoutIgnored.settings.name = mount.settings.name := by
      cases mount
      rfl
    unfold MountNode.withoutIgnoredInAll MountNode.pruneAll
    rw [MountNode.prune_withoutIgnored above siblings mount, name]
    cases mount.prune config above siblings with
    | error cut =>
      dsimp only [cleanedOutcome]
      rw [MountNode.pruneAll_withoutIgnored above siblings rest]
      rfl
    | ok here =>
      dsimp only [cleanedOutcome]
      rw [MountNode.pruneAll_withoutIgnored above (siblings ++ [mount.settings.name]) rest,
        Pruned.cons_withoutIgnored]
      intro node rest
      rw [MountNode.withoutIgnoredInAll]

end

end Mounts

section Hosts

variable (config : Configuration)

theorem PortNode.prune_withoutIgnored (host : HostLineage) (bound : List Port) (node : PortNode) :
    node.withoutIgnored.prune config.withoutIgnored host.withoutIgnored bound =
      cleanedOutcome PortNode.withoutIgnored (node.prune config host bound) := by
  have port : node.withoutIgnored.port = node.port := rfl
  have root : node.withoutIgnored.root = node.root.map MountNode.withoutIgnored := rfl
  rw [PortNode.prune, PortNode.prune, port, root]
  split
  · rfl
  · cases isRoot : node.root with
    | none => simp [cleanedOutcome, Pruned.withoutIgnored, PortNode.withoutIgnored, isRoot]
    | some mount =>
      have top : MountLineage.mk host.withoutIgnored node.port [] =
          (MountLineage.mk host node.port []).withoutIgnored := rfl
      dsimp only [Option.map_some]
      rw [top, MountNode.prune_withoutIgnored]
      cases mount.prune config ⟨host, node.port, []⟩ [] <;> rfl

theorem PortNode.pruneAll_withoutIgnored (host : HostLineage) (bound : List Port) (nodes : List PortNode) :
    PortNode.pruneAll config.withoutIgnored host.withoutIgnored bound (nodes.map PortNode.withoutIgnored) =
      (PortNode.pruneAll config host bound nodes).withoutIgnored (List.map PortNode.withoutIgnored) := by
  induction nodes generalizing bound with
  | nil => rfl
  | cons node rest ih =>
    have port : node.withoutIgnored.port = node.port := rfl
    rw [List.map_cons, PortNode.pruneAll, PortNode.pruneAll, PortNode.prune_withoutIgnored, port]
    cases node.prune config host bound with
    | error cut =>
      dsimp only [cleanedOutcome]
      rw [ih]
      rfl
    | ok here =>
      dsimp only [cleanedOutcome]
      rw [ih, Pruned.cons_withoutIgnored]
      exact fun _ _ => rfl

theorem rootEntries_withoutIgnored (root : Option MountNode) :
    rootEntries (root.map MountNode.withoutIgnored) = (rootEntries root).map PortNode.withoutIgnored := by
  cases root <;> rfl

mutual

theorem HostNode.prune_withoutIgnored (above : HostLineage) : (host : HostNode) →
    host.withoutIgnored.prune config.withoutIgnored above.withoutIgnored =
      cleanedOutcome HostNode.withoutIgnored (host.prune config above)
  | .node own root ports hosts => by
    have name : own.withoutIgnored.name = own.name := rfl
    have location : above.withoutIgnored.locationBelow own.name = above.locationBelow own.name := rfl
    unfold HostNode.withoutIgnored HostNode.prune
    rw [name, location, ← HostLineage.withoutIgnored_below]
    cases nodeLabels own.name with
    | error fault => rfl
    | ok labels =>
      dsimp only
      have boundPorts (entries : List PortNode) :
          (entries.map PortNode.withoutIgnored).map (·.port) = entries.map (·.port) := by
        rw [List.map_map]
        rfl
      have topRoot (entries : List PortNode) : (entries.map PortNode.withoutIgnored).head?.bind (·.root) =
          (entries.head?.bind (·.root)).map MountNode.withoutIgnored := by
        cases entries <;> rfl
      rw [rootEntries_withoutIgnored, PortNode.pruneAll_withoutIgnored]
      simp only [Pruned.withoutIgnored, boundPorts, topRoot, PortNode.pruneAll_withoutIgnored,
        HostNode.pruneAll_withoutIgnored (above.below own) hosts, cleanedOutcome, List.map_append,
        HostNode.withoutIgnored]

theorem HostNode.pruneAll_withoutIgnored (above : HostLineage) : (nodes : List HostNode) →
    HostNode.pruneAll config.withoutIgnored above.withoutIgnored (HostNode.withoutIgnoredInAll nodes) =
      (HostNode.pruneAll config above nodes).withoutIgnored HostNode.withoutIgnoredInAll
  | [] => by
    unfold HostNode.withoutIgnoredInAll HostNode.pruneAll
    rfl
  | host :: rest => by
    unfold HostNode.withoutIgnoredInAll HostNode.pruneAll
    rw [HostNode.prune_withoutIgnored above host]
    cases host.prune config above with
    | error cut =>
      dsimp only [cleanedOutcome]
      rw [HostNode.pruneAll_withoutIgnored above rest]
      rfl
    | ok here =>
      dsimp only [cleanedOutcome]
      rw [HostNode.pruneAll_withoutIgnored above rest, Pruned.cons_withoutIgnored]
      intro node others
      rw [HostNode.withoutIgnoredInAll]

end

/-- The values in vain decide nothing about what stays and what is cut off:
the same subtrees are cut off for the same reasons. -/
theorem Configuration.prune_withoutIgnored :
    config.withoutIgnored.prune = config.prune.withoutIgnored Configuration.withoutIgnored := by
  have groups (group : GroupNode) : group.withoutIgnored.prune config.withoutIgnored =
      (group.prune config).withoutIgnored GroupNode.withoutIgnored := by
    have top : HostLineage.mk group.name [] [] = (HostLineage.mk group.name [] []).withoutIgnored := rfl
    have name : group.withoutIgnored.name = group.name := rfl
    have hosts : group.withoutIgnored.hosts = HostNode.withoutIgnoredInAll group.hosts := rfl
    rw [GroupNode.prune, GroupNode.prune, name, hosts, top, HostNode.pruneAll_withoutIgnored]
    rfl
  have kept : (config.hostGroups.map GroupNode.withoutIgnored).map
        (fun group => (group.prune config.withoutIgnored).kept) =
      (config.hostGroups.map fun group => (group.prune config).kept).map GroupNode.withoutIgnored := by
    rw [List.map_map, List.map_map]
    exact List.map_congr_left fun group _ => congrArg Pruned.kept (groups group)
  have cuts : (config.hostGroups.map GroupNode.withoutIgnored).flatMap
        (fun group => (group.prune config.withoutIgnored).cuts) =
      (config.hostGroups.flatMap fun group => (group.prune config).cuts).map Cut.withoutIgnored := by
    rw [List.flatMap_map, List.map_flatMap]
    exact List.flatMap_congr fun group _ => congrArg Pruned.cuts (groups group)
  have all : config.withoutIgnored.hostGroups = config.hostGroups.map GroupNode.withoutIgnored := rfl
  rw [Configuration.prune, all, kept, cuts]
  rfl

end Hosts

def withoutIgnoredBeside (entry : HostLineage × HostNode) : HostLineage × HostNode :=
  (entry.1.withoutIgnored, entry.2.withoutIgnored)

section Listed

mutual

theorem MountNode.lineages_withoutIgnored (above : MountLineage) : (mount : MountNode) →
    mount.withoutIgnored.lineages above.withoutIgnored =
      (mount.lineages above).map MountLineage.withoutIgnored
  | .node own mounts => by
    have same : above.withoutIgnored.below own.withoutIgnored = (above.below own).withoutIgnored := rfl
    unfold MountNode.withoutIgnored MountNode.lineages
    rw [same, MountNode.lineagesOfAll_withoutIgnored (above.below own) mounts, List.map_cons]

theorem MountNode.lineagesOfAll_withoutIgnored (above : MountLineage) : (mounts : List MountNode) →
    MountNode.lineagesOfAll above.withoutIgnored (MountNode.withoutIgnoredInAll mounts) =
      (MountNode.lineagesOfAll above mounts).map MountLineage.withoutIgnored
  | [] => by
    unfold MountNode.withoutIgnoredInAll MountNode.lineagesOfAll
    rfl
  | mount :: rest => by
    unfold MountNode.withoutIgnoredInAll MountNode.lineagesOfAll
    rw [MountNode.lineages_withoutIgnored above mount, MountNode.lineagesOfAll_withoutIgnored above rest,
      List.map_append]

end

theorem PortNode.lineages_withoutIgnored (host : HostLineage) (node : PortNode) :
    node.withoutIgnored.lineages host.withoutIgnored =
      (node.lineages host).map MountLineage.withoutIgnored := by
  have root : node.withoutIgnored.root = node.root.map MountNode.withoutIgnored := rfl
  rw [PortNode.lineages, PortNode.lineages, root]
  cases node.root with
  | none => rfl
  | some mount => exact MountNode.lineages_withoutIgnored ⟨host, node.port, []⟩ mount

mutual

theorem HostNode.preorder_withoutIgnored (above : HostLineage) : (host : HostNode) →
    host.withoutIgnored.preorder above.withoutIgnored = (host.preorder above).map withoutIgnoredBeside
  | .node own root ports hosts => by
    unfold HostNode.withoutIgnored HostNode.preorder
    rw [← HostLineage.withoutIgnored_below, HostNode.preorderOfAll_withoutIgnored (above.below own) hosts,
      List.map_cons, withoutIgnoredBeside, HostNode.withoutIgnored]

theorem HostNode.preorderOfAll_withoutIgnored (above : HostLineage) : (hosts : List HostNode) →
    HostNode.preorderOfAll above.withoutIgnored (HostNode.withoutIgnoredInAll hosts) =
      (HostNode.preorderOfAll above hosts).map withoutIgnoredBeside
  | [] => by
    unfold HostNode.withoutIgnoredInAll HostNode.preorderOfAll
    rfl
  | host :: rest => by
    unfold HostNode.withoutIgnoredInAll HostNode.preorderOfAll
    rw [HostNode.preorder_withoutIgnored above host, HostNode.preorderOfAll_withoutIgnored above rest,
      List.map_append]

end

theorem HostNode.settings_withoutIgnored (host : HostNode) :
    host.withoutIgnored.settings = host.settings.withoutIgnored := by
  cases host
  rw [HostNode.withoutIgnored]
  rfl

theorem HostNode.ownHosts_withoutIgnored (above : HostLineage) (host : HostNode) :
    host.withoutIgnored.ownHosts above.withoutIgnored =
      (host.ownHosts above).map HostLineage.withoutIgnored := by
  have labels : host.settings.withoutIgnored.labels = host.settings.labels := rfl
  have start : above.withoutIgnored.withNode host.settings.withoutIgnored =
      (above.withNode host.settings).withoutIgnored := rfl
  rw [HostNode.ownHosts, HostNode.ownHosts, HostNode.settings_withoutIgnored, labels, start]
  generalize above.withNode host.settings = base
  induction host.settings.labels generalizing base with
  | nil => rfl
  | cons label rest ih => exact congrArg (List.cons _) (ih (base.withLabel label))

theorem HostNode.ownMounts_withoutIgnored (above : HostLineage) (host : HostNode) :
    host.withoutIgnored.ownMounts above.withoutIgnored =
      (host.ownMounts above).map MountLineage.withoutIgnored := by
  obtain ⟨own, root, ports, hosts⟩ := host
  have entries := HostNode.portNodes_withoutIgnored own root ports hosts
  rw [HostNode.ownMounts, HostNode.ownMounts, HostNode.settings_withoutIgnored,
    ← HostLineage.withoutIgnored_below, HostNode.withoutIgnored, entries, List.flatMap_map, List.map_flatMap]
  exact List.flatMap_congr fun node _ => PortNode.lineages_withoutIgnored _ node

theorem Configuration.preorder_withoutIgnored (config : Configuration) :
    config.withoutIgnored.hostGroups.flatMap GroupNode.preorder =
      (config.hostGroups.flatMap GroupNode.preorder).map withoutIgnoredBeside := by
  have all : config.withoutIgnored.hostGroups = config.hostGroups.map GroupNode.withoutIgnored := rfl
  rw [all, List.flatMap_map, List.map_flatMap]
  exact List.flatMap_congr fun group _ => HostNode.preorderOfAll_withoutIgnored ⟨group.name, [], []⟩ group.hosts

theorem Configuration.hostLineages_withoutIgnored (config : Configuration) :
    config.withoutIgnored.hostLineages = config.hostLineages.map HostLineage.withoutIgnored := by
  rw [Configuration.hostLineages, Configuration.hostLineages, hostsOf, hostsOf,
    Configuration.preorder_withoutIgnored, List.flatMap_map, List.map_flatMap]
  exact List.flatMap_congr fun entry _ => HostNode.ownHosts_withoutIgnored entry.1 entry.2

theorem Configuration.mountLineages_withoutIgnored (config : Configuration) :
    config.withoutIgnored.mountLineages = config.mountLineages.map MountLineage.withoutIgnored := by
  rw [Configuration.mountLineages, Configuration.mountLineages, mountsOf, mountsOf,
    Configuration.preorder_withoutIgnored, List.flatMap_map, List.map_flatMap]
  exact List.flatMap_congr fun entry _ => HostNode.ownMounts_withoutIgnored entry.1 entry.2

/-- The lineages of what stays without the values in vain are those of what
stays of the configuration itself, without these values. -/
theorem Configuration.keptLineages_withoutIgnored (config : Configuration) :
    config.withoutIgnored.prune.kept.hostLineages =
        config.prune.kept.hostLineages.map HostLineage.withoutIgnored ∧
      config.withoutIgnored.prune.kept.mountLineages =
        config.prune.kept.mountLineages.map MountLineage.withoutIgnored := by
  have kept : config.withoutIgnored.prune.kept = config.prune.kept.withoutIgnored :=
    congrArg Pruned.kept config.prune_withoutIgnored
  rw [kept, Configuration.hostLineages_withoutIgnored, Configuration.mountLineages_withoutIgnored]
  exact ⟨rfl, rfl⟩

end Listed

end SiteRouting
