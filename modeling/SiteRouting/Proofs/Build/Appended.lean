import Mathlib
import SiteRouting.Proofs.Build.Reports
import SiteRouting.Proofs.Tree.Append

namespace SiteRouting

def MountPlace.behind (front : HostingTree) (place : MountPlace) : MountPlace where
  host := place.host.behind front
  port := place.port
  parent := place.parent.map (·.behind front)

def GroupPlace.behind (front : HostingTree) (place : GroupPlace) : GroupPlace :=
  { place with position := front.groups.size + place.position }

section Places

variable {front back : HostingTree}

theorem MountPlace.addMount_behind (place : MountPlace) (own : MountSettings)
    (properties : MountProperties) (content : ContentPaths) :
    (front.append back).addMount ((place.behind front).parent.map (·.id))
      ((place.behind front).detachedMount own properties content) =
      (back.addMount (place.parent.map (·.id)) (place.detachedMount own properties content)).map
        fun (tree, mount) => (front.append tree, mount.behind front) := by
  have parent : (place.behind front).parent.map (·.id) =
      (place.parent.map (·.id)).map (front.mounts.size + ·) := by
    rw [MountPlace.behind, Option.map_map, Option.map_map]
    rfl
  have path : (place.behind front).mountPath own.name = place.mountPath own.name := by
    rw [MountPlace.mountPath, MountPlace.mountPath, MountPlace.behind]
    cases place.parent <;> rfl
  have detached : (place.behind front).detachedMount own properties content =
      { place.detachedMount own properties content with
        host := front.hosts.size + (place.detachedMount own properties content).host } := by
    simp only [MountPlace.detachedMount, path]
    rfl
  rw [parent, detached]
  exact HostingTree.addMount_append _ rfl

theorem GroupPlace.addHost_behind (group : GroupPlace) (parent : Option VirtualHost) (label : String)
    (properties : NodeProperties) :
    (front.append back).addHost (group.behind front).position ((parent.map (·.behind front)).map (·.id))
      (.detached label (parent.map (·.behind front)) group.name group.cmsLocation properties) =
      (back.addHost group.position (parent.map (·.id))
        (.detached label parent group.name group.cmsLocation properties)).map
        fun (tree, linked) => (front.append tree, linked.behind front) := by
  have above : (parent.map (·.behind front)).map (·.id) =
      (parent.map (·.id)).map (front.hosts.size + ·) := by
    rw [Option.map_map, Option.map_map]
    rfl
  have detached : VirtualHost.detached label (parent.map (·.behind front)) group.name group.cmsLocation
      properties = .detached label parent group.name group.cmsLocation properties := by
    cases parent <;> rfl
  rw [above, detached]
  exact HostingTree.addHost_append group.position _ rfl rfl

theorem GroupPlace.addHostChain_behind (group : GroupPlace) (properties : NodeProperties)
    (parent : Option VirtualHost) (labels : List String) :
    (front.append back).addHostChain (group.behind front) properties (parent.map (·.behind front)) labels =
      (back.addHostChain group properties parent labels).map
        fun (tree, last) => (front.append tree, last.map (·.behind front)) := by
  induction labels generalizing back parent with
  | nil => rfl
  | cons label rest ih =>
    have name : (group.behind front).name = group.name := rfl
    have cmsLocation : (group.behind front).cmsLocation = group.cmsLocation := rfl
    rw [HostingTree.addHostChain, HostingTree.addHostChain, name, cmsLocation]
    dsimp only
    rw [GroupPlace.addHost_behind group parent label properties]
    cases back.addHost group.position (parent.map (·.id))
        (.detached label parent group.name group.cmsLocation properties) with
    | error fault => rfl
    | ok grown => exact ih (some grown.2)

end Places

section Mounts

variable {sites : List SiteNode} {front : HostingTree} {larger alone : BuildState}

theorem BuildState.attachMount_behind (tree : larger.tree = front.append alone.tree) (place : MountPlace)
    (above : MountProperties) (location : String) (own : MountSettings) :
    ∃ grown next mount, alone.attachMount sites place above location own = (next, mount) ∧
      larger.attachMount sites (place.behind front) above location own =
        (grown, mount.map (·.behind front)) ∧ grown.tree = front.append next.tree := by
  cases derived : (own.propertiesBelow above).contentPaths sites with
  | error fault =>
    rw [BuildState.attachMount_of_refused larger derived, BuildState.attachMount_of_refused alone derived]
    exact ⟨_, _, none, rfl, rfl, tree⟩
  | ok found =>
    obtain ⟨content, warnings⟩ := found
    have behind : larger.tree.addMount ((place.behind front).parent.map (·.id)) _ = _ :=
      tree ▸ place.addMount_behind own (own.propertiesBelow above) content
    cases added : alone.tree.addMount (place.parent.map (·.id))
        (place.detachedMount own (own.propertiesBelow above) content) with
    | error fault =>
      rw [added] at behind
      rw [BuildState.attachMount_of_taken larger derived behind,
        BuildState.attachMount_of_taken alone derived added]
      exact ⟨_, _, none, rfl, rfl, tree⟩
    | ok grown =>
      rw [added] at behind
      rw [BuildState.attachMount_of_added larger derived behind,
        BuildState.attachMount_of_added alone derived added]
      exact ⟨_, _, some grown.2, rfl, rfl, rfl⟩

mutual

theorem BuildState.buildMount_behind {larger alone : BuildState}
    (tree : larger.tree = front.append alone.tree) (place : MountPlace) (above : MountProperties)
    (location : String) : (node : MountNode) →
    ∃ grown next mount, alone.buildMount sites place above location node = (next, mount) ∧
      larger.buildMount sites (place.behind front) above location node =
        (grown, mount.map (·.behind front)) ∧ grown.tree = front.append next.tree
  | .node own mounts => by
    obtain ⟨grown, next, mount, attached, attachedBehind, sameTree⟩ :=
      BuildState.attachMount_behind tree place above s!"{location}/{own.name}" own
    unfold BuildState.buildMount
    dsimp only
    rw [attached, attachedBehind]
    cases mount with
    | none => exact ⟨grown, next, none, rfl, rfl, sameTree⟩
    | some mount =>
      have below := BuildState.buildMounts_behind sameTree { place with parent := some mount }
        mount.properties s!"{location}/{own.name}" mounts
      exact ⟨_, _, some mount, rfl, rfl, below⟩

theorem BuildState.buildMounts_behind {larger alone : BuildState}
    (tree : larger.tree = front.append alone.tree) (place : MountPlace) (above : MountProperties)
    (location : String) : (nodes : List MountNode) →
    (larger.buildMounts sites (place.behind front) above location nodes).tree =
      front.append (alone.buildMounts sites place above location nodes).tree
  | [] => by
    unfold BuildState.buildMounts
    exact tree
  | node :: rest => by
    obtain ⟨grown, next, mount, built, builtBehind, sameTree⟩ :=
      BuildState.buildMount_behind tree place above location node
    unfold BuildState.buildMounts
    rw [built, builtBehind]
    exact BuildState.buildMounts_behind sameTree place above location rest

end

theorem BuildState.bindPort_behind (tree : larger.tree = front.append alone.tree) (host : VirtualHost)
    (location : String) (entry : PortMount) :
    (larger.bindPort (host.behind front) location (entry.behind front)).tree =
      front.append (alone.bindPort host location entry).tree := by
  have behind : larger.tree.addPortMount (host.behind front).id (entry.behind front) = _ :=
    tree ▸ HostingTree.addPortMount_append host.id entry
  unfold BuildState.bindPort
  rw [behind]
  cases alone.tree.addPortMount host.id entry with
  | error fault => exact tree
  | ok grown => rfl

theorem BuildState.buildPort_behind (tree : larger.tree = front.append alone.tree) (host : VirtualHost)
    (location : String) (node : PortNode) :
    (larger.buildPort sites (host.behind front) location node).tree =
      front.append (alone.buildPort sites host location node).tree := by
  have bound : larger.tree.hasPortMount (host.behind front).id node.port =
      alone.tree.hasPortMount host.id node.port := by
    rw [tree]
    exact HostingTree.hasPortMount_append host.id node.port
  by_cases taken : alone.tree.hasPortMount host.id node.port
  · rw [BuildState.buildPort_of_bound larger (bound ▸ taken), BuildState.buildPort_of_bound alone taken]
    exact tree
  have free : ¬ larger.tree.hasPortMount (host.behind front).id node.port := bound ▸ taken
  cases isRoot : node.root with
  | none =>
    rw [BuildState.buildPort_of_rootless larger free isRoot,
      BuildState.buildPort_of_rootless alone taken isRoot]
    have reported (location : String) (bigger smaller : List Fault) :
        (larger.report location bigger).tree = front.append (alone.report location smaller).tree := tree
    exact BuildState.bindPort_behind (reported _ _ _) host _ ⟨node.port, none⟩
  | some root =>
    obtain ⟨grown, next, mount, built, builtBehind, sameTree⟩ := BuildState.buildMount_behind tree
      { host, port := node.port } (.ofHost host.properties) s!"{location}:{node.port}" root
    cases mount with
    | none =>
      rw [BuildState.buildPort_of_skipped larger free isRoot builtBehind,
        BuildState.buildPort_of_skipped alone taken isRoot built]
      exact sameTree
    | some mount =>
      rw [BuildState.buildPort_of_built larger free isRoot builtBehind,
        BuildState.buildPort_of_built alone taken isRoot built]
      exact BuildState.bindPort_behind sameTree host _ ⟨node.port, some mount.id⟩

theorem BuildState.buildPorts_behind (tree : larger.tree = front.append alone.tree) (host : VirtualHost)
    (location : String) (nodes : List PortNode) :
    (nodes.foldl (BuildState.buildPort sites (host.behind front) location) larger).tree =
      front.append (nodes.foldl (BuildState.buildPort sites host location) alone).tree := by
  induction nodes generalizing larger alone with
  | nil => exact tree
  | cons node rest ih => exact ih (BuildState.buildPort_behind tree host location node)

end Mounts

section Hosts

variable {sites : List SiteNode} {front : HostingTree} {group : GroupPlace}

theorem BuildState.attachHost_behind {larger alone after : BuildState} {parent answer : Option VirtualHost}
    {above : NodeProperties} {own : HostSettings} {ports : List PortNode}
    (tree : larger.tree = front.append alone.tree)
    (attached : larger.attachHost sites (group.behind front) (parent.map (·.behind front)) above own ports =
      .ok (after, answer)) :
    ∃ built host, alone.attachHost sites group parent above own ports = .ok (built, host) ∧
      after.tree = front.append built.tree ∧ answer = host.map (·.behind front) := by
  cases labelled : nodeLabels own.name with
  | error fault =>
    simp only [BuildState.attachHost, labelled, Except.ok.injEq, Prod.mk.injEq] at attached ⊢
    obtain ⟨rfl, rfl⟩ := attached
    exact ⟨_, _, ⟨rfl, rfl⟩, tree, rfl⟩
  | ok labels =>
    obtain ⟨grown, chain⟩ := BuildState.chain_of_attachHost larger labelled attached
    have behind : larger.tree.addHostChain (group.behind front) (own.propertiesBelow above)
        (parent.map (·.behind front)) labels = _ :=
      tree ▸ group.addHostChain_behind (own.propertiesBelow above) parent labels
    cases built : alone.tree.addHostChain group (own.propertiesBelow above) parent labels with
    | error fault =>
      rw [built, chain] at behind
      cases behind
    | ok linked =>
      obtain ⟨next, last⟩ := linked
      rw [built] at behind
      cases last with
      | none =>
        simp only [BuildState.attachHost, labelled, BuildState.report] at attached ⊢
        rw [behind] at attached
        rw [built]
        cases attached
        exact ⟨_, _, rfl, rfl, rfl⟩
      | some host =>
        rw [BuildState.attachHost_of_chain larger labelled behind] at attached
        rw [BuildState.attachHost_of_chain alone labelled built]
        cases attached
        exact ⟨_, _, rfl, BuildState.buildPorts_behind rfl host _ ports, rfl⟩

mutual

theorem BuildState.buildHost_behind {larger alone after : BuildState} {parent : Option VirtualHost}
    {above : NodeProperties} (tree : larger.tree = front.append alone.tree) : (node : HostNode) →
    larger.buildHost sites (group.behind front) (parent.map (·.behind front)) above node = .ok after →
    ∃ built, alone.buildHost sites group parent above node = .ok built ∧
      after.tree = front.append built.tree
  | .node own root ports hosts, run => by
    unfold BuildState.buildHost at run
    split at run
    · cases run
    · rename_i next attached
      cases run
      obtain ⟨built, host, attachedAlone, sameTree, noHost⟩ := BuildState.attachHost_behind tree attached
      rw [eq_comm, Option.map_eq_none_iff] at noHost
      subst noHost
      refine ⟨built, ?_, sameTree⟩
      unfold BuildState.buildHost
      rw [attachedAlone]
    · rename_i next linked attached
      obtain ⟨built, host, attachedAlone, sameTree, isLast⟩ := BuildState.attachHost_behind tree attached
      obtain ⟨last, rfl, rfl⟩ := Option.map_eq_some_iff.mp isLast.symm
      have inner : next.buildHosts sites (group.behind front) ((some last).map (·.behind front))
          last.properties hosts = .ok after := run
      obtain ⟨finished, builtAlone, finishedTree⟩ := BuildState.buildHosts_behind sameTree hosts inner
      refine ⟨finished, ?_, finishedTree⟩
      unfold BuildState.buildHost
      rw [attachedAlone]
      exact builtAlone

theorem BuildState.buildHosts_behind {larger alone after : BuildState} {parent : Option VirtualHost}
    {above : NodeProperties} (tree : larger.tree = front.append alone.tree) : (nodes : List HostNode) →
    larger.buildHosts sites (group.behind front) (parent.map (·.behind front)) above nodes = .ok after →
    ∃ built, alone.buildHosts sites group parent above nodes = .ok built ∧
      after.tree = front.append built.tree
  | [], run => by
    unfold BuildState.buildHosts at run ⊢
    cases run
    exact ⟨alone, rfl, tree⟩
  | node :: rest, run => by
    unfold BuildState.buildHosts at run
    split at run
    · cases run
    · rename_i next first
      obtain ⟨middle, firstAlone, middleTree⟩ := BuildState.buildHost_behind tree node first
      obtain ⟨finished, restAlone, finishedTree⟩ := BuildState.buildHosts_behind middleTree rest run
      refine ⟨finished, ?_, finishedTree⟩
      unfold BuildState.buildHosts
      rw [firstAlone]
      exact restAlone

end

/-- A group that is built behind a tree can be built alone, and its nodes are
those of that build, moved behind the nodes that are there. Nothing that a
build has made before changes what becomes of the next group. -/
theorem BuildState.buildGroup_behind {larger alone after : BuildState} {above : NodeProperties}
    {group : GroupNode} (tree : larger.tree = front.append alone.tree)
    (run : larger.buildGroup sites above group = .ok after) :
    ∃ built, alone.buildGroup sites above group = .ok built ∧ after.tree = front.append built.tree := by
  unfold BuildState.buildGroup at run
  dsimp only at run
  split at run
  · cases run
  rename_i grown added
  have sameTree : (larger.report group.name group.faults).tree = front.append alone.tree := tree
  rw [sameTree] at added
  have free : front.group? group.name = none := by
    have unused := (HostingTree.addGroup_eq_ok.mp added).1
    rw [HostingTree.group?, HostingTree.append, Array.find?_append, Option.or_eq_none_iff] at unused
    exact unused.1
  rw [HostingTree.addGroup_append _ free] at added
  cases addedAlone : alone.tree.addGroup group.name group.usableCmsLocation with
  | error fault =>
    rw [addedAlone] at added
    cases added
  | ok single =>
    rw [addedAlone] at added
    cases added
    have position : (larger.report group.name group.faults).tree.groups.size =
        front.groups.size + alone.tree.groups.size := by
      rw [sameTree]
      simp [HostingTree.append]
    rw [position] at run
    let place : GroupPlace := ⟨alone.tree.groups.size, group.name, group.usableCmsLocation⟩
    let start : BuildState := { alone.report group.name group.faults with tree := single }
    have hosts : BuildState.buildHosts sites (place.behind front) ((none : Option VirtualHost).map
        (·.behind front)) above { larger.report group.name group.faults with tree := front.append single }
        group.hosts = .ok after := run
    have grownTree : front.append single = front.append start.tree := rfl
    obtain ⟨built, hostsAlone, finishedTree⟩ := BuildState.buildHosts_behind grownTree group.hosts hosts
    refine ⟨built, ?_, finishedTree⟩
    unfold BuildState.buildGroup
    have addedToo : (alone.report group.name group.faults).tree.addGroup group.name
        group.usableCmsLocation = .ok single := addedAlone
    simp only [addedToo]
    exact hostsAlone

end Hosts

def Configuration.withGroup (config : Configuration) (group : GroupNode) : Configuration :=
  { config with hostGroups := config.hostGroups ++ [group] }

def Configuration.onlyGroup (config : Configuration) (group : GroupNode) : Configuration :=
  { config with hostGroups := [group] }

section Configurations

variable {config : Configuration} {group : GroupNode} {small larger : BuildState}

theorem BuildState.buildGroups_concat {sites : List SiteNode} {above : NodeProperties}
    {state after : BuildState} (groups : List GroupNode) (last : GroupNode) :
    state.buildGroups sites above (groups ++ [last]) = .ok after ↔
      ∃ middle, state.buildGroups sites above groups = .ok middle ∧
        middle.buildGroup sites above last = .ok after := by
  induction groups generalizing state with
  | nil =>
    simp only [List.nil_append, BuildState.buildGroups, Except.ok.injEq, exists_eq_left']
    cases state.buildGroup sites above last <;> rfl
  | cons first rest ih =>
    simp only [List.cons_append, BuildState.buildGroups]
    cases state.buildGroup sites above first with
    | error issues => simp
    | ok next => exact ih

/-- With one more group a build goes on where it ended, and puts the
group behind the others. -/
theorem Configuration.assemble_withGroup (assembled : config.assemble = .ok small)
    (assembledToo : (config.withGroup group).assemble = .ok larger) :
    larger.Reports small ∧ ∃ alone, (config.onlyGroup group).assemble = .ok alone ∧
      larger.tree = small.tree.append alone.tree := by
  obtain ⟨middle, first, last⟩ := (BuildState.buildGroups_concat config.hostGroups group).mp assembledToo
  cases assembled.symm.trans first
  constructor
  · have leaves : small.Leaves (.ok larger) := last ▸ BuildState.buildGroup_leaves _ group
    cases leaves with
    | goesOn reports => exact reports
  · let start : BuildState := BuildState.report {} defaultsLocation config.hosts.faults
    have empty : small.tree = small.tree.append start.tree := small.tree.append_empty.symm
    obtain ⟨alone, builtAlone, tree⟩ := BuildState.buildGroup_behind empty last
    exact ⟨alone, (BuildState.buildGroups_concat [] group).mpr ⟨start, rfl, builtAlone⟩, tree⟩

end Configurations

end SiteRouting
