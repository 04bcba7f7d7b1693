import Mathlib
import SiteRouting.Proofs.Build.Trace

namespace SiteRouting

/-- What building one mount, with or without the mounts below it, does: the steps
lead on, no host changes, and the mount that it answers is in its place. -/
structure BuildState.MountBuilt (config : Configuration) (place : MountPlace) (waiting : Option MountId)
    (before after : BuildState) (answer : Option Mount) : Prop where
  reaches : Draft.Reaches config ⟨before, waiting⟩
    ⟨after, (answer.map fun mount => place.waiting mount waiting).getD waiting⟩
  hosts : after.tree.hosts = before.tree.hosts
  held : ∀ mount, answer = some mount → after.tree.HoldsMount mount ∧
    mount.parent = place.parent.map (·.id) ∧ mount.host = place.host.id ∧
    mount.group = place.host.group ∧ mount.port = place.port

section Mounts

variable {config : Configuration} {place : MountPlace} {waiting : Option MountId}

theorem HostingTree.hosts_addMount {tree after : HostingTree} {parent : Option MountId}
    {mount linked : Mount} (added : tree.addMount parent mount = .ok (after, linked)) :
    after.hosts = tree.hosts := by
  cases parent with
  | none =>
    obtain ⟨_, rfl⟩ := HostingTree.addRootMount_eq_ok.mp added
    rfl
  | some above =>
    obtain ⟨_, _, rfl⟩ := HostingTree.addChildMount_eq_ok.mp added
    rfl

theorem BuildState.reported_step {before : BuildState} (location : String) (faults : List Fault) :
    Draft.Reaches config ⟨before, waiting⟩ ⟨before.report location faults, waiting⟩ :=
  .single (.reported location faults)

theorem BuildState.attachMount_built {state : BuildState} {node : MountNode} (location : String)
    (declared : config.DeclaresMount node) (held : state.tree.HoldsMountPlace place)
    (free : place.parent = none → waiting = none) :
    BuildState.MountBuilt config place waiting state
      (state.attachMount config.sites place place.inherited location node.settings).1
      (state.attachMount config.sites place place.inherited location node.settings).2 := by
  unfold BuildState.attachMount
  dsimp only
  have start : Draft.Reaches config ⟨state, waiting⟩
      ⟨state.report location node.settings.faults, waiting⟩ := BuildState.reported_step _ _
  cases derived : (node.settings.propertiesBelow place.inherited).contentPaths config.sites with
  | error fault =>
    refine ⟨start.trans (BuildState.reported_step _ _), rfl, ?_⟩
    intro mount isMount
    cases isMount
  | ok found =>
    obtain ⟨content, warnings⟩ := found
    have warned := start.trans (BuildState.reported_step location warnings)
    dsimp only
    cases added : HostingTree.addMount _ _ _ with
    | error fault =>
      refine ⟨warned.trans (BuildState.reported_step _ _), rfl, ?_⟩
      intro mount isMount
      cases isMount
    | ok attached =>
      obtain ⟨tree, mount⟩ := attached
      refine ⟨warned.tail (.mountAdded location declared held free rfl derived added), ?_, ?_⟩
      · exact HostingTree.hosts_addMount added
      · intro same isMount
        cases isMount
        refine ⟨HostingTree.holdsMount_addMount added, ?_⟩
        rw [(HostingTree.unlinked_addMount added).1]
        exact ⟨rfl, rfl, rfl, rfl⟩

theorem BuildState.MountBuilt.holdsPlace {before after : BuildState} {answer : Option Mount}
    {mount : Mount} (built : BuildState.MountBuilt config place waiting before after answer)
    (held : before.tree.HoldsMountPlace place) (isMount : answer = some mount) :
    after.tree.HoldsMountPlace { place with parent := some mount } where
  host := built.reaches.extends.hosts held.host
  parent above same := by
    cases same
    obtain ⟨inTree, _, facts⟩ := built.held _ isMount
    exact ⟨inTree, facts⟩

mutual

theorem BuildState.buildMount_built {place : MountPlace} {waiting : Option MountId} {state : BuildState}
    (location : String) (held : state.tree.HoldsMountPlace place)
    (free : place.parent = none → waiting = none) :
    (node : MountNode) → config.DeclaresMount node →
    BuildState.MountBuilt config place waiting state
      (state.buildMount config.sites place place.inherited location node).1
      (state.buildMount config.sites place place.inherited location node).2
  | .node own mounts, declared => by
    have attached := BuildState.attachMount_built s!"{location}/{own.name}" declared held free
    unfold BuildState.buildMount
    dsimp only [MountNode.settings] at attached ⊢
    generalize state.attachMount config.sites place place.inherited _ own = built at attached ⊢
    obtain ⟨next, answer⟩ := built
    cases answer with
    | none => exact attached
    | some mount =>
      have inner := attached.holdsPlace held rfl
      obtain ⟨reaches, hosts⟩ := BuildState.buildMounts_built s!"{location}/{own.name}" inner rfl mounts
        fun child here => .nested declared here
      refine ⟨attached.reaches.trans reaches, hosts.trans attached.hosts, ?_⟩
      intro same isMount
      obtain ⟨inTree, facts⟩ := attached.held same isMount
      exact ⟨reaches.extends.mounts inTree, facts⟩

theorem BuildState.buildMounts_built {place : MountPlace} {waiting : Option MountId}
    {state : BuildState} {above : Mount} (location : String)
    (held : state.tree.HoldsMountPlace place) (parent : place.parent = some above) :
    (nodes : List MountNode) → (∀ node ∈ nodes, config.DeclaresMount node) →
    Draft.Reaches config ⟨state, waiting⟩
      ⟨state.buildMounts config.sites place place.inherited location nodes, waiting⟩ ∧
      (state.buildMounts config.sites place place.inherited location nodes).tree.hosts = state.tree.hosts
  | [], _ => by
    unfold BuildState.buildMounts
    exact ⟨.refl, rfl⟩
  | node :: rest, declared => by
    have here : BuildState.MountBuilt config place waiting state _ _ :=
      BuildState.buildMount_built location held (by rw [parent]; exact nofun) node
        (declared node List.mem_cons_self)
    unfold BuildState.buildMounts
    generalize state.buildMount config.sites place place.inherited location node = built at here ⊢
    obtain ⟨next, answer⟩ := built
    have reached : Draft.Reaches config ⟨state, waiting⟩ ⟨next, waiting⟩ := by
      have reached := here.reaches
      cases answer with
      | none => exact reached
      | some mount =>
        rw [Option.map_some, Option.getD_some, MountPlace.waiting, parent] at reached
        exact reached
    have later : next.tree.HoldsMountPlace place := held.extends reached.extends
    obtain ⟨reaches, hosts⟩ := BuildState.buildMounts_built location later parent rest
      fun other inRest => declared other (List.mem_cons_of_mem _ inRest)
    exact ⟨reached.trans reaches, hosts.trans here.hosts⟩

end

end Mounts

section Ports

variable {config : Configuration} {state : BuildState} {host : VirtualHost}

theorem BuildState.bindPort_reaches (location : String) (entry : PortMount)
    (held : state.tree.HoldsHost host)
    (free : state.tree.hasPortMount host.id entry.port = false)
    (root : ∀ root, entry.root = some root → ∃ mount, state.tree.HoldsMount mount ∧
      mount.id = root ∧ mount.parent = none ∧ mount.host = host.id ∧ mount.port = entry.port) :
    Draft.Reaches config ⟨state, entry.root⟩ ⟨state.bindPort host location entry, none⟩ := by
  unfold BuildState.bindPort
  cases added : state.tree.addPortMount host.id entry with
  | error fault =>
    rw [HostingTree.addPortMount, free] at added
    cases added
  | ok tree => exact .single (.portBound held root added)

theorem BuildState.buildPort_reaches (location : String) (node : PortNode)
    (held : state.tree.HoldsHost host)
    (declared : ∀ root, node.root = some root → config.DeclaresMount root) :
    Draft.Reaches config ⟨state, none⟩
      ⟨state.buildPort config.sites host location node, none⟩ := by
  unfold BuildState.buildPort
  dsimp only
  split
  · exact BuildState.reported_step _ _
  rename_i unbound
  have free := Bool.eq_false_iff.mpr unbound
  split
  · refine (BuildState.reported_step s!"{location}:{node.port}"
      [.missingRootMount host.hostName node.port]).trans ?_
    refine BuildState.bindPort_reaches _ ⟨node.port, none⟩ held free ?_
    intro id leads
    cases leads
  rename_i root isRoot
  have place : state.tree.HoldsMountPlace { host, port := node.port } :=
    ⟨held, fun above same => by cases same⟩
  have built := BuildState.buildMount_built s!"{location}:{node.port}" place (fun _ => rfl) root
    (declared root isRoot)
  change BuildState.MountBuilt config _ none state
    (state.buildMount config.sites { host, port := node.port } (.ofHost host.properties) _ root).1
    (state.buildMount config.sites { host, port := node.port } (.ofHost host.properties) _ root).2 at built
  generalize state.buildMount config.sites { host, port := node.port } (.ofHost host.properties) _
    root = result at built ⊢
  obtain ⟨next, answer⟩ := result
  cases answer with
  | none => exact built.reaches
  | some mount =>
    have reached : Draft.Reaches config ⟨state, none⟩ ⟨next, some mount.id⟩ := built.reaches
    have inNext : next.tree.HoldsHost host := reached.extends.hosts held
    -- Mounts were built since the port was looked up, but they change no host.
    have stillFree : next.tree.hasPortMount host.id node.port = false := by
      rw [HostingTree.hasPortMount, HostingTree.host?, built.hosts]
      exact free
    refine reached.trans (BuildState.bindPort_reaches _ ⟨node.port, some mount.id⟩ inNext stillFree ?_)
    intro id leads
    cases leads
    obtain ⟨inTree, top, atHost, _, atPort⟩ := built.held mount rfl
    exact ⟨mount, inTree, rfl, top, atHost, atPort⟩

theorem BuildState.buildPorts_reaches (location : String) {nodes : List PortNode}
    (held : state.tree.HoldsHost host)
    (declared : ∀ node ∈ nodes, ∀ root, node.root = some root → config.DeclaresMount root) :
    Draft.Reaches config ⟨state, none⟩
      ⟨nodes.foldl (BuildState.buildPort config.sites host location) state, none⟩ := by
  induction nodes generalizing state with
  | nil => exact .refl
  | cons node rest ih =>
    have first : Draft.Reaches config ⟨state, none⟩
        ⟨state.buildPort config.sites host location node, none⟩ :=
      BuildState.buildPort_reaches location node held (declared node List.mem_cons_self)
    refine first.trans (ih (first.extends.hosts held) ?_)
    exact fun other inRest => declared other (List.mem_cons_of_mem _ inRest)

end Ports

section Hosts

variable {config : Configuration} {place : GroupPlace}

theorem BuildState.attachHost_reaches {state after : BuildState} {parent answer : Option VirtualHost}
    {node : HostNode} (held : state.tree.HoldsHostPlace place parent)
    (declared : config.DeclaresHost place.name node)
    (attached : state.attachHost config.sites place parent (config.inherited parent) node.settings
      node.portNodes = .ok (after, answer)) :
    Draft.Reaches config ⟨state, none⟩ ⟨after, none⟩ ∧
      after.tree.HoldsGroup place ∧ ∀ host, answer = some host → after.tree.HoldsHostPlace place answer := by
  unfold BuildState.attachHost at attached
  dsimp only at attached
  split at attached
  · obtain ⟨rfl, rfl⟩ := Prod.mk.inj (Except.ok.inj attached)
    exact ⟨BuildState.reported_step _ _, held.group, fun host same => by cases same⟩
  rename_i labels labelled
  have start : Draft.Reaches config ⟨state, none⟩
      ⟨state.report (hostLocation place.name node.settings.name parent) node.settings.faults, none⟩ :=
    BuildState.reported_step _ _
  replace held := held.extends start.extends
  generalize state.report _ node.settings.faults = warned at start held attached
  split at attached
  · cases attached
  · rename_i tree added
    obtain ⟨grown, _⟩ := HostingTree.extends_addHostChain held added
    obtain ⟨rfl, rfl⟩ := Prod.mk.inj (Except.ok.inj attached)
    refine ⟨start.tail (.hostsAdded declared held labelled added), grown.groups held.group, ?_⟩
    exact fun host same => by cases same
  · rename_i tree host added
    obtain ⟨grown, last⟩ := HostingTree.extends_addHostChain held added
    obtain ⟨rfl, rfl⟩ := Prod.mk.inj (Except.ok.inj attached)
    have chain : Draft.Reaches config ⟨state, none⟩ ⟨{ warned with tree }, none⟩ :=
      start.tail (.hostsAdded declared held labelled added)
    have ports : Draft.Reaches config ⟨{ warned with tree }, none⟩ _ :=
      BuildState.buildPorts_reaches s!"{place.name}/{host.hostName}" (last.parent host rfl).1
        fun port entry root here => .root declared entry here
    exact ⟨chain.trans ports, ports.extends.groups (grown.groups held.group),
      fun _ _ => last.extends ports.extends⟩

mutual

theorem BuildState.buildHost_reaches {state after : BuildState} {parent : Option VirtualHost}
    (held : state.tree.HoldsHostPlace place parent) :
    (node : HostNode) → config.DeclaresHost place.name node →
    state.buildHost config.sites place parent (config.inherited parent) node = .ok after →
    Draft.Reaches config ⟨state, none⟩ ⟨after, none⟩
  | .node own root ports hosts, declared, built => by
    unfold BuildState.buildHost at built
    split at built
    · cases built
    · rename_i next attached
      cases built
      exact (BuildState.attachHost_reaches held declared attached).1
    · rename_i next host attached
      obtain ⟨reaches, _, below⟩ := BuildState.attachHost_reaches held declared attached
      refine reaches.trans (BuildState.buildHosts_reaches (below host rfl) hosts ?_ built)
      exact fun child here => .nested declared here

theorem BuildState.buildHosts_reaches {state after : BuildState} {parent : Option VirtualHost}
    (held : state.tree.HoldsHostPlace place parent) :
    (nodes : List HostNode) → (∀ node ∈ nodes, config.DeclaresHost place.name node) →
    state.buildHosts config.sites place parent (config.inherited parent) nodes = .ok after →
    Draft.Reaches config ⟨state, none⟩ ⟨after, none⟩
  | [], _, built => by
    unfold BuildState.buildHosts at built
    cases built
    exact .refl
  | node :: rest, declared, built => by
    unfold BuildState.buildHosts at built
    split at built
    · cases built
    · rename_i next first
      have reached := BuildState.buildHost_reaches held node (declared node List.mem_cons_self) first
      refine reached.trans (BuildState.buildHosts_reaches (held.extends reached.extends) rest ?_ built)
      exact fun other inRest => declared other (List.mem_cons_of_mem _ inRest)

end

end Hosts

section Groups

variable {config : Configuration} {state after : BuildState}

theorem HostingTree.holdsHostPlace_addGroup {tree grown : HostingTree} {name : String}
    {cmsLocation : Option String} (added : tree.addGroup name cmsLocation = .ok grown) :
    grown.HoldsHostPlace ⟨tree.groups.size, name, cmsLocation⟩ none := by
  refine ⟨?_, fun above same => by cases same⟩
  rw [HostingTree.HoldsGroup, HostingTree.unlinked_addGroup added]
  refine getElem?_push_eq_some_iff.mpr (Or.inr ⟨?_, rfl⟩)
  simp [HostingTree.unlinked]

theorem BuildState.buildGroup_reaches {group : GroupNode} (declared : group ∈ config.hostGroups)
    (built : state.buildGroup config.sites config.hosts.properties group = .ok after) :
    Draft.Reaches config ⟨state, none⟩ ⟨after, none⟩ := by
  unfold BuildState.buildGroup at built
  dsimp only at built
  split at built
  · cases built
  rename_i tree added
  have reached : Draft.Reaches config ⟨state, none⟩ _ :=
    (BuildState.reported_step _ _).tail (.groupAdded declared added)
  have place := HostingTree.holdsHostPlace_addGroup added
  refine reached.trans (BuildState.buildHosts_reaches place group.hosts ?_ built)
  exact fun node here => .top declared here

theorem BuildState.buildGroups_reaches {groups : List GroupNode}
    (declared : ∀ group ∈ groups, group ∈ config.hostGroups)
    (built : state.buildGroups config.sites config.hosts.properties groups = .ok after) :
    Draft.Reaches config ⟨state, none⟩ ⟨after, none⟩ := by
  induction groups generalizing state with
  | nil =>
    cases built
    exact .refl
  | cons group rest ih =>
    unfold BuildState.buildGroups at built
    split at built
    · cases built
    · rename_i next first
      have reached := BuildState.buildGroup_reaches (declared group List.mem_cons_self) first
      exact reached.trans (ih (fun other inRest => declared other (List.mem_cons_of_mem _ inRest)) built)

/-- A finished build took its steps from nothing, one after another, and no
root mount is left waiting. The recursions of a build over mounts and over
hosts are followed for this once. -/
theorem Configuration.assemble_reaches (assembled : config.assemble = .ok state) :
    Draft.Reaches config ⟨{}, none⟩ ⟨state, none⟩ :=
  (BuildState.reported_step _ _).trans (BuildState.buildGroups_reaches (fun _ member => member) assembled)

end Groups

end SiteRouting
