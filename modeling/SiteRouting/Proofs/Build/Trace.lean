import Mathlib
import SiteRouting.Proofs.Tree.Skeleton

namespace SiteRouting

/-- The host nodes that a configuration declares, at every depth, with
the name of their group. -/
inductive Configuration.DeclaresHost (config : Configuration) : String → HostNode → Prop where
  | top {group : GroupNode} {node : HostNode} (member : group ∈ config.hostGroups)
      (here : node ∈ group.hosts) : config.DeclaresHost group.name node
  | nested {group : String} {node child : HostNode} (declared : config.DeclaresHost group node)
      (here : child ∈ node.hosts) : config.DeclaresHost group child

/-- The mount nodes that a configuration declares, at every depth, on every
port of every host that it declares. -/
inductive Configuration.DeclaresMount (config : Configuration) : MountNode → Prop where
  | root {group : String} {host : HostNode} {port : PortNode} {node : MountNode}
      (declared : config.DeclaresHost group host) (entry : port ∈ host.portNodes)
      (here : port.root = some node) : config.DeclaresMount node
  | nested {node child : MountNode} (declared : config.DeclaresMount node)
      (here : child ∈ node.mounts) : config.DeclaresMount child

def MountPlace.inherited (place : MountPlace) : MountProperties :=
  match place.parent with
  | none => .ofHost place.host.properties
  | some above => above.properties

def Configuration.inherited (config : Configuration) (parent : Option VirtualHost) : NodeProperties :=
  (parent.map (·.properties)).getD config.hosts.properties

/-- A build on its way, with a root mount that its port entry does not
name yet. -/
structure Draft where
  state : BuildState
  waiting : Option MountId

def MountPlace.waiting (place : MountPlace) (mount : Mount) (before : Option MountId) : Option MountId :=
  match place.parent with
  | none => some mount.id
  | some _ => before

/-- A small step of a build. It adds what one node of the configuration
describes, at a place that is in the tree already, or notes faults. What
every step preserves therefore holds of every finished build. -/
inductive Draft.Step (config : Configuration) : Draft → Draft → Prop where
  | reported {state : BuildState} {waiting : Option MountId} (location : String) (faults : List Fault) :
      Draft.Step config ⟨state, waiting⟩ ⟨state.report location faults, waiting⟩
  | groupAdded {state : BuildState} {tree : HostingTree} {group : GroupNode}
      (declared : group ∈ config.hostGroups)
      (added : state.tree.addGroup group.name group.usableCmsLocation = .ok tree) :
      Draft.Step config ⟨state, none⟩ ⟨{ state with tree }, none⟩
  | hostsAdded {state : BuildState} {tree : HostingTree} {place : GroupPlace}
      {parent last : Option VirtualHost} {node : HostNode} {labels : List String}
      (declared : config.DeclaresHost place.name node) (held : state.tree.HoldsHostPlace place parent)
      (labelled : nodeLabels node.settings.name = .ok labels)
      (added : state.tree.addHostChain place (node.settings.propertiesBelow (config.inherited parent))
        parent labels = .ok (tree, last)) :
      Draft.Step config ⟨state, none⟩ ⟨{ state with tree }, none⟩
  | mountAdded {state : BuildState} {waiting : Option MountId} {tree : HostingTree} {mount : Mount}
      {place : MountPlace} {node : MountNode} {properties : MountProperties} {content : ContentPaths}
      {warnings : List Fault} (location : String)
      (declared : config.DeclaresMount node) (held : state.tree.HoldsMountPlace place)
      (free : place.parent = none → waiting = none)
      (inherits : properties = node.settings.propertiesBelow place.inherited)
      (derived : properties.contentPaths config.sites = .ok (content, warnings))
      (added : state.tree.addMount (place.parent.map (·.id))
        (place.detachedMount node.settings properties content) = .ok (tree, mount)) :
      Draft.Step config ⟨state, waiting⟩
        ⟨{ state with tree, index := (state.index.add tree mount).1 }.report location
          (state.index.add tree mount).2, place.waiting mount waiting⟩
  | portBound {state : BuildState} {tree : HostingTree} {host : VirtualHost} {entry : PortMount}
      (held : state.tree.HoldsHost host)
      (root : ∀ root, entry.root = some root → ∃ mount, state.tree.HoldsMount mount ∧
        mount.id = root ∧ mount.parent = none ∧ mount.host = host.id ∧ mount.port = entry.port)
      (added : state.tree.addPortMount host.id entry = .ok tree) :
      Draft.Step config ⟨state, entry.root⟩ ⟨{ state with tree }, none⟩

abbrev Draft.Reaches (config : Configuration) : Draft → Draft → Prop :=
  Relation.ReflTransGen (Draft.Step config)

section HostChain

variable {place : GroupPlace} {properties : NodeProperties}

theorem HostingTree.HoldsHostPlace.addHost {tree after : HostingTree} {parent : Option VirtualHost}
    {label : String} {linked : VirtualHost} (held : tree.HoldsHostPlace place parent)
    (added : tree.addHost place.position (parent.map (·.id))
      (.detached label parent place.name place.cmsLocation properties) = .ok (after, linked)) :
    after.HoldsHostPlace place (some linked) := by
  refine ⟨(HostingTree.extends_addHost added).groups held.group, ?_⟩
  intro above same
  cases same
  have group : linked.group = place.name := by
    rw [(HostingTree.unlinked_addHost added).1]
    rfl
  exact ⟨HostingTree.holdsHost_addHost added, group⟩

theorem HostingTree.addHostChain_preserves {Holds : HostingTree → Prop} {labels : List String}
    (step : ∀ {tree after : HostingTree} {parent : Option VirtualHost} {label : String}
      {linked : VirtualHost}, Holds tree → tree.HoldsHostPlace place parent → label ∈ labels →
      tree.addHost place.position (parent.map (·.id))
        (.detached label parent place.name place.cmsLocation properties) = .ok (after, linked) →
      Holds after)
    {tree after : HostingTree} {parent last : Option VirtualHost}
    (holds : Holds tree) (held : tree.HoldsHostPlace place parent)
    (added : tree.addHostChain place properties parent labels = .ok (after, last)) :
    Holds after ∧ after.Extends tree ∧ after.HoldsHostPlace place last := by
  induction labels generalizing tree parent with
  | nil =>
    rw [HostingTree.addHostChain, Except.ok.injEq, Prod.mk.injEq] at added
    obtain ⟨rfl, rfl⟩ := added
    exact ⟨holds, .refl tree, held⟩
  | cons label rest ih =>
    rw [HostingTree.addHostChain] at added
    split at added
    · cases added
    · rename_i next linked first
      obtain ⟨all, later, lastHeld⟩ :=
        ih (fun holds held member => step holds held (List.mem_cons_of_mem _ member))
          (step holds held List.mem_cons_self first) (held.addHost first) added
      exact ⟨all, later.trans (HostingTree.extends_addHost first), lastHeld⟩

theorem HostingTree.extends_addHostChain {labels : List String} {tree after : HostingTree}
    {parent last : Option VirtualHost} (held : tree.HoldsHostPlace place parent)
    (added : tree.addHostChain place properties parent labels = .ok (after, last)) :
    after.Extends tree ∧ after.HoldsHostPlace place last :=
  (HostingTree.addHostChain_preserves (fun _ _ _ _ => trivial) trivial held added).2

end HostChain

theorem Draft.Step.extends {config : Configuration} {before after : Draft}
    (step : Draft.Step config before after) : after.state.tree.Extends before.state.tree := by
  cases step with
  | reported location faults => exact .refl _
  | groupAdded declared added => exact HostingTree.extends_addGroup added
  | hostsAdded declared held labelled added => exact (HostingTree.extends_addHostChain held added).1
  | mountAdded location declared held free inherits derived added =>
    exact HostingTree.extends_addMount added
  | portBound held root added => exact HostingTree.extends_addPortMount added

theorem Draft.Reaches.extends {config : Configuration} {before after : Draft}
    (reaches : Draft.Reaches config before after) : after.state.tree.Extends before.state.tree := by
  induction reaches with
  | refl => exact .refl _
  | tail _ step ih => exact step.extends.trans ih

end SiteRouting
