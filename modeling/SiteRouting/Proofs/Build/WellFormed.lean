import Mathlib
import SiteRouting.Proofs.Build.Outcome
import SiteRouting.Proofs.Build.Run
import SiteRouting.Proofs.Tree.WellFormed

namespace SiteRouting

/-- A host is named by a label of a node that a configuration declares
in its group. -/
def Configuration.NamesHost (config : Configuration) (host : VirtualHost) : Prop :=
  ∃ node labels label, config.DeclaresHost host.group node ∧
    nodeLabels node.settings.name = .ok labels ∧ label ∈ labels ∧ host.name = Text.lowercase label

structure Draft.Good (config : Configuration) (draft : Draft) : Prop where
  shaped : draft.state.tree.unlinked.Shaped
  linked : draft.state.tree.Linked
  bound : draft.state.tree.Bound draft.waiting
  named : ∀ (id : Nat) (host : VirtualHost), draft.state.tree.unlinked.hosts[id]? = some host →
    config.NamesHost host
  index : draft.state.index.PointsInto draft.state.tree

theorem Draft.good_start (config : Configuration) : Draft.Good config ⟨{}, none⟩ where
  shaped := HostingTree.shaped_empty
  linked := HostingTree.linked_empty
  bound := HostingTree.bound_empty
  named := by simp [HostingTree.unlinked]
  index := MountIndex.pointsInto_empty

section Step

variable {config : Configuration} {state : BuildState} {tree : HostingTree}

theorem Draft.Good.groupAdded {group : GroupNode} (good : Draft.Good config ⟨state, none⟩)
    (added : state.tree.addGroup group.name group.usableCmsLocation = .ok tree) :
    Draft.Good config ⟨{ state with tree }, none⟩ where
  shaped := good.shaped.addGroup added
  linked := good.linked.addGroup good.shaped added
  bound := good.bound.addGroup added
  named id host held := by
    rw [HostingTree.unlinked_addGroup added] at held
    exact good.named id host held
  index := good.index.extends (HostingTree.extends_addGroup added)

theorem Draft.Good.hostAdded {place : GroupPlace} {parent : Option VirtualHost} {node : HostNode}
    {labels : List String} {label : String} {properties : NodeProperties} {linked : VirtualHost}
    (good : Draft.Good config ⟨state, none⟩) (declared : config.DeclaresHost place.name node)
    (labelled : nodeLabels node.settings.name = .ok labels) (member : label ∈ labels)
    (held : state.tree.HoldsHostPlace place parent)
    (added : state.tree.addHost place.position (parent.map (·.id))
      (.detached label parent place.name place.cmsLocation properties) = .ok (tree, linked)) :
    Draft.Good config ⟨{ state with tree }, none⟩ where
  shaped := good.shaped.addHost held added
  linked := good.linked.addHost good.shaped held added
  bound := good.bound.addHost rfl added
  named id host inTree := by
    obtain ⟨same, bare⟩ := HostingTree.unlinked_addHost added
    rw [bare] at inTree
    rcases getElem?_push_eq_some_iff.mp inTree with old | ⟨_, rfl⟩
    · exact good.named id host old
    · rw [same]
      exact ⟨node, labels, label, declared, labelled, member, rfl⟩
  index := good.index.extends (HostingTree.extends_addHost added)

theorem Draft.Good.mountAdded {waiting : Option MountId} {place : MountPlace} {own : MountSettings}
    {properties : MountProperties} {content : ContentPaths} {mount : Mount} (location : String)
    (good : Draft.Good config ⟨state, waiting⟩) (held : state.tree.HoldsMountPlace place)
    (free : place.parent = none → waiting = none)
    (added : state.tree.addMount (place.parent.map (·.id)) (place.detachedMount own properties content) =
      .ok (tree, mount)) :
    Draft.Good config ⟨{ state with tree, index := (state.index.add tree mount).1 }.report location
      (state.index.add tree mount).2, place.waiting mount waiting⟩ where
  shaped := good.shaped.addMount held added
  linked := good.linked.addMount good.shaped held added
  bound := by
    rw [MountPlace.waiting]
    cases parent : place.parent with
    | none =>
      rw [parent] at added
      have bound : state.tree.Bound none := free parent ▸ good.bound
      exact bound.addRootMount added
    | some above =>
      rw [parent] at added
      exact HostingTree.Bound.addChildMount good.bound added
  named id host inTree := by
    rw [BuildState.report, (HostingTree.unlinked_addMount added).2] at inTree
    exact good.named id host inTree
  index := by
    have points := good.index.extends (HostingTree.extends_addMount added)
    exact points.add ⟨_, HostingTree.holdsMount_addMount added⟩

theorem Draft.Good.portBound {host : VirtualHost} {entry : PortMount}
    (good : Draft.Good config ⟨state, entry.root⟩) (held : state.tree.HoldsHost host)
    (root : ∀ root, entry.root = some root → ∃ mount, state.tree.HoldsMount mount ∧
      mount.id = root ∧ mount.parent = none ∧ mount.host = host.id ∧ mount.port = entry.port)
    (added : state.tree.addPortMount host.id entry = .ok tree) :
    Draft.Good config ⟨{ state with tree }, none⟩ where
  shaped := good.shaped.addPortMount added
  linked := good.linked.addPortMount added
  bound := by
    have inRange : host.id < state.tree.hosts.size := by
      obtain ⟨current, inTree, _⟩ := HostingTree.exists_host held
      exact (Array.getElem?_eq_some_iff.mp inTree).1
    refine good.bound.addPortMount inRange ?_ added
    intro id leads
    obtain ⟨mount, inTree, rfl, facts⟩ := root id leads
    exact ⟨mount.unlinked, inTree, facts⟩
  named id current inTree := by
    rw [HostingTree.unlinked_addPortMount added] at inTree
    exact good.named id current inTree
  index := good.index.extends (HostingTree.extends_addPortMount added)

end Step

theorem Draft.Good.step {config : Configuration} {before after : Draft} (good : before.Good config)
    (step : Draft.Step config before after) : after.Good config := by
  cases step with
  | reported location faults => exact ⟨good.shaped, good.linked, good.bound, good.named, good.index⟩
  | groupAdded declared added => exact good.groupAdded added
  | @hostsAdded state tree place parent last node labels declared held labelled added =>
    -- The invariant has to hold between the labels of a chain too, where no step ends.
    let Holds (tree : HostingTree) : Prop := Draft.Good config ⟨{ state with tree }, none⟩
    have start : Holds state.tree := good
    refine (HostingTree.addHostChain_preserves ?_ start held added).1
    intro current next above label linked goodTree placed member one
    have built : Draft.Good config ⟨{ state with tree := current }, none⟩ := goodTree
    exact built.hostAdded declared labelled member placed one
  | mountAdded location declared held free inherits derived added =>
    exact good.mountAdded location held free added
  | portBound held root added => exact good.portBound held root added

theorem Draft.Reaches.good {config : Configuration} {before after : Draft}
    (reaches : Draft.Reaches config before after) (good : before.Good config) : after.Good config := by
  induction reaches with
  | refl => exact good
  | tail _ step ih => exact ih.step step

theorem Configuration.assemble_good {config : Configuration} {state : BuildState}
    (assembled : config.assemble = .ok state) : Draft.Good config ⟨state, none⟩ :=
  (Configuration.assemble_reaches assembled).good (Draft.good_start config)

theorem Configuration.build_namesHost {config : Configuration} {policy : BuildPolicy}
    {generation : Nat} {registry : Registry} (built : config.build policy generation = .ok registry) :
    registry.tree.WellFormed ∧ ∀ host ∈ registry.tree.hosts, config.NamesHost host := by
  obtain ⟨state, assembled, _, rfl⟩ := Configuration.build_eq_ok_iff.mp built
  have good := Configuration.assemble_good assembled
  refine ⟨HostingTree.wellFormed_of_bound good.shaped good.linked good.bound, ?_⟩
  intro host member
  obtain ⟨id, held⟩ := Array.mem_iff_getElem?.mp member
  have named : config.NamesHost host.unlinked := good.named id _ (HostingTree.unlinked_host held)
  exact named

/-- The tree of every accepted build is well-formed, whatever the build had
to leave out on the way; all positions in it and in its index are in range,
and its hosts are named by labels of the configuration. -/
theorem Configuration.build_wellFormed {config : Configuration} {policy : BuildPolicy}
    {generation : Nat} {registry : Registry} (built : config.build policy generation = .ok registry) :
    registry.tree.WellFormed ∧ registry.tree.IdsInRange registry.index ∧
      ∀ host ∈ registry.tree.hosts, config.NamesHost host := by
  obtain ⟨wellFormed, namesHost⟩ := Configuration.build_namesHost built
  obtain ⟨state, assembled, _, rfl⟩ := Configuration.build_eq_ok_iff.mp built
  exact ⟨wellFormed, wellFormed.idsInRange (Configuration.assemble_good assembled).index, namesHost⟩

/-- Hosts below each other, an address, mounts on two ports, and something
to leave out of each kind. -/
def branchedSite : Configuration where
  hostGroups := [{
    name := "prod"
    hosts := [
      .node { name := "Com" } none [] [
        .node { name := "example" }
          (some (.node {} [.node { name := "news" } [.node { name := "sport" } []],
            .node { name := "news", aliasName := some "repeated" } []]))
          [⟨8080, some (.node { aliasName := some "Alt" } [])⟩, ⟨8080, none⟩, ⟨8081, none⟩]
          [.node { name := "api.v2" } none [] []]],
      .node { name := "127.0.0.1" }
        (some (.node { mountPoint := some "relative" } [.node { name := "lost" } []])) [] []] }]

theorem branchedSite_wellFormed :
    ∃ registry, branchedSite.build .lenient 1 = .ok registry ∧
      registry.tree.hosts.toList.map (·.hostName) =
        ["com", "example.com", "1", "0.1", "0.0.1", "127.0.0.1"] ∧
      registry.tree.mounts.toList.map (fun mount => (mount.host, mount.port, mount.mountPath)) =
        [(1, 0, ""), (1, 0, "/news"), (1, 0, "/news/sport"), (1, 8080, "")] ∧
      registry.tree.WellFormed ∧ registry.tree.IdsInRange registry.index := by
  have shown : (branchedSite.build .lenient 1).toOption.map (fun registry =>
      (registry.tree.hosts.toList.map (·.hostName),
        registry.tree.mounts.toList.map fun mount => (mount.host, mount.port, mount.mountPath))) =
      some (["com", "example.com", "1", "0.1", "0.0.1", "127.0.0.1"],
        [(1, 0, ""), (1, 0, "/news"), (1, 0, "/news/sport"), (1, 8080, "")]) := by decide +kernel
  cases built : branchedSite.build .lenient 1 with
  | error issues =>
    rw [built] at shown
    cases shown
  | ok registry =>
    rw [built] at shown
    obtain ⟨hosts, mounts⟩ := Prod.mk.inj (Option.some.inj shown)
    obtain ⟨wellFormed, inRange, _⟩ := Configuration.build_wellFormed built
    exact ⟨registry, rfl, hosts, mounts, wellFormed, inRange⟩

end SiteRouting
