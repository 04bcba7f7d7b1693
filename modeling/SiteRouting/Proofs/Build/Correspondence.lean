import Mathlib
import SiteRouting.Proofs.Build.Outcome
import SiteRouting.Proofs.Build.TwinHosts

namespace SiteRouting

/-- A lineage is one label below another one, with or without a node
of its own between them. -/
def HostLineage.Continues (lineage above : HostLineage) : Prop :=
  ∃ base label, HostLineage.Enters base above ∧ lineage = base.withLabel label

/-- The lineage that a link up leads to; without a link it is the top one. -/
def linkedAbove? {α : Type} (lineages : List α) (top : α) : Option Nat → Option α
  | none => some top
  | some parent => lineages[parent]?

/-- The hosts and mounts of a tree correspond to lineages one by one, in
order: the node at a position is that of the lineage at that position, and a
link up leads to the lineage above. -/
structure HostingTree.Shows (tree : HostingTree) (config : Configuration) (hosts : List HostLineage)
    (mounts : List MountLineage) : Prop where
  hostCount : tree.hosts.size = hosts.length
  mountCount : tree.mounts.size = mounts.length
  host : ∀ (id : Nat) (host : VirtualHost), tree.hosts[id]? = some host → ∃ lineage above,
    host.id = id ∧ hosts[id]? = some lineage ∧ lineage.Describes config host ∧
    linkedAbove? hosts { group := lineage.group } host.parent = some above ∧ lineage.Continues above
  mount : ∀ (id : Nat) (mount : Mount), tree.mounts[id]? = some mount → ∃ lineage above own,
    mount.id = id ∧ mounts[id]? = some lineage ∧ lineage.Describes config mount ∧
    hosts[mount.host]? = some lineage.host ∧
    linkedAbove? mounts { host := lineage.host, port := lineage.port } mount.parent = some above ∧
    lineage = above.below own

theorem linkedAbove?_of_prefix {α : Type} {front all : List α} {top above : α} {parent : Option Nat}
    (isFront : front <+: all) (found : linkedAbove? front top parent = some above) :
    linkedAbove? all top parent = some above := by
  cases parent with
  | none => exact found
  | some parent => exact getElem?_of_prefix isFront found

section Step

variable {config : Configuration}

theorem HostingTree.shows_empty : (HostingTree.unlinked {}).Shows config [] [] := by
  constructor <;> simp [HostingTree.unlinked]

theorem HostingTree.shows_of_unlinked {tree : HostingTree} {hosts : List HostLineage}
    {mounts : List MountLineage} (shown : tree.unlinked.Shows config hosts mounts) :
    tree.Shows config hosts mounts where
  hostCount := by simpa [HostingTree.unlinked] using shown.hostCount
  mountCount := by simpa [HostingTree.unlinked] using shown.mountCount
  host id host held := by
    obtain ⟨lineage, above, position, listed, described, below⟩ :=
      shown.host id _ (HostingTree.unlinked_host held)
    exact ⟨lineage, above, position, listed, HostLineage.describes_unlinked_iff.mp described, below⟩
  mount id mount held := by
    obtain ⟨lineage, above, own, position, listed, described, below⟩ :=
      shown.mount id _ (HostingTree.unlinked_mount held)
    exact ⟨lineage, above, own, position, listed, MountLineage.describes_unlinked_iff.mp described, below⟩

/-- The tree that both builds of a configuration share shows the lineages
that they have come across so far. -/
def TwinBuild.Shown (config : Configuration) (twin : TwinBuild) : Prop :=
  twin.tree.unlinked.Shows config twin.hosts twin.mounts

variable {twin : TwinBuild} {tree : HostingTree}

theorem TwinBuild.Shown.addHost {place : GroupPlace} {parent : Option VirtualHost}
    {above base : HostLineage} {label : String} {host : VirtualHost} (shown : twin.Shown config)
    (placed : twin.HostPlaced config place parent above) (entered : base.Enters above)
    (added : twin.tree.addHost place.position (parent.map (·.id))
      (.detached label parent place.name place.cmsLocation (base.properties config.hosts)) =
        .ok (tree, host)) :
    (twin.withHost tree (base.withLabel label)).Shown config := by
  obtain ⟨same, grown⟩ := HostingTree.unlinked_addHost added
  have described := placed.describes entered added
  have isFront : twin.hosts <+: twin.hosts ++ [base.withLabel label] := List.prefix_append _ _
  refine ⟨?_, ?_, ?_, ?_⟩
  · rw [TwinBuild.withHost, grown]
    simp [shown.hostCount]
  · rw [TwinBuild.withHost, grown]
    exact shown.mountCount
  · intro id node held
    rw [TwinBuild.withHost, grown] at held
    rcases getElem?_push_eq_some_iff.mp held with old | ⟨last, new⟩
    · obtain ⟨lineage, parentLineage, position, listed, describes, found, continues⟩ :=
        shown.host id node old
      exact ⟨lineage, parentLineage, position, getElem?_of_prefix isFront listed, describes,
        linkedAbove?_of_prefix isFront found, continues⟩
    · subst new
      have position : host.unlinked.id = id := by
        simp [same, VirtualHost.unlinked, last, HostingTree.unlinked]
      refine ⟨base.withLabel label, above, position, ?_,
        HostLineage.describes_unlinked_iff.mpr described, ?_, base, label, entered, rfl⟩
      · simp [TwinBuild.withHost, last, shown.hostCount]
      · have link : host.unlinked.parent = parent.map (·.id) := by rw [same, VirtualHost.unlinked]
        rw [link]
        cases parent with
        | none =>
          obtain ⟨unlabelled, fresh⟩ := placed.top rfl
          have group : base.group = above.group := by rcases entered with rfl | ⟨own, rfl⟩ <;> rfl
          obtain ⟨name, labels, nodes⟩ := above
          simp_all [linkedAbove?, HostLineage.withLabel]
        | some linked =>
          exact linkedAbove?_of_prefix isFront (placed.below linked rfl).listed
  · intro id node held
    rw [TwinBuild.withHost, grown] at held
    obtain ⟨lineage, parentLineage, own, position, listed, describes, hosted, below⟩ :=
      shown.mount id node held
    exact ⟨lineage, parentLineage, own, position, listed, describes, getElem?_of_prefix isFront hosted,
      below⟩

theorem TwinBuild.Shown.addMount {place : MountPlace} {above : MountLineage} {own : MountSettings}
    {content : ContentPaths} {warnings : List Fault} {mount : Mount} (shown : twin.Shown config)
    (placed : twin.MountPlaced config place above)
    (derived : ((above.below own).properties config.hosts).contentPaths config.sites =
      .ok (content, warnings))
    (added : twin.tree.addMount (place.parent.map (·.id))
      (place.detachedMount own ((above.below own).properties config.hosts) content) = .ok (tree, mount)) :
    (twin.withMount tree mount (above.below own) (own.faults ++ warnings)).Shown config := by
  obtain ⟨same, grown⟩ := HostingTree.unlinked_addMount added
  have described := placed.describes derived added
  have isFront : twin.mounts <+: twin.mounts ++ [above.below own] := List.prefix_append _ _
  refine ⟨?_, ?_, ?_, ?_⟩
  · rw [TwinBuild.withMount, grown]
    exact shown.hostCount
  · rw [TwinBuild.withMount, grown]
    simp [shown.mountCount]
  · intro id node held
    rw [TwinBuild.withMount, grown] at held
    exact shown.host id node held
  · intro id node held
    rw [TwinBuild.withMount, grown] at held
    rcases getElem?_push_eq_some_iff.mp held with old | ⟨last, new⟩
    · obtain ⟨lineage, parentLineage, settings, position, listed, describes, hosted, found, below⟩ :=
        shown.mount id node old
      exact ⟨lineage, parentLineage, settings, position, getElem?_of_prefix isFront listed, describes, hosted,
        linkedAbove?_of_prefix isFront found, below⟩
    · subst new
      have position : mount.unlinked.id = id := by simp [same, Mount.unlinked, last, HostingTree.unlinked]
      refine ⟨above.below own, above, own, position, ?_,
        MountLineage.describes_unlinked_iff.mpr described, ?_, ?_, rfl⟩
      · simp [TwinBuild.withMount, TwinBuild.note, last, shown.mountCount]
      · have link : mount.unlinked.host = place.host.id := by
          rw [same, Mount.unlinked, MountPlace.detachedMount]
        rw [link]
        exact placed.host.listed
      · have link : mount.unlinked.parent = place.parent.map (·.id) := by rw [same, Mount.unlinked]
        rw [link]
        cases parent : place.parent with
        | none =>
          have fresh := placed.top parent
          obtain ⟨host, port, nodes⟩ := above
          simp_all [linkedAbove?, MountLineage.below]
        | some linked =>
          exact linkedAbove?_of_prefix isFront (placed.below linked parent).listed

theorem TwinBuild.Step.shown {before after : TwinBuild} (step : TwinBuild.Step config before after)
    (shown : before.Shown config) : after.Shown config := by
  cases step with
  | noted location notes => exact shown
  | skipped notes severe => exact shown
  | groupAdded added =>
    rw [TwinBuild.Shown, HostingTree.unlinked_addGroup added]
    exact ⟨shown.hostCount, shown.mountCount, shown.host, shown.mount⟩
  | hostAdded placed entered added => exact shown.addHost placed entered added
  | mountAdded placed derived added => exact shown.addMount placed derived added
  | portBound added =>
    rw [TwinBuild.Shown, HostingTree.unlinked_addPortMount added]
    exact shown

theorem TwinBuild.Reaches.shown {before after : TwinBuild}
    (reaches : TwinBuild.Reaches config before after) (shown : before.Shown config) :
    after.Shown config := by
  induction reaches with
  | refl => exact shown
  | tail _ step ih => exact step.shown ih

end Step

/-- The hosts and mounts of a finished build are those of what stays
of the configuration. -/
theorem Configuration.assemble_shows {config : Configuration} {state : BuildState}
    (assembled : config.assemble = .ok state) :
    state.tree.Shows config config.prune.kept.hostLineages config.prune.kept.mountLineages := by
  obtain ⟨after, runs, rfl, _⟩ := Configuration.assemble_twin assembled
  have shown := runs.reaches.shown HostingTree.shows_empty
  have hosts : after.hosts = config.prune.kept.hostLineages := runs.hosts
  have mounts : after.mounts = config.prune.kept.mountLineages := runs.mounts
  rw [TwinBuild.Shown, hosts, mounts] at shown
  exact HostingTree.shows_of_unlinked shown

theorem Configuration.build_shows {config : Configuration} {policy : BuildPolicy} {generation : Nat}
    {registry : Registry} (built : config.build policy generation = .ok registry) :
    registry.tree.Shows config config.prune.kept.hostLineages config.prune.kept.mountLineages := by
  obtain ⟨state, assembled, _, rfl⟩ := Configuration.build_eq_ok_iff.mp built
  exact Configuration.assemble_shows assembled

end SiteRouting
