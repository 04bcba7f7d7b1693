import Mathlib
import SiteRouting.Proofs.Build.WellFormed
import SiteRouting.Proofs.Config.Names
import SiteRouting.Proofs.Tree.Names

namespace SiteRouting

section Labels

variable {name label : String} {labels : List String}

theorem Text.mem_of_mem_segments {sep c : Char} {cs segment : List Char} (member : segment ∈ segments sep cs)
    (inside : c ∈ segment) : c ∈ cs := by
  induction cs generalizing segment with
  | nil =>
    rw [segments, List.mem_singleton] at member
    rwa [member] at inside
  | cons first rest ih =>
    unfold segments at member
    split at member
    · rcases List.mem_cons.mp member with rfl | later
      · cases inside
      · exact List.mem_cons_of_mem _ (ih later inside)
    split at member
    · rw [List.mem_singleton.mp member, List.mem_singleton] at inside
      exact inside ▸ List.mem_cons_self
    · rename_i head others shape
      rw [shape] at ih
      rcases List.mem_cons.mp member with rfl | later
      · rcases List.mem_cons.mp inside with rfl | behind
        · exact List.mem_cons_self
        · exact List.mem_cons_of_mem _ (ih List.mem_cons_self behind)
      · exact List.mem_cons_of_mem _ (ih (List.mem_cons_of_mem _ later) inside)

theorem mem_of_mem_nodeLabels {c : Char} (labelled : nodeLabels name = .ok labels) (member : label ∈ labels)
    (inside : c ∈ label.toList) : c ∈ name.toList := by
  unfold nodeLabels addressSegments at labelled
  split at labelled
  · cases labelled
    rwa [List.mem_singleton.mp member] at inside
  · split at labelled
    · cases labelled
      obtain ⟨segment, found, rfl⟩ := List.mem_map.mp (List.mem_reverse.mp member)
      rw [String.toList_ofList] at inside
      exact Text.mem_of_mem_segments found inside
    · cases labelled

/-- A name that is not empty has no empty label: between dots there
would have to be a number. -/
theorem nodeLabels_ne_empty (labelled : nodeLabels name = .ok labels) (member : label ∈ labels)
    (named : name ≠ "") : label ≠ "" := by
  unfold nodeLabels addressSegments at labelled
  split at labelled
  · cases labelled
    rwa [List.mem_singleton.mp member]
  · split at labelled
    · rename_i numbers
      cases labelled
      rintro rfl
      have number := List.all_eq_true.mp numbers "" (List.mem_reverse.mp member)
      exact absurd number (by decide)
    · cases labelled

end Labels

/-- What all labels have and a dot between two names keeps, all full
host names have. -/
theorem HostingTree.Shaped.hostName_induction {tree : HostingTree} {Holds : String → Prop}
    (shaped : tree.Shaped) (own : ∀ host ∈ tree.hosts, Holds host.name)
    (joined : ∀ name above, Holds name → Holds above → Holds s!"{name}.{above}") :
    ∀ host ∈ tree.hosts, Holds host.hostName := by
  intro host member
  obtain ⟨id, held⟩ := Array.mem_iff_getElem?.mp member
  -- A parent stands before its children, so the way up to the group ends.
  induction id using Nat.strongRecOn generalizing host with
  | ind id ih =>
    have shape := shaped.hosts id host held
    cases parent : host.parent with
    | none =>
      rw [shape.top parent]
      exact own host member
    | some above =>
      obtain ⟨before, node, inTree, isName, _⟩ := shape.below above parent
      rw [isName]
      exact joined _ _ (own host member) (ih above before node (Array.mem_of_getElem? inTree) inTree)

/-- A mount is built from a node that a configuration declares: it is
called like it, and has its identifier or, if it configures none, the
one that its place gives it. -/
def Configuration.NamesMount (config : Configuration) (tree : HostingTree) (mount : Mount) : Prop :=
  ∃ node host, config.DeclaresMount node ∧ mount.name = node.settings.name ∧
    tree.unlinked.hosts[mount.host]? = some host ∧
    mount.identifier = node.settings.identifier.getD
      (Digest.uuidOfName s!"{mount.group}/{host.hostName}:{mount.port}{mount.mountPath}")

def Draft.MountsNamed (config : Configuration) (draft : Draft) : Prop :=
  ∀ (id : Nat) (mount : Mount), draft.state.tree.unlinked.mounts[id]? = some mount →
    config.NamesMount draft.state.tree mount

section Run

variable {config : Configuration} {before after : Draft}

theorem Draft.MountsNamed.extends (named : before.MountsNamed config)
    (grown : after.state.tree.Extends before.state.tree)
    (same : after.state.tree.unlinked.mounts = before.state.tree.unlinked.mounts) :
    after.MountsNamed config := by
  intro id mount held
  rw [same] at held
  obtain ⟨node, host, declared, isName, hosted, identified⟩ := named id mount held
  exact ⟨node, host, declared, isName, grown.hosts hosted, identified⟩

theorem Draft.Step.mountsNamed (step : Draft.Step config before after) (named : before.MountsNamed config) :
    after.MountsNamed config := by
  have grown := step.extends
  cases step with
  | reported location faults => exact named.extends grown rfl
  | groupAdded declared added =>
    have same := congrArg HostingTree.mounts (HostingTree.unlinked_addGroup added)
    exact named.extends grown same
  | portBound held root added =>
    exact named.extends grown (congrArg HostingTree.mounts (HostingTree.unlinked_addPortMount added))
  | @hostsAdded state tree place parent last node labels declared held labelled added =>
    let Holds (tree : HostingTree) : Prop := tree.unlinked.mounts = state.tree.unlinked.mounts
    have start : Holds state.tree := rfl
    have same : Holds tree := by
      refine (HostingTree.addHostChain_preserves ?_ start held added).1
      intro current next above label linked holds placed member one
      exact (congrArg HostingTree.mounts (HostingTree.unlinked_addHost one).2).trans holds
    exact named.extends grown same
  | @mountAdded state waiting tree new place node properties content warnings location declared held free
      inherits derived added =>
    intro id mount inTree
    obtain ⟨same, bare⟩ := HostingTree.unlinked_addMount added
    rw [BuildState.report, bare] at inTree
    rcases getElem?_push_eq_some_iff.mp inTree with old | ⟨_, rfl⟩
    · obtain ⟨origin, host, declared, isName, hosted, identified⟩ := named id mount old
      exact ⟨origin, host, declared, isName, grown.hosts hosted, identified⟩
    · refine ⟨node, place.host.unlinked, declared, ?_, ?_, ?_⟩
      · rw [same]
        rfl
      · rw [same]
        exact grown.hosts held.host
      · rw [same]
        rfl

theorem Draft.Reaches.mountsNamed (reaches : Draft.Reaches config before after)
    (named : before.MountsNamed config) : after.MountsNamed config := by
  induction reaches with
  | refl => exact named
  | tail _ step ih => exact step.mountsNamed ih

end Run

section Built

variable {config : Configuration} {policy : BuildPolicy} {generation : Nat} {registry : Registry}

theorem Configuration.build_namesMount (built : config.build policy generation = .ok registry) {mount : Mount}
    (member : mount ∈ registry.tree.mounts) : config.NamesMount registry.tree mount := by
  obtain ⟨state, assembled, _, rfl⟩ := Configuration.build_eq_ok_iff.mp built
  obtain ⟨id, held⟩ := Array.mem_iff_getElem?.mp member
  have start : Draft.MountsNamed config ⟨{}, none⟩ := by
    intro id mount held
    simp [HostingTree.unlinked] at held
  have named : config.NamesMount state.tree mount.unlinked :=
    (Configuration.assemble_reaches assembled).mountsNamed start id _ (HostingTree.unlinked_mount held)
  exact named

/-- In the tree of a valid configuration no group, host or mount has a slash
in its name: every mount comes from a declared node, every label of a host
from a piece of a name, and validation refuses slashes in these. -/
theorem Configuration.build_no_slash (valid : config.isValid)
    (built : config.build policy generation = .ok registry) :
    (∀ host ∈ registry.tree.hosts, '/' ∉ host.group.toList ∧ '/' ∉ host.hostName.toList) ∧
      ∀ mount ∈ registry.tree.mounts, '/' ∉ mount.name.toList := by
  obtain ⟨wellFormed, namesHost⟩ := Configuration.build_namesHost built
  let Free (text : String) : Prop := '/' ∉ text.toList
  have own : ∀ host ∈ registry.tree.hosts, Free host.name := by
    intro host member inside
    obtain ⟨node, labels, label, declared, labelled, isLabel, isName⟩ := namesHost host member
    rw [isName] at inside
    have inLabel := Text.mem_of_mem_lowercase inside (by decide)
    exact (declared.isNodeName valid).2.no_slash (mem_of_mem_nodeLabels labelled isLabel inLabel)
  have full : ∀ host ∈ registry.tree.hosts, Free host.hostName := by
    refine wellFormed.toShaped.hostName_induction own ?_
    intro name above free freeAbove inside
    rw [toList_dotted, List.mem_append, List.mem_cons] at inside
    exact inside.elim free fun behind => behind.elim (by decide) freeAbove
  refine ⟨?_, ?_⟩
  · intro host member
    obtain ⟨node, _, _, declared, _⟩ := namesHost host member
    exact ⟨(declared.isNodeName valid).1.no_slash, full host member⟩
  · intro mount member
    obtain ⟨node, _, declared, isName, _⟩ := Configuration.build_namesMount built member
    rw [isName]
    exact (declared.isNodeName valid).no_slash

end Built

end SiteRouting
