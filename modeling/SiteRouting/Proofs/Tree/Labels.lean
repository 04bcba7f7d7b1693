import Mathlib
import SiteRouting.Proofs.Build.Rejection
import SiteRouting.Tree.Walk

namespace SiteRouting

section Text

theorem hostLabels_inj {name other : String} (same : hostLabels name = hostLabels other) : name = other := by
  have joined (s : String) :
      Text.joinSegments '.' ((hostLabels s).map String.toList) = s.toList := by
    rw [hostLabels, Text.splitAt, List.map_map]
    have identity : String.toList ∘ String.ofList = id := funext fun _ => String.toList_ofList
    rw [identity, List.map_id, Text.joinSegments_segments]
  rw [← String.toList_inj, ← joined name, ← joined other, same]

theorem hostLabels_of_undotted {name : String} (undotted : '.' ∉ name.toList) : hostLabels name = [name] := by
  rw [hostLabels, Text.splitAt, Text.segments_of_not_mem undotted, List.map_singleton, String.ofList_toList]

theorem hostLabels_dotted {first rest : String} (undotted : '.' ∉ first.toList) :
    hostLabels s!"{first}.{rest}" = first :: hostLabels rest := by
  rw [hostLabels, Text.splitAt, toList_dotted, Text.segments_append _ undotted, List.map_cons,
    String.ofList_toList]
  rfl

theorem hostLabels_ne_nil (name : String) : hostLabels name ≠ [] := by
  simp [hostLabels, Text.splitAt, Text.segments_ne_nil]

end Text

/-- A host of a group is named by exactly these labels, which are the names
of the host and of the hosts above it. -/
structure HostingTree.Stands (tree : HostingTree) (group : String) (labels : List String)
    (host : VirtualHost) : Prop where
  member : host ∈ tree.hosts
  group : host.group = group
  labels : hostLabels host.hostName = labels

section Labels

variable {tree : HostingTree} {group label : String} {labels : List String} {host other : VirtualHost}

theorem HostingTree.WellFormed.host?_id (wellFormed : tree.WellFormed) (member : host ∈ tree.hosts) :
    tree.host? host.id = some host := by
  obtain ⟨id, held⟩ := Array.mem_iff_getElem?.mp member
  rw [(wellFormed.hosts id host held).position]
  exact held

theorem HostingTree.Named.undotted_name (named : tree.Named) (member : host ∈ tree.hosts) :
    '.' ∉ host.name.toList := by
  obtain ⟨id, held⟩ := Array.mem_iff_getElem?.mp member
  exact named.undotted id host.unlinked (HostingTree.unlinked_host held)

theorem HostingTree.Stands.ne_nil (stands : tree.Stands group labels host) : labels ≠ [] :=
  stands.labels ▸ hostLabels_ne_nil host.hostName

theorem HostingTree.Stands.unique (stands : tree.Stands group labels host) (named : tree.Named)
    (standsToo : tree.Stands group labels other) : other = host := by
  obtain ⟨i, atI⟩ := Array.mem_iff_getElem?.mp stands.member
  obtain ⟨j, atJ⟩ := Array.mem_iff_getElem?.mp standsToo.member
  have sameName : other.hostName = host.hostName :=
    hostLabels_inj (standsToo.labels.trans stands.labels.symm)
  have sameGroup : other.group = host.group := standsToo.group.trans stands.group.symm
  have same : other.unlinked.fullName = host.unlinked.fullName := by
    simp only [VirtualHost.fullName, VirtualHost.unlinked, sameName, sameGroup]
  have position := named.position_unique (HostingTree.unlinked_host atJ) (HostingTree.unlinked_host atI) same
  rw [position] at atJ
  exact Option.some.inj (atJ.symm.trans atI)

/-- The labels of a host on top of its group are its own name alone. -/
theorem HostingTree.Named.stands_top (named : tree.Named) (wellFormed : tree.WellFormed)
    (member : host ∈ tree.hosts) (top : host.parent = none) : tree.Stands host.group [host.name] host := by
  refine ⟨member, rfl, ?_⟩
  have shaped := wellFormed.hosts host.id host (wellFormed.host?_id member)
  rw [shaped.top top, hostLabels_of_undotted (named.undotted_name member)]

/-- The labels of any other host are its own name and the labels of its parent. -/
theorem HostingTree.Named.stands_below (named : tree.Named) (wellFormed : tree.WellFormed)
    (member : host ∈ tree.hosts) {parent : HostId} (below : host.parent = some parent) :
    ∃ above, tree.host? parent = some above ∧ above ∈ tree.hosts ∧
      tree.Stands above.group (host.name :: hostLabels above.hostName) host := by
  have shaped := wellFormed.hosts host.id host (wellFormed.host?_id member)
  obtain ⟨_, above, held, isName, isGroup⟩ := shaped.below parent below
  refine ⟨above, held, Array.mem_of_getElem? held, member, isGroup, ?_⟩
  rw [isName, hostLabels_dotted (named.undotted_name member)]

/-- The child of a host with a label is the host with that label in front of
the labels of its parent. -/
theorem HostingTree.Stands.childHost?_eq_some_iff {child : VirtualHost}
    (stands : tree.Stands group labels host) (named : tree.Named) (wellFormed : tree.WellFormed) :
    tree.childHost? host label = some child ↔ tree.Stands group (label :: labels) child := by
  have held := wellFormed.host?_id stands.member
  have children := wellFormed.hostChildren host.id host held
  rw [HostingTree.childHost?, Option.bind_eq_some_iff]
  constructor
  · rintro ⟨id, linked, isChild⟩
    obtain ⟨node, inTree, below, isLabel⟩ := (children.lookup_iff label id).mp linked
    cases isChild.symm.trans inTree
    obtain ⟨above, isParent, _, standsChild⟩ :=
      named.stands_below wellFormed (Array.mem_of_getElem? inTree) below
    cases held.symm.trans isParent
    rwa [isLabel, stands.labels, stands.group] at standsChild
  · intro standsChild
    cases parent : child.parent with
    | none =>
      have top := (named.stands_top wellFormed standsChild.member parent).labels
      rw [standsChild.labels, List.cons.injEq] at top
      exact absurd top.2 stands.ne_nil
    | some above =>
      obtain ⟨node, isParent, inTree, standsBelow⟩ := named.stands_below wellFormed standsChild.member parent
      have split := standsChild.labels.symm.trans standsBelow.labels
      rw [List.cons.injEq] at split
      have standsNode : tree.Stands group labels node :=
        ⟨inTree, standsBelow.group.symm.trans standsChild.group, split.2.symm⟩
      cases stands.unique named standsNode
      have position : above = host.id :=
        ((wellFormed.hosts above host isParent).position).symm
      have inChildren := wellFormed.host?_id standsChild.member
      refine ⟨child.id, ?_, inChildren⟩
      exact (children.lookup_iff label child.id).mpr
        ⟨child, inChildren, position ▸ parent, split.1.symm⟩

/-- The root of a group with a label is the host with that label alone. -/
theorem HostingTree.Named.root?_eq_some_iff (named : tree.Named) (wellFormed : tree.WellFormed)
    {node : HostGroup} (declared : node ∈ tree.groups) :
    (node.root? label).bind tree.host? = some host ↔ tree.Stands node.name [label] host := by
  obtain ⟨i, inGroups⟩ := Array.mem_iff_getElem?.mp declared
  have roots := wellFormed.roots i node inGroups
  rw [Option.bind_eq_some_iff]
  constructor
  · rintro ⟨id, linked, isRoot⟩
    obtain ⟨root, inTree, ⟨top, inGroup⟩, isLabel⟩ := (roots.lookup_iff label id).mp linked
    cases isRoot.symm.trans inTree
    have stands := named.stands_top wellFormed (Array.mem_of_getElem? inTree) top
    rwa [inGroup, isLabel] at stands
  · intro stands
    have inTree := wellFormed.host?_id stands.member
    cases parent : host.parent with
    | some above =>
      obtain ⟨_, _, _, standsBelow⟩ := named.stands_below wellFormed stands.member parent
      have split := stands.labels.symm.trans standsBelow.labels
      rw [List.cons.injEq] at split
      exact absurd split.2.symm (hostLabels_ne_nil _)
    | none =>
      have top := (named.stands_top wellFormed stands.member parent).labels
      rw [stands.labels, List.cons.injEq] at top
      exact ⟨host.id, (roots.lookup_iff label host.id).mpr
        ⟨host, inTree, ⟨parent, stands.group⟩, top.1.symm⟩, inTree⟩

theorem HostingTree.Stands.exists_of_append {front : List String}
    (stands : tree.Stands group (front ++ labels) host) (named : tree.Named)
    (wellFormed : tree.WellFormed) (some_label : labels ≠ []) : ∃ above, tree.Stands group labels above := by
  induction front generalizing host with
  | nil => exact ⟨host, stands⟩
  | cons first rest ih =>
    cases parent : host.parent with
    | none =>
      have top := (named.stands_top wellFormed stands.member parent).labels
      rw [stands.labels, List.cons_append, List.cons.injEq, List.append_eq_nil_iff] at top
      exact absurd top.2.2 some_label
    | some id =>
      obtain ⟨above, _, inTree, standsBelow⟩ := named.stands_below wellFormed stands.member parent
      have split := stands.labels.symm.trans standsBelow.labels
      rw [List.cons_append, List.cons.injEq] at split
      exact ih ⟨inTree, standsBelow.group.symm.trans stands.group, split.2.symm⟩

end Labels

/-- The tree of an accepted build is well-formed, and names lead to its hosts. -/
theorem Configuration.build_named {config : Configuration} {policy : BuildPolicy} {generation : Nat}
    {registry : Registry} (built : config.build policy generation = .ok registry) :
    registry.tree.WellFormed ∧ registry.tree.Named := by
  obtain ⟨state, assembled, _, rfl⟩ := Configuration.build_eq_ok_iff.mp built
  have good := Configuration.assemble_good assembled
  exact ⟨HostingTree.wellFormed_of_bound good.shaped good.linked good.bound, good.named_tree⟩

end SiteRouting
