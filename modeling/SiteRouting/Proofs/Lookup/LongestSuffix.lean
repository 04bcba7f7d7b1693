import Mathlib
import SiteRouting.Proofs.Tree.Labels

namespace SiteRouting

/-- The longest end of some labels that names a host of a group, empty
if none does. The walk goes down as long as there are children, so
this is where it ends. -/
structure HostingTree.LongestSuffix (tree : HostingTree) (group : String) (labels suffix : List String) :
    Prop where
  isSuffix : suffix <:+ labels
  named : suffix ≠ [] → ∃ host, tree.Stands group suffix host
  longest : ∀ (other : List String) (host : VirtualHost), other <:+ labels →
    tree.Stands group other host → other.length ≤ suffix.length

section Walk

variable {tree : HostingTree} {group : String} {labels : List String} {host : VirtualHost}

/-- One step down: the child with the next label, or else the wildcard
child at once. -/
theorem HostingTree.WellFormed.descend_cons (wellFormed : tree.WellFormed) (member : host ∈ tree.hosts)
    (label : String) (rest : List String) :
    tree.descend host (label :: rest) =
      match tree.childHost? host label with
      | none => tree.childHost? host wildcardLabel
      | some child => tree.descend child rest := by
  cases linked : host.child? label with
  | none =>
    have missing : tree.childHost? host label = none := by rw [HostingTree.childHost?, linked, Option.bind_none]
    rw [HostingTree.descend, linked, missing]
  | some id =>
    have children := wellFormed.hostChildren host.id host (wellFormed.host?_id member)
    obtain ⟨child, inTree, _⟩ := (children.lookup_iff label id).mp linked
    have inPlace : tree.host? id = some child := inTree
    have found : tree.childHost? host label = some child := by
      rw [HostingTree.childHost?, linked, Option.bind_some, inPlace]
    rw [HostingTree.descend, linked, found]
    simp only [inPlace]

/-- The walk takes labels while they lead to children. At the host where it
stops, no label is left or the next one leads nowhere and the wildcard child
takes it with all others. -/
theorem HostingTree.Stands.exists_descend (stands : tree.Stands group labels host) (named : tree.Named)
    (wellFormed : tree.WellFormed) (ahead : List String) :
    ∃ taken left last, ahead = taken ++ left ∧ tree.Stands group (taken.reverse ++ labels) last ∧
      (∀ label more, left = label :: more → tree.childHost? last label = none) ∧
      tree.descend host ahead = if left = [] then some last else tree.childHost? last wildcardLabel := by
  induction ahead generalizing host labels with
  | nil => exact ⟨[], [], host, rfl, stands, nofun, rfl⟩
  | cons label rest ih =>
    rw [wellFormed.descend_cons stands.member]
    cases found : tree.childHost? host label with
    | none =>
      refine ⟨[], label :: rest, host, rfl, stands, ?_, by simp⟩
      rintro _ _ ⟨⟩
      exact found
    | some child =>
      have below := (stands.childHost?_eq_some_iff named wellFormed).mp found
      obtain ⟨taken, left, last, split, standsLast, stops, reached⟩ := ih below
      refine ⟨label :: taken, left, last, by rw [split, List.cons_append], ?_, stops, reached⟩
      rwa [List.reverse_cons, List.append_assoc, List.singleton_append]

/-- Nothing longer names a host where the label in front of an end
leads to no child. -/
theorem HostingTree.Stands.length_le {front other : List String} {last : VirtualHost}
    (stands : tree.Stands group labels host) (named : tree.Named) (wellFormed : tree.WellFormed)
    (stops : ∀ label before, front = before ++ [label] → tree.childHost? host label = none)
    (isSuffix : other <:+ front ++ labels) (standsOther : tree.Stands group other last) :
    other.length ≤ labels.length := by
  rcases List.suffix_or_suffix_of_suffix isSuffix (List.suffix_append front labels) with inside | ⟨more, rfl⟩
  · exact inside.length_le
  obtain rfl | ⟨before, label, rfl⟩ := List.eq_nil_or_concat more
  · exact le_rfl
  -- The label before the end would lead to a child, but it is the last one of what stands in front.
  rw [List.concat_eq_append] at isSuffix standsOther
  obtain ⟨start, whole⟩ := isSuffix
  have isFront : front = (start ++ before) ++ [label] := by
    have whole : ((start ++ before) ++ [label]) ++ labels = front ++ labels := by
      rw [← whole]
      simp only [List.append_assoc]
    exact (List.append_cancel_right whole).symm
  rw [List.append_assoc] at standsOther
  obtain ⟨child, standsChild⟩ := standsOther.exists_of_append named wellFormed (List.cons_ne_nil _ _)
  have free := stops label (start ++ before) isFront
  rw [(stands.childHost?_eq_some_iff named wellFormed).mpr standsChild] at free
  cases free

end Walk

section Find

variable {tree : HostingTree} {group : HostGroup}

/-- The walk from the top of a group ends where the longest named end
of the labels stands. -/
theorem HostingTree.Named.exists_longestSuffix (named : tree.Named) (wellFormed : tree.WellFormed)
    (declared : group ∈ tree.groups) (labels : List String) :
    ∃ suffix, tree.LongestSuffix group.name labels suffix ∧
      (suffix = [] → tree.findHost group labels = none) ∧
      ∀ host, tree.Stands group.name suffix host → tree.findHost group labels =
        if suffix = labels then some host else tree.childHost? host wildcardLabel := by
  unfold HostingTree.findHost
  obtain rfl | ⟨front, last, rfl⟩ := List.eq_nil_or_concat labels
  · refine ⟨[], ⟨List.suffix_rfl, fun some_label => absurd rfl some_label, ?_⟩, fun _ => rfl, ?_⟩
    · exact fun other _ isSuffix _ => isSuffix.length_le
    · exact fun host stands => absurd rfl stands.ne_nil
  rw [List.concat_eq_append, List.reverse_append, List.reverse_singleton, List.singleton_append]
  dsimp only
  cases rooted : (group.root? last).bind tree.host? with
  | none =>
    refine ⟨[], ⟨List.nil_suffix, fun some_label => absurd rfl some_label, ?_⟩, fun _ => rfl, ?_⟩
    · intro other host isSuffix stands
      obtain rfl | ⟨before, rfl, _⟩ := List.suffix_concat_iff.mp isSuffix
      · exact absurd rfl stands.ne_nil
      obtain ⟨root, standsRoot⟩ := stands.exists_of_append named wellFormed (List.cons_ne_nil _ _)
      rw [(named.root?_eq_some_iff wellFormed declared).mpr standsRoot] at rooted
      cases rooted
    · exact fun host stands => absurd rfl stands.ne_nil
  | some root =>
    have standsRoot := (named.root?_eq_some_iff wellFormed declared).mp rooted
    obtain ⟨taken, left, deepest, split, stands, stops, reached⟩ :=
      standsRoot.exists_descend named wellFormed front.reverse
    have whole : front ++ [last] = left.reverse ++ (taken.reverse ++ [last]) := by
      rw [← List.reverse_reverse front, split, List.reverse_append, List.append_assoc]
    refine ⟨taken.reverse ++ [last], ⟨?_, fun _ => ⟨deepest, stands⟩, ?_⟩, ?_, ?_⟩
    · rw [whole]
      exact List.suffix_append _ _
    · intro other host isSuffix standsOther
      rw [whole] at isSuffix
      refine stands.length_le named wellFormed ?_ isSuffix standsOther
      intro label before isFront
      exact stops label before.reverse (by rw [← List.reverse_reverse left, isFront]; simp)
    · exact fun nothing => absurd nothing stands.ne_nil
    · intro host standsHost
      cases stands.unique named standsHost
      have all : left = [] ↔ taken.reverse ++ [last] = front ++ [last] := by
        rw [whole]
        simp
      simp only [reached, all]

/-- The walk ends at a host where the next label leads to no child. If a
label is left, the wildcard child takes it with all others. -/
theorem HostingTree.Stands.findHost_of_stops {front labels : List String} {host : VirtualHost}
    (stands : tree.Stands group.name labels host) (named : tree.Named) (wellFormed : tree.WellFormed)
    (declared : group ∈ tree.groups)
    (stops : ∀ label before, front = before ++ [label] → tree.childHost? host label = none) :
    tree.findHost group (front ++ labels) =
      if front = [] then some host else tree.childHost? host wildcardLabel := by
  obtain ⟨suffix, longest, _, reached⟩ := named.exists_longestSuffix wellFormed declared (front ++ labels)
  have isSuffix : labels <:+ front ++ labels := List.suffix_append front labels
  have atLeast : labels.length ≤ suffix.length := longest.longest labels host isSuffix stands
  have some_label : suffix ≠ [] := by
    rintro rfl
    exact stands.ne_nil (List.length_eq_zero_iff.mp (Nat.le_zero.mp atLeast))
  obtain ⟨last, standsLast⟩ := longest.named some_label
  have atMost := stands.length_le named wellFormed stops longest.isSuffix standsLast
  have same : suffix = labels :=
    (List.suffix_of_suffix_length_le longest.isSuffix isSuffix atMost).eq_of_length (atMost.antisymm atLeast)
  subst same
  rw [reached host stands]
  simp only [List.self_eq_append_left]

theorem HostingTree.Named.findHost_hostLabels {host : VirtualHost} (named : tree.Named)
    (wellFormed : tree.WellFormed) (declared : group ∈ tree.groups) (member : host ∈ tree.hosts)
    (inGroup : host.group = group.name) :
    tree.findHost group (hostLabels host.hostName) = some host := by
  have stands : tree.Stands group.name (hostLabels host.hostName) host := ⟨member, inGroup, rfl⟩
  have found : tree.findHost group ([] ++ hostLabels host.hostName) = _ :=
    stands.findHost_of_stops named wellFormed declared (by simp)
  rwa [if_pos rfl] at found

end Find

section Registry

variable {config : Configuration} {policy : BuildPolicy} {generation : Nat} {registry : Registry}

/-- In every group of an accepted build, labels lead to the host that
their longest named end names, if that is all of them; to the wildcard
child of that host, or nowhere without one, if some labels are left; and
nowhere if no end of them names a host. Every host is found by the labels
of its own name, whether these contain the wildcard or not, and no other
host of its group has that name. -/
theorem Configuration.build_finds_longest {group : HostGroup}
    (built : config.build policy generation = .ok registry) (declared : group ∈ registry.tree.groups) :
    (∀ labels, ∃ suffix, registry.tree.LongestSuffix group.name labels suffix ∧
      (suffix = [] → registry.tree.findHost group labels = none) ∧
      ∀ host, registry.tree.Stands group.name suffix host → registry.tree.findHost group labels =
        if suffix = labels then some host else registry.tree.childHost? host wildcardLabel) ∧
    ∀ host ∈ registry.tree.hosts, host.group = group.name →
      registry.tree.findHost group (hostLabels host.hostName) = some host ∧
      ∀ other ∈ registry.tree.hosts, other.group = group.name → other.hostName = host.hostName →
        other = host := by
  obtain ⟨wellFormed, named⟩ := Configuration.build_named built
  refine ⟨named.exists_longestSuffix wellFormed declared, ?_⟩
  intro host member inGroup
  refine ⟨named.findHost_hostLabels wellFormed declared member inGroup, ?_⟩
  intro other memberToo inGroupToo sameName
  have stands : registry.tree.Stands group.name (hostLabels host.hostName) host := ⟨member, inGroup, rfl⟩
  exact stands.unique named ⟨memberToo, inGroupToo, congrArg hostLabels sameName⟩

/-- A host with a child of its own beside the wildcard, which has one
as well, and an address. -/
def wildcardSite : Configuration where
  hostGroups := [{
    name := "prod"
    hosts := [
      .node { name := "com" } none [] [
        .node { name := "Example" } none [] [
          .node { name := "www" } none [] [],
          .node { name := wildcardLabel } none [] [.node { name := "eu" } none [] []]]],
      .node { name := "10.1" } none [] []] }]

theorem wildcardSite_finds :
    ∃ registry group suffix, wildcardSite.build .lenient 1 = .ok registry ∧
      group ∈ registry.tree.groups ∧
      registry.tree.hosts.toList.map (·.hostName) =
        ["com", "example.com", "www.example.com", "_default_.example.com", "eu._default_.example.com", "1",
          "10.1"] ∧
      registry.tree.LongestSuffix group.name ["eu", "shop", "example", "com"] suffix ∧
      (∀ host, registry.tree.Stands group.name suffix host →
        registry.tree.findHost group ["eu", "shop", "example", "com"] =
          if suffix = ["eu", "shop", "example", "com"] then some host
          else registry.tree.childHost? host wildcardLabel) ∧
      (registry.tree.findHost group ["eu", "shop", "example", "com"]).map (·.hostName) =
        some "_default_.example.com" := by
  have shown : (wildcardSite.build .lenient 1).toOption.map (fun registry =>
      (registry.tree.hosts.toList.map (·.hostName), registry.tree.groups.toList.map fun group =>
        (registry.tree.findHost group ["eu", "shop", "example", "com"]).map (·.hostName))) =
      some (["com", "example.com", "www.example.com", "_default_.example.com", "eu._default_.example.com",
        "1", "10.1"], [some "_default_.example.com"]) := by decide +kernel
  obtain ⟨registry, built, viewed⟩ := Configuration.build_of_view shown
  obtain ⟨hosts, groups⟩ := Prod.mk.inj viewed
  obtain ⟨group, only, reached⟩ := List.map_eq_singleton_iff.mp groups
  have declared : group ∈ registry.tree.groups := by
    rw [← Array.mem_toList_iff, only]
    exact List.mem_singleton_self group
  obtain ⟨suffix, longest, _, found⟩ :=
    (Configuration.build_finds_longest built declared).1 ["eu", "shop", "example", "com"]
  exact ⟨registry, group, suffix, built, declared, hosts, longest, found, reached⟩

end Registry

end SiteRouting
