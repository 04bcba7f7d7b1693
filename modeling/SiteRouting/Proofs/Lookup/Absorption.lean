import Mathlib
import SiteRouting.Proofs.Lookup.LongestSuffix

namespace SiteRouting

section Wildcard

variable {tree : HostingTree} {group : String} {labels : List String} {host wildcard : VirtualHost}

theorem HostingTree.childHost?_of_childless (tree : HostingTree) (childless : host.children = [])
    (label : String) : tree.childHost? host label = none := by
  rw [HostingTree.childHost?, VirtualHost.child?, childless]
  rfl

theorem HostingTree.Stands.eq_wildcardLabel (stands : tree.Stands group labels host) (named : tree.Named)
    (wellFormed : tree.WellFormed) (isWildcard : tree.childHost? host wildcardLabel = some wildcard)
    {label : String} (found : tree.childHost? host label = some wildcard) : label = wildcardLabel := by
  have marked := (stands.childHost?_eq_some_iff named wellFormed).mp isWildcard
  have labelled := (stands.childHost?_eq_some_iff named wellFormed).mp found
  exact (List.cons.inj (labelled.labels.symm.trans marked.labels)).1

end Wildcard

section Registry

variable {config : Configuration} {policy : BuildPolicy} {generation : Nat} {registry : Registry}

/-- In an accepted build, a wildcard child without children of its own takes
every label in front of the labels of its parent that no other child has, and
all labels before it. Only if that label is the wildcard itself and others
stand before it, nothing is found: then the walk takes it as a label like any
other and finds nothing behind it. -/
theorem Configuration.build_absorbs (built : config.build policy generation = .ok registry)
    {group : HostGroup} {host wildcard : VirtualHost} (declared : group ∈ registry.tree.groups)
    (member : host ∈ registry.tree.hosts) (inGroup : host.group = group.name)
    (isWildcard : registry.tree.childHost? host wildcardLabel = some wildcard)
    (childless : wildcard.children = []) (front : List String) {label : String}
    (only : ∀ child, registry.tree.childHost? host label = some child → child = wildcard) :
    registry.tree.findHost group (front ++ label :: hostLabels host.hostName) =
      if label = wildcardLabel ∧ front ≠ [] then none else some wildcard := by
  obtain ⟨wellFormed, named⟩ := Configuration.build_named built
  have stands : registry.tree.Stands group.name (hostLabels host.hostName) host := ⟨member, inGroup, rfl⟩
  cases found : registry.tree.childHost? host label with
  | none =>
    -- The walk stops at the host itself and leaves the label to the wildcard.
    have other : label ≠ wildcardLabel := by
      rintro rfl
      cases isWildcard.symm.trans found
    have stops : ∀ next before, front ++ [label] = before ++ [next] →
        registry.tree.childHost? host next = none := by
      intro next before split
      have same : label = next := List.singleton_inj.mp (List.append_inj' split rfl).2
      exact same ▸ found
    rw [List.append_cons, stands.findHost_of_stops named wellFormed declared stops, isWildcard,
      if_neg (by simp), if_neg fun marked => other marked.1]
  | some child =>
    -- The label leads to the wildcard, and from there no label leads on.
    cases only child found
    have marker := stands.eq_wildcardLabel named wellFormed isWildcard found
    have below := (stands.childHost?_eq_some_iff named wellFormed).mp found
    have nothing := registry.tree.childHost?_of_childless childless
    rw [below.findHost_of_stops named wellFormed declared fun next _ _ => nothing next, nothing]
    simp only [marker, true_and]
    by_cases nobody : front = [] <;> simp [nobody]

/-- A host with the wildcard and a host of its own below it. -/
def absorbingSite : Configuration where
  hostGroups := [{
    name := "prod"
    hosts := [.node { name := "com" } none [] [
      .node { name := "example" } none [] [
        .node { name := "www" } none [] [],
        .node { name := wildcardLabel } (some (.node { identifier := some "any" } [])) [] []]]] }]

theorem absorbingSite_hosts :
    ∃ registry group host wildcard, absorbingSite.build .lenient 1 = .ok registry ∧
      group ∈ registry.tree.groups ∧ host ∈ registry.tree.hosts ∧ host.group = group.name ∧
      host.hostName = "example.com" ∧ registry.tree.childHost? host wildcardLabel = some wildcard ∧
      wildcard.children = [] ∧ registry.tree.childHost? host "shop" = none ∧
      registry.tree.findHost group ["shop", wildcardLabel, "example", "com"] = none := by
  have shown : (absorbingSite.build .lenient 1).toOption.map (fun registry =>
      (registry.tree.groups.toList.map (fun group =>
        (group.name, (registry.tree.findHost group ["shop", wildcardLabel, "example", "com"]).isNone)),
      (registry.tree.hosts[1]?).map fun host => ([host.group, host.hostName],
        (registry.tree.childHost? host wildcardLabel).map (·.children.isEmpty),
        (registry.tree.childHost? host "shop").isNone))) =
      some ([("prod", true)], some (["prod", "example.com"], some true, true)) := by decide +kernel
  obtain ⟨registry, built, viewed⟩ := Configuration.build_of_view shown
  obtain ⟨groups, second⟩ := Prod.mk.inj viewed
  obtain ⟨group, only, viewed⟩ := List.map_eq_singleton_iff.mp groups
  obtain ⟨isName, missed⟩ := Prod.mk.inj viewed
  obtain ⟨host, held, viewed⟩ := Option.map_eq_some_iff.mp second
  obtain ⟨names, viewed⟩ := Prod.mk.inj viewed
  obtain ⟨inGroup, hostName⟩ : host.group = "prod" ∧ host.hostName = "example.com" := by simpa using names
  obtain ⟨below, noShop⟩ := Prod.mk.inj viewed
  obtain ⟨wildcard, isWildcard, childless⟩ := Option.map_eq_some_iff.mp below
  have declared : group ∈ registry.tree.groups := by
    rw [← Array.mem_toList_iff, only]
    exact List.mem_singleton_self group
  exact ⟨registry, group, host, wildcard, built, declared, Array.mem_of_getElem? held,
    inGroup.trans isName.symm, hostName, isWildcard, List.isEmpty_iff.mp childless, Option.isNone_iff_eq_none.mp noShop,
    Option.isNone_iff_eq_none.mp missed⟩

/-- A request whose label is the wildcard itself, with one more label
before it, is lost. -/
theorem absorbingSite_loses_marker :
    ∃ registry group host wildcard, absorbingSite.build .lenient 1 = .ok registry ∧
      group ∈ registry.tree.groups ∧ host ∈ registry.tree.hosts ∧ host.group = group.name ∧
      registry.tree.childHost? host wildcardLabel = some wildcard ∧ wildcard.children = [] ∧
      (∀ child, registry.tree.childHost? host wildcardLabel = some child → child = wildcard) ∧
      registry.tree.findHost group (["shop", wildcardLabel] ++ hostLabels host.hostName) ≠ some wildcard := by
  obtain ⟨registry, group, host, wildcard, built, declared, member, inGroup, hostName, isWildcard, childless,
    _, missed⟩ := absorbingSite_hosts
  have labels : hostLabels "example.com" = ["example", "com"] := by decide +kernel
  refine ⟨registry, group, host, wildcard, built, declared, member, inGroup, isWildcard, childless, ?_, ?_⟩
  · exact fun child found => Option.some.inj (found.symm.trans isWildcard)
  · rw [hostName, labels]
    exact missed ▸ nofun

theorem absorbingSite_absorbs :
    ∃ registry group host wildcard, absorbingSite.build .lenient 1 = .ok registry ∧
      group ∈ registry.tree.groups ∧ host ∈ registry.tree.hosts ∧ host.hostName = "example.com" ∧
      registry.tree.childHost? host wildcardLabel = some wildcard ∧ wildcard.children = [] ∧
      registry.tree.findHost group ("eu" :: wildcardLabel :: "shop" :: hostLabels host.hostName) =
        some wildcard := by
  obtain ⟨registry, group, host, wildcard, built, declared, member, inGroup, hostName, isWildcard, childless,
    noShop, _⟩ := absorbingSite_hosts
  have only : ∀ child, registry.tree.childHost? host "shop" = some child → child = wildcard := by
    intro child found
    cases noShop.symm.trans found
  have absorbed :=
    Configuration.build_absorbs built declared member inGroup isWildcard childless ["eu", wildcardLabel] only
  rw [if_neg fun marked => absurd marked.1 (by decide)] at absorbed
  exact ⟨registry, group, host, wildcard, built, declared, member, hostName, isWildcard, childless, absorbed⟩

end Registry

end SiteRouting
