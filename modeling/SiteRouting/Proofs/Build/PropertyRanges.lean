import Mathlib
import SiteRouting.Proofs.Build.Inheritance
import SiteRouting.Proofs.Lookup.AliasIndex
import SiteRouting.Proofs.Text.Trimming

namespace SiteRouting

/-- A scheme that counts: some text without a blank at either end.
Nothing more is asked of it. -/
structure IsScheme (scheme : String) : Prop where
  set : scheme ≠ ""
  trimmed : Text.IsTrimmed scheme

/-- Common properties that a request can be answered with. Nothing checks a
property once a node is built, so the defaults have to start in range and
every node has to stay there, whatever it configures. -/
structure NodeProperties.InRange (properties : NodeProperties) : Prop where
  responseCode : properties.schemeNotMatchingResponseCode ∈ supportedResponseCodes
  contextPath : ∀ path, properties.onlyForContextPath = some path →
    ∃ segment, path = "/" ++ segment ∧ '/' ∉ segment.toList
  scheme : IsScheme properties.scheme

/-- The types of a mount: the mount type, and then what else is configured,
in the order in which each type is first mentioned. -/
structure MountProperties.ListsTypes (properties : MountProperties) (types : List String) : Prop where
  first : types.head? = some properties.mountType
  distinct : types.Nodup
  mem : ∀ type, type ∈ types ↔ type = properties.mountType ∨ type ∈ properties.extraTypes
  ordered : types.tail.Pairwise fun a b => properties.extraTypes.idxOf a < properties.extraTypes.idxOf b

section Common

variable {above : NodeProperties} {own : NodeSettings} {fallback : String}

theorem responseCodeOr_mem {inherited : Nat} (supported : inherited ∈ supportedResponseCodes)
    (own : Option Nat) : responseCodeOr inherited own ∈ supportedResponseCodes := by
  cases own with
  | none => exact supported
  | some code =>
    rw [responseCodeOr]
    split
    · rename_i usable
      exact List.contains_iff_mem.mp usable
    · exact supported

theorem exists_segment_of_isContextPath {path : String} (isPath : isContextPath path = true) :
    ∃ segment, path = "/" ++ segment ∧ '/' ∉ segment.toList := by
  unfold isContextPath at isPath
  split at isPath
  · rename_i segment whole
    refine ⟨String.ofList segment, ?_, by simpa using isPath⟩
    simp [← String.toList_inj, whole]
  · cases isPath

/-- What a node restricts is a context path; otherwise it lifts the
restriction or leaves it as it is. -/
theorem contextPath_apply {inherited own : Option String} {path : String}
    (restricted : (ContextPathSetting.read own).apply inherited = some path) :
    inherited = some path ∨ isContextPath path = true := by
  rw [contextPath_apply_eq] at restricted
  cases own with
  | none => exact .inl restricted
  | some setting =>
    obtain ⟨isPath, same⟩ := Option.ite_none_right_eq_some.mp restricted
    cases same
    exact .inr isPath

theorem isScheme_schemeOr (usable : IsScheme fallback) (scheme : String) :
    IsScheme (schemeOr fallback scheme) := by
  unfold schemeOr
  split
  · exact usable
  · rename_i visible
    exact ⟨fun blank => visible (String.isEmpty_iff.mpr blank), Text.isTrimmed_trim scheme⟩

theorem isScheme_defaultScheme : IsScheme defaultScheme :=
  ⟨by decide, Text.trim_eq_self_iff.mp (by decide)⟩

theorem isScheme_overlaid {inherited : String} (counts : IsScheme inherited) (usable : IsScheme fallback)
    (own : Option String) : IsScheme ((own.map (schemeOr fallback)).getD inherited) := by
  cases own with
  | none =>
    rw [Option.map_none, Option.getD_none]
    exact counts
  | some scheme =>
    rw [Option.map_some, Option.getD_some]
    exact isScheme_schemeOr usable scheme

/-- A node keeps the properties in range if a blank scheme gives way
to one that counts. -/
theorem NodeProperties.InRange.overlay (inRange : above.InRange) (own : NodeSettings)
    (usable : IsScheme fallback) : (above.overlay own fallback).InRange := by
  refine ⟨responseCodeOr_mem inRange.responseCode _, ?_, isScheme_overlaid inRange.scheme usable own.scheme⟩
  intro path restricted
  rcases contextPath_apply restricted with fromAbove | isPath
  · exact inRange.contextPath path fromAbove
  · exact exists_segment_of_isContextPath isPath

theorem Defaults.properties_inRange (defaults : Defaults) : defaults.properties.InRange := by
  have scheme : IsScheme defaults.properties.scheme :=
    isScheme_overlaid isScheme_defaultScheme isScheme_defaultScheme defaults.scheme
  have standard : defaultResponseCode ∈ supportedResponseCodes := by decide
  refine ⟨responseCodeOr_mem standard (some defaults.schemeNotMatchingResponseCode), ?_, scheme⟩
  intro path restricted
  exact exists_segment_of_isContextPath ((contextPath_apply restricted).resolve_left nofun)

end Common

section Lineages

variable (defaults : Defaults)

theorem HostLineage.properties_inRange (lineage : HostLineage) : (lineage.properties defaults).InRange := by
  rw [HostLineage.properties]
  induction lineage.nodes with
  | nil => exact defaults.properties_inRange
  | cons own rest ih => exact ih.overlay _ isScheme_defaultScheme

theorem MountLineage.properties_inRange (lineage : MountLineage) :
    (lineage.properties defaults).toNodeProperties.InRange := by
  rw [MountLineage.properties]
  induction lineage.nodes with
  | nil => exact lineage.host.properties_inRange defaults
  | cons own rest ih => exact ih.overlay _ ih.scheme

end Lineages

section Types

theorem Text.mem_firstOccurrences {type : String} {texts : List String} :
    type ∈ Text.firstOccurrences texts ↔ type ∈ texts := by
  induction texts with
  | nil => rfl
  | cons text rest ih =>
    rw [Text.firstOccurrences, List.mem_cons, List.mem_cons, List.mem_filter, ih, decide_eq_true_iff]
    by_cases same : type = text <;> simp [same]

/-- First occurrences stand in the order of the positions that they
are first found at. -/
theorem Text.pairwise_firstOccurrences (texts : List String) :
    (Text.firstOccurrences texts).Pairwise fun a b => texts.idxOf a < texts.idxOf b := by
  induction texts with
  | nil => exact List.Pairwise.nil
  | cons text rest ih =>
    refine List.pairwise_cons.mpr ⟨?_, ?_⟩
    · intro later kept
      have other : later ≠ text := by simpa using (List.mem_filter.mp kept).2
      rw [List.idxOf_cons_self, List.idxOf_cons_ne _ other.symm]
      exact Nat.succ_pos _
    · refine (ih.filter _).imp_of_mem ?_
      intro a b keptA keptB earlier
      have otherA : a ≠ text := by simpa using (List.mem_filter.mp keptA).2
      have otherB : b ≠ text := by simpa using (List.mem_filter.mp keptB).2
      rw [List.idxOf_cons_ne _ otherA.symm, List.idxOf_cons_ne _ otherB.symm]
      exact Nat.succ_lt_succ earlier

theorem MountProperties.listsTypes (properties : MountProperties) :
    properties.ListsTypes properties.types where
  first := rfl
  distinct := Text.nodup_firstOccurrences _
  mem _ := Text.mem_firstOccurrences.trans List.mem_cons
  ordered := (Text.pairwise_firstOccurrences properties.extraTypes).filter _

end Types

/-- Every host and every mount of an accepted build has its properties in
range, and the types of a mount are the mount type and the further types,
each once and in the order of their first mention. -/
theorem Configuration.build_inRange {config : Configuration} {policy : BuildPolicy} {generation : Nat}
    {registry : Registry} (built : config.build policy generation = .ok registry) :
    (∀ host ∈ registry.tree.hosts, host.properties.InRange) ∧
      ∀ mount ∈ registry.tree.mounts, mount.properties.toNodeProperties.InRange ∧
        mount.properties.ListsTypes mount.types := by
  have shown := Configuration.build_shows built
  constructor
  · intro host member
    obtain ⟨id, inside, rfl⟩ := Array.mem_iff_getElem.mp member
    obtain ⟨lineage, _, _, _, described, _⟩ := shown.host id _ (Array.getElem?_eq_getElem inside)
    rw [described.properties]
    exact lineage.properties_inRange config.hosts
  · intro mount member
    refine ⟨?_, mount.properties.listsTypes⟩
    obtain ⟨id, inside, rfl⟩ := Array.mem_iff_getElem.mp member
    obtain ⟨lineage, _, _, _, _, described, _⟩ := shown.mount id _ (Array.getElem?_eq_getElem inside)
    rw [described.properties]
    exact lineage.properties_inRange config.hosts

/-- Values out of range at every level: codes that are not supported, paths that
are no context paths, and schemes that are blank or have blanks around them. -/
def unrulySite : Configuration where
  hosts := { scheme := some " ", schemeNotMatchingResponseCode := 500, defaultContextPath := some "site" }
  sites := [{ path := "/live", contentPath := "/content" }]
  hostGroups := [{
    name := "prod"
    hosts := [
      .node { name := "localhost", scheme := some " https ", onlyForContextPath := some "/site" }
        (some (.node { mountPoint := some "/live", types := some ["live", "b", "a", "b"] } [
          .node { name := "news", scheme := some " ", onlyForContextPath := some "/a/b",
                  schemeNotMatchingResponseCode := some 999 } []])) [] []] }]

theorem unrulySite_inRange :
    ∃ registry, unrulySite.build .lenient 1 = .ok registry ∧
      registry.tree.hosts.toList.map (fun host => (host.properties.scheme,
        host.properties.schemeNotMatchingResponseCode)) = [("https", 301)] ∧
      registry.tree.mounts.toList.map (fun mount => (mount.types, mount.properties.onlyForContextPath)) =
        [(["live", "b", "a"], some "/site"), (["live", "b", "a"], none)] ∧
      (∀ host ∈ registry.tree.hosts, host.properties.InRange) ∧
      ∀ mount ∈ registry.tree.mounts, mount.properties.toNodeProperties.InRange ∧
        mount.properties.ListsTypes mount.types := by
  have shown : (unrulySite.build .lenient 1).toOption.map (fun registry =>
      (registry.tree.hosts.toList.map (fun host => (host.properties.scheme,
        host.properties.schemeNotMatchingResponseCode)),
        registry.tree.mounts.toList.map fun mount => (mount.types, mount.properties.onlyForContextPath))) =
      some ([("https", 301)], [(["live", "b", "a"], some "/site"), (["live", "b", "a"], none)]) := by
    decide +kernel
  obtain ⟨registry, built, viewed⟩ := Configuration.build_of_view shown
  obtain ⟨hosts, mounts⟩ := Prod.mk.inj viewed
  exact ⟨registry, built, hosts, mounts, Configuration.build_inRange built⟩

end SiteRouting
