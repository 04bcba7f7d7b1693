import Mathlib
import SiteRouting.Proofs.Build.Correspondence

namespace SiteRouting

/-- What the logs of a build and of the build without its broken subtrees
have to do with each other and with what was cut off. -/
structure TwinBuild.Logged (twin : TwinBuild) : Prop where
  cut : twin.issues.filter (·.fault.cutsOff) = twin.cuts.map (·.issue)
  clean : ∀ issue ∈ twin.keptIssues, issue.fault.cutsOff = false
  sublist : twin.keptIssues.Sublist twin.issues

section Logs

variable {config : Configuration} {before after : TwinBuild}

theorem TwinBuild.Logged.note (location : String) {faults : List Fault} (logged : before.Logged)
    (harmless : ∀ fault ∈ faults, fault.cutsOff = false) : (before.note location faults).Logged where
  cut := by
    rw [TwinBuild.note, List.filter_append, filter_issuesAt_eq_nil location harmless, List.append_nil]
    exact logged.cut
  clean issue member := by
    rcases List.mem_append.mp member with old | new
    · exact logged.clean issue old
    · obtain ⟨fault, found, rfl⟩ := List.mem_map.mp new
      exact harmless fault found
  sublist := logged.sublist.append (List.Sublist.refl _)

theorem TwinBuild.Logged.skip {faults : List Fault} {cut : Cut} (logged : before.Logged)
    (notes : AreNotes faults) (severe : cut.issue.fault.cutsOff = true) :
    (before.skip faults cut).Logged where
  cut := by
    have found : (faults ++ [cut.issue.fault]).filter (·.cutsOff) = [cut.issue.fault] := by
      have harmless : faults.filter (·.cutsOff) = [] :=
        List.filter_eq_nil_iff.mpr fun fault member => Bool.eq_false_iff.mp (notes fault member).1
      rw [List.filter_append, harmless, List.filter_singleton, severe]
      rfl
    rw [TwinBuild.skip, List.filter_append, logged.cut, filter_issuesAt, found, List.map_append]
    rfl
  clean := logged.clean
  sublist := logged.sublist.trans (List.sublist_append_left _ _)

theorem TwinBuild.Step.logged (step : TwinBuild.Step config before after) (logged : before.Logged) :
    after.Logged := by
  cases step with
  | noted location notes => exact logged.note location fun fault member => (notes fault member).1
  | skipped notes severe => exact logged.skip notes severe
  | groupAdded added => exact ⟨logged.cut, logged.clean, logged.sublist⟩
  | hostAdded placed entered added => exact ⟨logged.cut, logged.clean, logged.sublist⟩
  | @mountAdded tree place above own content warnings mount placed derived added =>
    have notes := (NodeSettings.areNotes_faults own.toNodeSettings).append
      (MountProperties.contentPaths_warnings derived)
    have harmless : ∀ fault ∈ own.faults ++ warnings ++ (before.index.add tree mount).2,
        fault.cutsOff = false := by
      intro fault member
      rcases List.mem_append.mp member with found | conflict
      · exact (notes fault found).1
      · exact Fault.cutsOff_of_isConflict (MountIndex.add_conflicts mount fault conflict)
    have noted := logged.note (above.below own).location harmless
    exact ⟨noted.cut, noted.clean, noted.sublist⟩
  | portBound added => exact ⟨logged.cut, logged.clean, logged.sublist⟩

theorem TwinBuild.Reaches.logged (reaches : TwinBuild.Reaches config before after)
    (logged : before.Logged) : after.Logged := by
  induction reaches with
  | refl => exact logged
  | tail _ step ih => exact step.logged ih

end Logs

/-- A lenient build loses exactly what is cut off when its configuration is
pruned. Every node stays or is in one of the branches that are cut off. What
stays builds the same registry, apart from the issues: of those that cost a
subtree none is left, and in the build of the whole configuration there is
one for every cut, in declared order. The hosts and mounts of the tree are
those of the nodes that stay, in declared order. -/
theorem Configuration.build_loses_cuts {config : Configuration} {generation : Nat} {registry : Registry}
    (built : config.build .lenient generation = .ok registry) :
    config.declared.Perm (config.prune.kept.declared ++ declaredByCuts config.prune.cuts) ∧
      registry.issues.filter (·.fault.cutsOff) = config.prune.cuts.map (·.issue) ∧
      registry.tree.Shows config config.prune.kept.hostLineages config.prune.kept.mountLineages ∧
      ∃ issues, config.prune.kept.build .lenient generation = .ok { registry with issues } ∧
        (∀ issue ∈ issues, issue.fault.cutsOff = false) ∧ issues.Sublist registry.issues := by
  have shown := Configuration.build_shows built
  obtain ⟨state, assembled, accepted, rfl⟩ := Configuration.build_eq_ok_iff.mp built
  obtain ⟨after, runs, rfl, kept⟩ := Configuration.assemble_twin assembled
  have logged : after.Logged := runs.reaches.logged ⟨rfl, by simp, List.Sublist.refl _⟩
  have acceptedToo : issuesAtLeast BuildPolicy.lenient.refuses after.keptIssues = [] :=
    List.sublist_nil.mp (accepted ▸ logged.sublist.filter _)
  have cuts : after.cuts = config.prune.cuts := runs.cuts
  refine ⟨config.declared_perm, cuts ▸ logged.cut, shown, after.keptIssues, ?_, logged.clean,
    logged.sublist⟩
  exact Configuration.build_eq_ok_iff.mpr ⟨after.kept, kept, acceptedToo, rfl⟩

/-- A dotted host name, a mount that fails before a sibling of its name, a
sibling of a taken name, a root mount that fails before an entry for any
port, and two entries for one port. -/
def patchySite : Configuration where
  hostGroups := [{
    name := "prod"
    hosts := [
      .node { name := "Com" } (some (.node { mountPoint := some "relative" } [.node { name := "lost" } []]))
        [⟨0, some (.node {} [
            .node { name := "news", mountPoint := some "/missing" } [],
            .node { name := "news" } [.node { name := "sport" } []],
            .node { name := "news", aliasName := some "repeated" } []])⟩,
          ⟨8080, none⟩, ⟨8080, some (.node {} [])⟩]
        [.node { name := "api.v2" } none [] [.node { name := "below" } none [] []],
          .node { name := "shop" } none [] []]] }]

theorem patchySite_loses_cuts :
    ∃ registry issues, patchySite.build .lenient 1 = .ok registry ∧
      registry.tree.mounts.toList.map (·.mountPath) = ["", "/news", "/news/sport"] ∧
      registry.tree.hosts.toList.map (·.hostName) = ["com", "shop.com"] ∧
      patchySite.prune.kept.build .lenient 1 = .ok { registry with issues } ∧
      (∀ issue ∈ issues, issue.fault.cutsOff = false) ∧
      registry.issues.filter (·.fault.cutsOff) = [
        ⟨"prod/com:0/hst:root", .relativeMountPoint "relative"⟩,
        ⟨"prod/com:0/hst:root/news", .unknownSiteRoot "/missing"⟩,
        ⟨"prod/com:0/hst:root/news", .duplicateMount "" "news"⟩,
        ⟨"prod/com:8080", .duplicatePortMount "com" 8080⟩,
        ⟨"prod/api.v2.com", .dottedHostName "api.v2"⟩] := by
  have shown : (patchySite.build .lenient 1).toOption.map (fun registry =>
      (registry.tree.mounts.toList.map (·.mountPath), registry.tree.hosts.toList.map (·.hostName))) =
      some (["", "/news", "/news/sport"], ["com", "shop.com"]) := by decide +kernel
  have cuts : patchySite.prune.cuts.map (·.issue) = [
      ⟨"prod/com:0/hst:root", .relativeMountPoint "relative"⟩,
      ⟨"prod/com:0/hst:root/news", .unknownSiteRoot "/missing"⟩,
      ⟨"prod/com:0/hst:root/news", .duplicateMount "" "news"⟩,
      ⟨"prod/com:8080", .duplicatePortMount "com" 8080⟩,
      ⟨"prod/api.v2.com", .dottedHostName "api.v2"⟩] := by decide +kernel
  obtain ⟨registry, built, viewed⟩ := Configuration.build_of_view shown
  obtain ⟨mounts, hosts⟩ := Prod.mk.inj viewed
  obtain ⟨_, lost, _, issues, kept, clean, _⟩ := Configuration.build_loses_cuts built
  exact ⟨registry, issues, built, mounts, hosts, kept, clean, lost.trans cuts⟩

end SiteRouting
