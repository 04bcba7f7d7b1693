import Mathlib
import SiteRouting.Proofs.Build.CleanedBuild
import SiteRouting.Proofs.Build.CleanedPruning
import SiteRouting.Proofs.Build.Correspondence
import SiteRouting.Proofs.Build.WellFormed

namespace SiteRouting

/-- The node of a host has a malformed restriction below another one,
and loses that one to it. -/
def HostLineage.LosesRestriction (lineage : HostLineage) (defaults : Defaults) : Prop :=
  ∃ own rest, lineage.nodes = own :: rest ∧
    own.LosesRestriction ({ lineage with nodes := rest }.properties defaults).onlyForContextPath

/-- The node of a mount has a malformed restriction below another one,
and loses that one to it. -/
def MountLineage.LosesRestriction (lineage : MountLineage) (defaults : Defaults) : Prop :=
  ∃ own rest, lineage.nodes = own :: rest ∧
    own.LosesRestriction ({ lineage with nodes := rest }.properties defaults).onlyForContextPath

def Configuration.KeepsRestrictions (config : Configuration) : Prop :=
  (∀ lineage ∈ config.prune.kept.hostLineages, ¬ lineage.LosesRestriction config.hosts) ∧
    ∀ lineage ∈ config.prune.kept.mountLineages, ¬ lineage.LosesRestriction config.hosts

/-- A registry differs from another one in restrictions only, and lacks its
warnings about values in vain. -/
structure Registry.Mirrors (cleaned registry : Registry) (config : Configuration) : Prop where
  tree : cleaned.tree.unrestricted = registry.tree.unrestricted
  index : cleaned.index = registry.index
  settings : cleaned.settings = registry.settings
  generation : cleaned.generation = registry.generation
  issues : cleaned.issues = registry.issues.filter (!·.isIgnoredValue)
  same_iff : cleaned.tree = registry.tree ↔ config.KeepsRestrictions

inductive MirroredOutcome (config : Configuration) :
    Except (List Issue) Registry → Except (List Issue) Registry → Prop where
  | accepted {cleaned registry : Registry} (mirrors : cleaned.Mirrors registry config) :
      MirroredOutcome config (.ok cleaned) (.ok registry)
  | refused (issues : List Issue) :
      MirroredOutcome config (.error (issues.filter (!·.isIgnoredValue))) (.error issues)

section Induction

variable {tree : HostingTree} {config : Configuration} {hosts : List HostLineage} {mounts : List MountLineage}

/-- What holds on top of the groups and passes from a host to those
below holds of every host. -/
theorem HostingTree.Shows.host_induction {P : HostLineage → Prop}
    (shown : tree.Shows config hosts mounts) (shaped : tree.Shaped) (top : ∀ group, P { group })
    (labelled : ∀ above label, P above → P (above.withLabel label))
    (below : ∀ above own label, (above.withNode own).withLabel label ∈ hosts → P above →
      P ((above.withNode own).withLabel label)) :
    ∀ lineage ∈ hosts, P lineage := by
  intro lineage member
  obtain ⟨id, listed⟩ := List.mem_iff_getElem?.mp member
  induction id using Nat.strong_induction_on generalizing lineage with
  | _ id ih =>
    have within : id < tree.hosts.size := shown.hostCount ▸ (List.getElem?_eq_some_iff.mp listed).1
    have held := Array.getElem?_eq_getElem within
    obtain ⟨told, above, _, listedToo, _, linked, base, label, entered, isBase⟩ := shown.host id _ held
    cases listed.symm.trans listedToo
    have inherited : P above := by
      cases parent : tree.hosts[id].parent with
      | none =>
        rw [parent] at linked
        cases linked
        exact top lineage.group
      | some parentId =>
        obtain ⟨earlier, _⟩ := (shaped.hosts id _ held).below parentId parent
        rw [parent] at linked
        exact ih parentId earlier above (List.mem_of_getElem? linked) linked
    rw [isBase] at member ⊢
    rcases entered with rfl | ⟨own, rfl⟩
    · exact labelled base label inherited
    · exact below above own label member inherited

/-- What holds on top of the ports and passes from a mount to those
below holds of every mount. -/
theorem HostingTree.Shows.lineage_induction {P : MountLineage → Prop}
    (shown : tree.Shows config hosts mounts) (shaped : tree.Shaped)
    (top : ∀ host ∈ hosts, ∀ port, P { host, port })
    (below : ∀ above own, above.below own ∈ mounts → P above → P (above.below own)) :
    ∀ lineage ∈ mounts, P lineage := by
  intro lineage member
  obtain ⟨id, listed⟩ := List.mem_iff_getElem?.mp member
  induction id using Nat.strong_induction_on generalizing lineage with
  | _ id ih =>
    have within : id < tree.mounts.size := shown.mountCount ▸ (List.getElem?_eq_some_iff.mp listed).1
    have held := Array.getElem?_eq_getElem within
    obtain ⟨told, above, own, _, listedToo, _, hosted, linked, isBelow⟩ := shown.mount id _ held
    cases listed.symm.trans listedToo
    have inherited : P above := by
      cases parent : tree.mounts[id].parent with
      | none =>
        rw [parent] at linked
        cases linked
        exact top lineage.host (List.mem_of_getElem? hosted) lineage.port
      | some parentId =>
        obtain ⟨earlier, _⟩ := (shaped.mounts id _ held).below parentId parent
        rw [parent] at linked
        exact ih parentId earlier above (List.mem_of_getElem? linked) linked
    rw [isBelow] at member ⊢
    exact below above own member inherited

end Induction

section Lineages

variable {tree : HostingTree} {config : Configuration} {hosts : List HostLineage} {mounts : List MountLineage}
  {defaults : Defaults}

/-- A host has the same properties with and without the values in vain that
it and the hosts above it configure. -/
def HostLineage.Keeps (lineage : HostLineage) (defaults : Defaults) : Prop :=
  lineage.withoutIgnored.properties defaults = lineage.properties defaults

def MountLineage.Keeps (lineage : MountLineage) (defaults : Defaults) : Prop :=
  lineage.withoutIgnored.properties defaults = lineage.properties defaults

theorem HostLineage.losesRestriction_withNode_iff (above : HostLineage) (own : HostSettings) :
    (above.withNode own).LosesRestriction defaults ↔
      own.LosesRestriction (above.properties defaults).onlyForContextPath := by
  constructor
  · rintro ⟨_, _, ⟨⟩, loses⟩
    exact loses
  · intro loses
    exact ⟨own, above.nodes, rfl, loses⟩

theorem MountLineage.losesRestriction_below_iff (above : MountLineage) (own : MountSettings) :
    (above.below own).LosesRestriction defaults ↔
      own.LosesRestriction (above.properties defaults).onlyForContextPath := by
  constructor
  · rintro ⟨_, _, ⟨⟩, loses⟩
    exact loses
  · intro loses
    exact ⟨own, above.nodes, rfl, loses⟩

theorem HostLineage.Keeps.withNode_iff {above : HostLineage} (keeps : above.Keeps defaults)
    (own : HostSettings) :
    (above.withNode own).Keeps defaults ↔ ¬ (above.withNode own).LosesRestriction defaults := by
  have first : (above.withNode own).withoutIgnored.properties defaults =
      own.withoutIgnored.propertiesBelow (above.withoutIgnored.properties defaults) := rfl
  rw [HostLineage.Keeps, first, keeps, HostLineage.losesRestriction_withNode_iff]
  exact (own.ignores (above.properties defaults)).same_iff

theorem MountLineage.Keeps.below_iff {above : MountLineage} (keeps : above.Keeps defaults)
    (own : MountSettings) :
    (above.below own).Keeps defaults ↔ ¬ (above.below own).LosesRestriction defaults := by
  have first : (above.below own).withoutIgnored.properties defaults =
      own.withoutIgnored.propertiesBelow (above.withoutIgnored.properties defaults) := rfl
  rw [MountLineage.Keeps, first, keeps, MountLineage.losesRestriction_below_iff]
  exact own.propertiesBelow_eq_iff (above.properties defaults)

/-- The hosts of a tree keep their properties exactly if none of them
loses a restriction. -/
theorem HostingTree.Shows.hosts_keep_iff (shown : tree.Shows config hosts mounts) (shaped : tree.Shaped) :
    (∀ lineage ∈ hosts, lineage.Keeps defaults) ↔ ∀ lineage ∈ hosts, ¬ lineage.LosesRestriction defaults := by
  have nowhere (group : String) : ¬ HostLineage.LosesRestriction { group } defaults := by
    rintro ⟨_, _, ⟨⟩, _⟩
  constructor
  · intro keep
    have both : ∀ lineage ∈ hosts, lineage.Keeps defaults ∧ ¬ lineage.LosesRestriction defaults := by
      refine shown.host_induction shaped (fun group => ⟨rfl, nowhere group⟩) (fun _ _ above => above) ?_
      intro above own label member ⟨keeps, _⟩
      have here := keep _ member
      exact ⟨here, (keeps.withNode_iff own).mp here⟩
    exact fun lineage member => (both lineage member).2
  · intro lossless
    refine shown.host_induction shaped (fun _ => rfl) (fun _ _ above => above) ?_
    intro above own label member keeps
    have here := lossless _ member
    exact (keeps.withNode_iff own).mpr here

/-- If the hosts keep theirs, the mounts of a tree keep their properties
exactly if none of them loses a restriction. -/
theorem HostingTree.Shows.mounts_keep_iff (shown : tree.Shows config hosts mounts) (shaped : tree.Shaped)
    (hostsKeep : ∀ lineage ∈ hosts, lineage.Keeps defaults) :
    (∀ lineage ∈ mounts, lineage.Keeps defaults) ↔
      ∀ lineage ∈ mounts, ¬ lineage.LosesRestriction defaults := by
  have top : ∀ host ∈ hosts, ∀ port, MountLineage.Keeps { host, port } defaults :=
    fun host member _ => congrArg MountProperties.ofHost (hostsKeep host member)
  have nowhere (host : HostLineage) (port : Port) :
      ¬ MountLineage.LosesRestriction { host, port } defaults := by
    rintro ⟨_, _, ⟨⟩, _⟩
  constructor
  · intro keep
    have both : ∀ lineage ∈ mounts, lineage.Keeps defaults ∧ ¬ lineage.LosesRestriction defaults := by
      refine shown.lineage_induction shaped (fun host member port => ⟨top host member port, nowhere host port⟩) ?_
      intro above own member ⟨keeps, _⟩
      have here := keep _ member
      exact ⟨here, (keeps.below_iff own).mp here⟩
    exact fun lineage member => (both lineage member).2
  · intro lossless
    refine shown.lineage_induction shaped top ?_
    intro above own member keeps
    exact (keeps.below_iff own).mpr (lossless _ member)

end Lineages

section Registries

variable {config : Configuration} {state cleaned : BuildState}

/-- Nodes that are told by lineages, with and without some change to these,
agree where the change makes no difference. -/
theorem nodes_agree_iff {ν α π : Type} (change : α → α) (amount : α → π) (properties : ν → π)
    {a b : Array ν} {lineages : List α} (counted : b.size = lineages.length)
    (countedChanged : a.size = lineages.length)
    (told : ∀ (i : Nat) (node : ν), b[i]? = some node →
      ∃ lineage, lineages[i]? = some lineage ∧ properties node = amount lineage)
    (toldChanged : ∀ (i : Nat) (node : ν), a[i]? = some node →
      ∃ lineage, (lineages.map change)[i]? = some lineage ∧ properties node = amount lineage) :
    (∀ (i : Nat) (one other : ν), a[i]? = some one → b[i]? = some other →
        properties one = properties other) ↔
      ∀ lineage ∈ lineages, amount (change lineage) = amount lineage := by
  have changed {i : Nat} {one : ν} {lineage : α} (held : a[i]? = some one)
      (listed : lineages[i]? = some lineage) : properties one = amount (change lineage) := by
    obtain ⟨new, listedToo, same⟩ := toldChanged i one held
    rw [List.getElem?_map, listed] at listedToo
    cases listedToo
    exact same
  constructor
  · intro agree lineage member
    obtain ⟨i, listed⟩ := List.mem_iff_getElem?.mp member
    have within : i < lineages.length := (List.getElem?_eq_some_iff.mp listed).1
    have held := Array.getElem?_eq_getElem (counted ▸ within)
    have heldChanged := Array.getElem?_eq_getElem (countedChanged ▸ within)
    obtain ⟨_, listedToo, same⟩ := told i _ held
    cases listed.symm.trans listedToo
    rw [← changed heldChanged listed, ← same]
    exact agree i _ _ heldChanged held
  · intro unchanged i one other heldChanged held
    obtain ⟨lineage, listed, same⟩ := told i other held
    rw [changed heldChanged listed, same]
    exact unchanged lineage (List.mem_of_getElem? listed)

theorem issuesAtLeast_of_mirrors {bound : Severity} (severe : bound ≠ .warning) (issues : List Issue) :
    issuesAtLeast bound (issues.filter (!·.isIgnoredValue)) = issuesAtLeast bound issues := by
  rw [issuesAtLeast, issuesAtLeast, List.filter_filter]
  refine List.filter_congr fun issue _ => ?_
  have blocking : issue.severity.atLeast bound = true → issue.fault.isIgnoredValue = false := by
    obtain ⟨location, fault⟩ := issue
    cases bound <;> cases fault <;> first | exact absurd rfl severe | exact fun _ => rfl | exact nofun
  cases atLeast : issue.severity.atLeast bound with
  | false => rfl
  | true => simp [Issue.isIgnoredValue, blocking atLeast]

/-- The tree without the values in vain is the same exactly if no
restriction is lost to one of them. -/
theorem BuildState.Mirrors.tree_eq_iff (mirrors : cleaned.Mirrors state)
    (assembled : config.assemble = .ok state) (assembledCleaned : config.withoutIgnored.assemble = .ok cleaned) :
    cleaned.tree = state.tree ↔ config.KeepsRestrictions := by
  have shown := Configuration.assemble_shows assembled
  have shownCleaned := Configuration.assemble_shows assembledCleaned
  obtain ⟨hosts, mounts⟩ := config.keptLineages_withoutIgnored
  rw [hosts, mounts] at shownCleaned
  have shaped : state.tree.Shaped := .of_unlinked (Configuration.assemble_good assembled).shaped
  have hostsKeep : (∀ (id : Nat) (one other : VirtualHost), cleaned.tree.hosts[id]? = some one →
      state.tree.hosts[id]? = some other → one.properties = other.properties) ↔
      ∀ lineage ∈ config.prune.kept.hostLineages, lineage.Keeps config.hosts := by
    refine nodes_agree_iff HostLineage.withoutIgnored (·.properties config.hosts) VirtualHost.properties
      shown.hostCount (by simpa using shownCleaned.hostCount) ?_ ?_
    · intro id host held
      obtain ⟨lineage, _, _, listed, described, _⟩ := shown.host id host held
      exact ⟨lineage, listed, described.properties⟩
    · intro id host held
      obtain ⟨lineage, _, _, listed, described, _⟩ := shownCleaned.host id host held
      exact ⟨lineage, listed, described.properties⟩
  have mountsKeep : (∀ (id : Nat) (one other : Mount), cleaned.tree.mounts[id]? = some one →
      state.tree.mounts[id]? = some other → one.properties = other.properties) ↔
      ∀ lineage ∈ config.prune.kept.mountLineages, lineage.Keeps config.hosts := by
    refine nodes_agree_iff MountLineage.withoutIgnored (·.properties config.hosts) Mount.properties
      shown.mountCount (by simpa using shownCleaned.mountCount) ?_ ?_
    · intro id mount held
      obtain ⟨lineage, _, _, _, listed, described, _⟩ := shown.mount id mount held
      exact ⟨lineage, listed, described.properties⟩
    · intro id mount held
      obtain ⟨lineage, _, _, _, listed, described, _⟩ := shownCleaned.mount id mount held
      exact ⟨lineage, listed, described.properties⟩
  rw [HostingTree.eq_iff_of_unrestricted mirrors.tree, hostsKeep, mountsKeep, Configuration.KeepsRestrictions,
    ← shown.hosts_keep_iff shaped]
  exact and_congr_right fun keep => shown.mounts_keep_iff shaped keep

/-- A node that configures a value in vain comes out as without the key, but for
a malformed restriction, to which it loses the one from above. A configuration
without these values is accepted or refused like the configuration itself, with
the same issues otherwise, and builds a tree that differs in restrictions only.
It is the same tree exactly if no host and no mount of it loses a restriction. -/
theorem Configuration.build_withoutIgnored (config : Configuration) (policy : BuildPolicy) (generation : Nat) :
    (∀ (own : HostSettings) (above : NodeProperties),
      own.Ignores above (own.propertiesBelow above) (own.withoutIgnored.propertiesBelow above)) ∧
    (∀ (own : MountSettings) (above : MountProperties),
      own.Ignores above.toNodeProperties (own.propertiesBelow above).toNodeProperties
        (own.withoutIgnored.propertiesBelow above).toNodeProperties ∧
      (own.withoutIgnored.propertiesBelow above).unrestricted = (own.propertiesBelow above).unrestricted ∧
      (own.withoutIgnored.propertiesBelow above = own.propertiesBelow above ↔
        ¬ own.LosesRestriction above.onlyForContextPath)) ∧
    MirroredOutcome config (config.withoutIgnored.build policy generation) (config.build policy generation) := by
  refine ⟨fun own above => own.ignores above, fun own above => ⟨own.ignores above,
    own.unrestricted_withoutIgnored above, own.propertiesBelow_eq_iff above⟩, ?_⟩
  have severe : policy.refuses ≠ .warning := by cases policy <;> nofun
  have results := config.assemble_withoutIgnored
  rw [Configuration.build, Configuration.build]
  cases assembled : config.assemble with
  | error issues =>
    rw [assembled] at results
    cases assembledCleaned : config.withoutIgnored.assemble with
    | ok cleaned =>
      rw [assembledCleaned] at results
      cases results
    | error fewer =>
      rw [assembledCleaned] at results
      cases results with
      | ends same =>
        rw [same]
        exact .refused issues
  | ok state =>
    rw [assembled] at results
    cases assembledCleaned : config.withoutIgnored.assemble with
    | error fewer =>
      rw [assembledCleaned] at results
      cases results
    | ok cleaned =>
      rw [assembledCleaned] at results
      cases results with
      | goesOn mirrors =>
        rw [BuildPolicy.judge, BuildPolicy.judge, mirrors.issues, issuesAtLeast_of_mirrors severe]
        split
        · refine .accepted ⟨mirrors.tree, mirrors.index, rfl, rfl, mirrors.issues, ?_⟩
          exact mirrors.tree_eq_iff assembled assembledCleaned
        · exact .refused state.issues

end Registries

/-- A host that is restricted to a context path, with a root mount that
has a malformed restriction. -/
def misspeltSite : Configuration where
  hostGroups := [{
    name := "prod"
    hosts := [.node { name := "localhost", onlyForContextPath := some "/cms" }
      (some (.node { identifier := some "home", onlyForContextPath := some "cms" } [])) [] []] }]

/-- Without the malformed value the mount is restricted like its host; with
it, it is not restricted. -/
theorem misspeltSite_loses_restriction :
    ∃ registry cleaned, misspeltSite.build .lenient 1 = .ok registry ∧
      misspeltSite.withoutIgnored.build .lenient 1 = .ok cleaned ∧
      registry.issues = [⟨"prod/localhost:0/hst:root", .malformedContextPath "cms"⟩] ∧ cleaned.issues = [] ∧
      registry.tree.mounts.toList.map (·.properties.onlyForContextPath) = [none] ∧
      cleaned.tree.mounts.toList.map (·.properties.onlyForContextPath) = [some "/cms"] ∧
      cleaned.tree ≠ registry.tree := by
  have shown : (misspeltSite.build .lenient 1).toOption.map (fun registry =>
      (registry.issues, registry.tree.mounts.toList.map (·.properties.onlyForContextPath))) =
      some ([⟨"prod/localhost:0/hst:root", .malformedContextPath "cms"⟩], [none]) := by decide +kernel
  have shownCleaned : (misspeltSite.withoutIgnored.build .lenient 1).toOption.map (fun registry =>
      (registry.issues, registry.tree.mounts.toList.map (·.properties.onlyForContextPath))) =
      some ([], [some "/cms"]) := by decide +kernel
  obtain ⟨registry, built, viewed⟩ := Configuration.build_of_view shown
  obtain ⟨cleaned, builtCleaned, viewedCleaned⟩ := Configuration.build_of_view shownCleaned
  obtain ⟨issues, lifted⟩ := Prod.mk.inj viewed
  obtain ⟨silent, restricted⟩ := Prod.mk.inj viewedCleaned
  refine ⟨registry, cleaned, built, builtCleaned, issues, silent, lifted, restricted, ?_⟩
  intro same
  rw [same, lifted] at restricted
  cases restricted

end SiteRouting
