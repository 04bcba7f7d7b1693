import Mathlib
import SiteRouting.Config.Validation
import SiteRouting.Registry

namespace SiteRouting

/-- A build under a policy is accepted when the pass ends and finds
nothing that the policy refuses. -/
theorem BuildPolicy.judge_eq_ok_iff {policy : BuildPolicy} {result : BuildResult} {state : BuildState} :
    policy.judge result = .ok state ↔
      result = .ok state ∧ issuesAtLeast policy.refuses state.issues = [] := by
  cases result with
  | error issues => simp [BuildPolicy.judge]
  | ok finished =>
    simp only [BuildPolicy.judge, List.isEmpty_iff]
    constructor
    · intro judged
      split at judged
      · rename_i clean
        cases judged
        exact ⟨rfl, clean⟩
      · cases judged
    · rintro ⟨same, clean⟩
      cases same
      rw [if_pos clean]

/-- An accepted build is the finished state of the one pass over the
configuration, with the settings of the defaults and an empty memory. -/
theorem Configuration.build_eq_ok_iff {config : Configuration} {policy : BuildPolicy}
    {generation : Nat} {registry : Registry} :
    config.build policy generation = .ok registry ↔
      ∃ state, config.assemble = .ok state ∧ issuesAtLeast policy.refuses state.issues = [] ∧
        registry = .ofBuild state config.hosts generation := by
  constructor
  · intro built
    unfold Configuration.build at built
    cases judged : policy.judge config.assemble with
    | error issues =>
      rw [judged] at built
      cases built
    | ok state =>
      rw [judged] at built
      obtain ⟨assembled, clean⟩ := BuildPolicy.judge_eq_ok_iff.mp judged
      exact ⟨state, assembled, clean, (Except.ok.inj built).symm⟩
  · rintro ⟨state, assembled, clean, rfl⟩
    rw [Configuration.build, BuildPolicy.judge_eq_ok_iff.mpr ⟨assembled, clean⟩, Except.map]

theorem Configuration.build_settings {config : Configuration} {policy : BuildPolicy}
    {generation : Nat} {registry : Registry} (built : config.build policy generation = .ok registry) :
    registry.settings = .ofDefaults config.hosts := by
  obtain ⟨state, _, _, rfl⟩ := Configuration.build_eq_ok_iff.mp built
  rfl

theorem Configuration.build_cache {config : Configuration} {policy : BuildPolicy}
    {generation : Nat} {registry : Registry} (built : config.build policy generation = .ok registry) :
    registry.cache = [] := by
  obtain ⟨state, _, _, rfl⟩ := Configuration.build_eq_ok_iff.mp built
  rfl

theorem Configuration.build_generation {config : Configuration} {policy : BuildPolicy}
    {generation : Nat} {registry : Registry} (built : config.build policy generation = .ok registry) :
    registry.generation = generation := by
  obtain ⟨state, _, _, rfl⟩ := Configuration.build_eq_ok_iff.mp built
  rfl

/-- Whether a configuration builds does not depend on the number of the build. -/
theorem Configuration.build_renumbered {config : Configuration} {policy : BuildPolicy}
    {generation : Nat} {registry : Registry} (built : config.build policy generation = .ok registry)
    (other : Nat) : config.build policy other = .ok { registry with generation := other } := by
  obtain ⟨state, assembled, accepted, rfl⟩ := Configuration.build_eq_ok_iff.mp built
  exact Configuration.build_eq_ok_iff.mpr ⟨state, assembled, accepted, rfl⟩

/-- A view of what is built, where there is one, is a view of the registry. -/
theorem Configuration.build_of_view {α : Type} {config : Configuration} {policy : BuildPolicy}
    {generation : Nat} {view : Registry → α} {shown : α}
    (seen : (config.build policy generation).toOption.map view = some shown) :
    ∃ registry, config.build policy generation = .ok registry ∧ view registry = shown := by
  cases built : config.build policy generation with
  | error issues =>
    rw [built] at seen
    cases seen
  | ok registry =>
    rw [built] at seen
    exact ⟨registry, rfl, Option.some.inj seen⟩

theorem Configuration.isHostName_default {config : Configuration} {name : String}
    (valid : config.isValid) (configured : config.hosts.defaultHostName = some name) :
    isHostName name := by
  have none_found : config.violations = [] := List.isEmpty_iff.mp valid
  simp only [Configuration.violations, Defaults.violations, List.append_eq_nil_iff, configured] at none_found
  by_contra refused
  simp [refused] at none_found

end SiteRouting
