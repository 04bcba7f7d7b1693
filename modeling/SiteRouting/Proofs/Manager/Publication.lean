import Mathlib
import SiteRouting.Proofs.Manager.Operation

namespace SiteRouting

def Deployment.passes (deployment : Deployment) : List Operation → List Configuration
  | [] => []
  | operation :: rest =>
    (deployment.pass? operation).toList ++ (deployment.next operation).passes rest

/-- A policy refuses every build from `passes` after the first `accepted`
ones. The builds are numbered from one. -/
def BuildPolicy.RefusesAfter (policy : BuildPolicy) (accepted : Nat) (passes : List Configuration) :
    Prop :=
  ∀ i config, accepted ≤ i → passes[i]? = some config →
    ∃ issues, config.build policy (i + 1) = .error issues

/-- A manager serves the last one of the builds from `passes` that its policy
accepted, numbered by the builds up to it. Loads that fail and builds that
are refused leave it as it was, with everything that it remembers. -/
structure Manager.Publishes (manager : Manager) (accepting : BuildPolicy) (passes : List Configuration) :
    Prop where
  policy : manager.policy = accepting
  generation : manager.generation = passes.length
  absent : manager.current = none ↔ accepting.RefusesAfter 0 passes
  present : ∀ registry, manager.current = some registry → ∃ i config, passes[i]? = some config ∧
    config.build accepting (i + 1) = .ok registry.forgotten ∧ accepting.RefusesAfter (i + 1) passes

theorem BuildPolicy.refusesAfter_concat {policy : BuildPolicy} {accepted : Nat}
    {passes : List Configuration} {config : Configuration} (within : accepted ≤ passes.length) :
    policy.RefusesAfter accepted (passes ++ [config]) ↔ policy.RefusesAfter accepted passes ∧
      ∃ issues, config.build policy (passes.length + 1) = .error issues := by
  constructor
  · intro refuses
    constructor
    · intro i earlier after at_i
      have bound := (List.getElem?_eq_some_iff.mp at_i).1
      exact refuses i earlier after ((List.getElem?_append_left bound).trans at_i)
    · exact refuses passes.length config within List.getElem?_concat_length
  · rintro ⟨refuses, refused⟩ i earlier after at_i
    by_cases bound : i < passes.length
    · rw [List.getElem?_append_left bound] at at_i
      exact refuses i earlier after at_i
    · have inside := (List.getElem?_eq_some_iff.mp at_i).1
      have last : i = passes.length := by
        rw [List.length_append, List.length_singleton] at inside
        omega
      rw [last, List.getElem?_concat_length] at at_i
      cases at_i
      exact last ▸ refused

theorem Operation.touch_forgotten (operation : Operation) (registry : Registry) :
    (operation.touch registry).forgotten = registry.forgotten := by
  cases operation with
  | matchHost rawHost => exact registry.matchHost_forgotten rawHost
  | matchMount rawHost contextPath path => exact registry.matchHost_forgotten rawHost
  | _ => rfl

section Operated

variable {before after : Manager} {touch : Registry → Registry} {config : Configuration}

theorem Manager.Operated.unbuilt (operated : before.Operated after none touch) :
    after.generation = before.generation ∧ after.current = before.current.map touch :=
  ⟨operated.generation, operated.current⟩

theorem Manager.Operated.refused {issues : List Issue}
    (operated : before.Operated after (some config) touch)
    (built : config.build before.policy (before.generation + 1) = .error issues) :
    after.generation = before.generation + 1 ∧ after.current = before.current.map touch := by
  refine ⟨operated.generation, ?_⟩
  rw [operated.current, Manager.served, built]
  rfl

/-- An accepted build is counted, and its registry takes the place of
the one before. -/
theorem Manager.Operated.accepted {registry : Registry}
    (operated : before.Operated after (some config) touch)
    (built : config.build before.policy (before.generation + 1) = .ok registry) :
    after.generation = before.generation + 1 ∧ after.current = some (touch registry) := by
  refine ⟨operated.generation, ?_⟩
  rw [operated.current, Manager.served, built]
  rfl

end Operated

theorem Manager.Publishes.new (policy : BuildPolicy) : (Manager.new policy).Publishes policy [] where
  policy := rfl
  generation := rfl
  absent := by simp [Manager.new, BuildPolicy.RefusesAfter]
  present := by simp [Manager.new]

section Publishes

variable {before after : Manager} {accepting : BuildPolicy} {passes : List Configuration}
  {touch : Registry → Registry} {config : Configuration} {registry : Registry}

theorem Manager.Publishes.unbuilt (publishes : before.Publishes accepting passes)
    (operated : before.Operated after none touch)
    (forgotten : ∀ registry, (touch registry).forgotten = registry.forgotten) :
    after.Publishes accepting passes := by
  obtain ⟨counted, current⟩ := operated.unbuilt
  refine ⟨operated.policy.trans publishes.policy, counted.trans publishes.generation, ?_, ?_⟩
  · rw [current, Option.map_eq_none_iff, publishes.absent]
  · intro registry served
    obtain ⟨previous, inService, rfl⟩ := Option.map_eq_some_iff.mp (current ▸ served)
    rw [forgotten]
    exact publishes.present previous inService

theorem Manager.Publishes.refused {issues : List Issue} (publishes : before.Publishes accepting passes)
    (operated : before.Operated after (some config) touch)
    (forgotten : ∀ registry, (touch registry).forgotten = registry.forgotten)
    (built : config.build accepting (passes.length + 1) = .error issues) :
    after.Publishes accepting (passes ++ [config]) := by
  have numbered := built
  rw [← publishes.policy, ← publishes.generation] at numbered
  obtain ⟨counted, current⟩ := operated.refused numbered
  refine ⟨operated.policy.trans publishes.policy, ?_, ?_, ?_⟩
  · rw [counted, publishes.generation, List.length_append, List.length_singleton]
  · rw [current, Option.map_eq_none_iff, publishes.absent,
      BuildPolicy.refusesAfter_concat (Nat.zero_le _)]
    exact (and_iff_left ⟨issues, built⟩).symm
  · intro registry served
    obtain ⟨previous, inService, rfl⟩ := Option.map_eq_some_iff.mp (current ▸ served)
    obtain ⟨i, last, at_i, lastBuilt, refuses⟩ := publishes.present previous inService
    have bound := (List.getElem?_eq_some_iff.mp at_i).1
    refine ⟨i, last, (List.getElem?_append_left bound).trans at_i, ?_, ?_⟩
    · rw [forgotten, lastBuilt]
    · exact (BuildPolicy.refusesAfter_concat bound).mpr ⟨refuses, issues, built⟩

theorem Manager.Publishes.accepted (publishes : before.Publishes accepting passes)
    (operated : before.Operated after (some config) touch)
    (forgotten : ∀ registry, (touch registry).forgotten = registry.forgotten)
    (built : config.build accepting (passes.length + 1) = .ok registry) :
    after.Publishes accepting (passes ++ [config]) := by
  have numbered := built
  rw [← publishes.policy, ← publishes.generation] at numbered
  obtain ⟨counted, current⟩ := operated.accepted numbered
  refine ⟨operated.policy.trans publishes.policy, ?_, ?_, ?_⟩
  · rw [counted, publishes.generation, List.length_append, List.length_singleton]
  · rw [current, BuildPolicy.refusesAfter_concat (Nat.zero_le _), built]
    simp
  · intro served same
    cases current.symm.trans same
    refine ⟨passes.length, config, List.getElem?_concat_length, ?_, ?_⟩
    · rw [forgotten, built, Registry.forgotten, ← Configuration.build_cache built]
    · intro i later after at_i
      have inside := (List.getElem?_eq_some_iff.mp at_i).1
      rw [List.length_append, List.length_singleton] at inside
      omega

/-- A registry in service is numbered by the builds up to its own. -/
theorem Manager.Publishes.generation_le (publishes : before.Publishes accepting passes)
    (served : before.current = some registry) : registry.generation ≤ before.generation := by
  obtain ⟨i, last, at_i, built, _⟩ := publishes.present registry served
  have bound := (List.getElem?_eq_some_iff.mp at_i).1
  have number : registry.forgotten.generation = i + 1 := Configuration.build_generation built
  change registry.generation = i + 1 at number
  rw [publishes.generation, number]
  exact bound

/-- Whatever builds at most once and only touches what is remembered leaves a
manager with the last accepted build in service. -/
theorem Manager.Publishes.operated {pass : Option Configuration}
    (publishes : before.Publishes accepting passes) (operated : before.Operated after pass touch)
    (forgotten : ∀ registry, (touch registry).forgotten = registry.forgotten) :
    after.Publishes accepting (passes ++ pass.toList) := by
  cases pass with
  | none =>
    rw [Option.toList_none, List.append_nil]
    exact publishes.unbuilt operated forgotten
  | some config =>
    cases built : config.build accepting (passes.length + 1) with
    | error issues => exact publishes.refused operated forgotten built
    | ok registry => exact publishes.accepted operated forgotten built

end Publishes

/-- After one more operation a manager serves the last accepted build still,
whatever the operation is and whatever the source answers. -/
theorem Manager.Publishes.next {deployment : Deployment} {accepting : BuildPolicy}
    {passes : List Configuration} (publishes : deployment.manager.Publishes accepting passes)
    (operation : Operation) :
    (deployment.next operation).manager.Publishes accepting
      (passes ++ (deployment.pass? operation).toList) :=
  publishes.operated (deployment.operated operation) operation.touch_forgotten

theorem Manager.Publishes.run {deployment : Deployment} {accepting : BuildPolicy}
    {passes : List Configuration} (publishes : deployment.manager.Publishes accepting passes)
    (operations : List Operation) :
    (deployment.run operations).manager.Publishes accepting (passes ++ deployment.passes operations) := by
  induction operations generalizing deployment passes with
  | nil =>
    rw [Deployment.passes, List.append_nil]
    exact publishes
  | cons operation rest ih =>
    rw [Deployment.passes, ← List.append_assoc]
    exact ih (publishes.next operation)

end SiteRouting
