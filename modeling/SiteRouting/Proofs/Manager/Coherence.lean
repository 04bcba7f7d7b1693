import Mathlib
import SiteRouting.Proofs.Lookup.Transparency
import SiteRouting.Proofs.Manager.Publication

namespace SiteRouting

/-- What is remembered in service is right, if the default host can be
sent as a host value. -/
def Manager.IsCoherent (manager : Manager) : Prop :=
  ∀ registry, manager.current = some registry → registry.DefaultIsHostText → registry.Coherent

/-- A registry is what a configuration builds, apart from what it remembers.
As long as what it remembers is right, it answers as a registry that is built
from the configuration at this moment. -/
def Registry.IsBuildOf (registry : Registry) (config : Configuration) (policy : BuildPolicy) : Prop :=
  config.build policy registry.generation = .ok registry.forgotten

theorem Manager.isCoherent_new (policy : BuildPolicy) : (Manager.new policy).IsCoherent := by
  intro registry served
  cases served

theorem Operation.touch_coherent (operation : Operation) {registry : Registry}
    (coherent : registry.DefaultIsHostText → registry.Coherent)
    (host : (operation.touch registry).DefaultIsHostText) : (operation.touch registry).Coherent := by
  have before : registry.DefaultIsHostText :=
    host.of_forgotten_eq (operation.touch_forgotten registry).symm
  have sound : registry.Sound := ⟨before, coherent before⟩
  cases operation with
  | matchHost rawHost => exact (sound.matchHost rawHost).coherent
  | matchMount rawHost contextPath path => exact (sound.matchHost rawHost).coherent
  | load | replace | invalidate | sourceChange | registry | mountByIdentifier | mountByAlias
  | lockMount | unlockMount => exact sound.coherent

/-- A build remembers nothing, so it does not matter whether it is accepted. -/
theorem Manager.IsCoherent.served {manager : Manager} (coherent : manager.IsCoherent)
    (pass : Option Configuration) {registry : Registry}
    (inService : manager.served pass = some registry) (host : registry.DefaultIsHostText) :
    registry.Coherent := by
  cases pass with
  | none => exact coherent registry inService host
  | some config =>
    cases built : config.build manager.policy (manager.generation + 1) with
    | error issues =>
      rw [Manager.served, built] at inService
      exact coherent registry inService host
    | ok fresh =>
      rw [Manager.served, built] at inService
      cases inService
      intro entry member
      rw [Configuration.build_cache built] at member
      cases member

theorem Manager.IsCoherent.next {deployment : Deployment} (coherent : deployment.manager.IsCoherent)
    (operation : Operation) : (deployment.next operation).manager.IsCoherent := by
  intro registry inService
  have operated := deployment.operated operation
  obtain ⟨previous, served, rfl⟩ := Option.map_eq_some_iff.mp (operated.current.symm.trans inService)
  exact operation.touch_coherent (coherent.served _ served)

theorem Manager.IsCoherent.run {deployment : Deployment} (coherent : deployment.manager.IsCoherent)
    (operations : List Operation) : (deployment.run operations).manager.IsCoherent := by
  induction operations generalizing deployment with
  | nil => exact coherent
  | cons operation rest ih => exact ih (coherent.next operation)

section IsBuildOf

variable {config : Configuration} {policy : BuildPolicy} {generation : Nat} {registry fresh : Registry}

theorem Manager.IsCoherent.sound {manager : Manager} (coherent : manager.IsCoherent)
    (valid : config.isValid) (inService : manager.current = some registry)
    (build : registry.IsBuildOf config policy) : registry.Sound := by
  have host : registry.DefaultIsHostText := (Configuration.build_sound valid build).host
  exact ⟨host, coherent registry inService host⟩

theorem Registry.IsBuildOf.lookUp_eq (build : registry.IsBuildOf config policy)
    (built : config.build policy generation = .ok fresh) (rawHost : String) :
    registry.lookUp rawHost = fresh.lookUp rawHost := by
  have again := Configuration.build_renumbered built registry.generation
  change registry.forgotten.lookUp rawHost = _
  rw [Except.ok.inj (build.symm.trans again)]
  rfl

end IsBuildOf

end SiteRouting
