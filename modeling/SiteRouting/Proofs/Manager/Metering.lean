import Mathlib
import SiteRouting.Proofs.Lookup.Metering
import SiteRouting.Proofs.Manager.Publication

namespace SiteRouting

def Deployment.events (deployment : Deployment) : Operation → List Event
  | .load => (deployment.manager.load deployment.source).events
  | .replace config => (deployment.manager.replace config).events
  | .invalidate | .sourceChange _ => []
  | .registry => (deployment.manager.registry deployment.source).events
  | .matchHost rawHost => (deployment.manager.matchHost deployment.source rawHost).events
  | .matchMount rawHost contextPath path =>
    (deployment.manager.matchMount deployment.source rawHost contextPath path).events
  | .mountByIdentifier identifier =>
    (deployment.manager.mountByIdentifier deployment.source identifier).events
  | .mountByAlias group aliasName mountType =>
    (deployment.manager.mountByAlias deployment.source group aliasName mountType).events
  | .lockMount now identifier user =>
    (deployment.manager.lockMount deployment.source now identifier user).events
  | .unlockMount identifier user =>
    (deployment.manager.unlockMount deployment.source identifier user).events

def Operation.rawHost? : Operation → Option String
  | .matchHost rawHost | .matchMount rawHost _ _ => some rawHost
  | _ => none

/-- A registry after the lookup of a raw host, if there is one to look up. -/
def Registry.touched (registry : Registry) (rawHost? : Option String) : Registry :=
  rawHost?.elim registry fun rawHost => (registry.matchHost rawHost).registry

theorem Registry.touched_forgotten (registry : Registry) (rawHost? : Option String) :
    (registry.touched rawHost?).forgotten = registry.forgotten := by
  cases rawHost? with
  | none => rfl
  | some rawHost => exact registry.matchHost_forgotten rawHost

/-- The lookup of a raw host in what a manager serves after a build,
if both are there. -/
def Manager.lookup? (manager : Manager) (pass : Option Configuration) (rawHost? : Option String) :
    Option (Registry × String) :=
  (manager.served pass).bind fun registry => rawHost?.map (registry, ·)

def Manager.verdict? (manager : Manager) (pass : Option Configuration) :
    Option (Except (List Issue) Registry) :=
  pass.map (·.build manager.policy (manager.generation + 1))

def reportOf (verdict : Option (Except (List Issue) Registry)) (lookup : Option (Registry × String)) :
    List Event :=
  verdict.elim [] buildEvents ++
    lookup.elim [] fun (registry, rawHost) => (registry.matchHost rawHost).events

@[simp] theorem Manager.lookup?_no_host (manager : Manager) (pass : Option Configuration) :
    manager.lookup? pass none = none := by
  cases inService : manager.served pass <;> simp [Manager.lookup?, inService]

@[simp] theorem reportOf_no_lookup (verdict : Option (Except (List Issue) Registry)) :
    reportOf verdict none = verdict.elim [] buildEvents :=
  List.append_nil _

section Events

variable (manager : Manager) (source : Source)

theorem Manager.rebuild_events :
    (manager.rebuild source).events =
      (manager.verdict? (manager.loaded source).toOption).elim [] buildEvents := by
  unfold Manager.rebuild Manager.verdict?
  cases manager.loaded source with
  | error cause => rfl
  | ok config =>
    dsimp only
    cases built : config.build manager.policy (manager.generation + 1) <;>
      simp [Except.toOption, built]

theorem Deployment.registry_events (deployment : Deployment) :
    (deployment.manager.registry deployment.source).events =
      (deployment.manager.verdict? deployment.lazyPass?).elim [] buildEvents := by
  unfold Manager.registry Deployment.lazyPass?
  by_cases stale : deployment.manager.stale
  · have events := deployment.manager.rebuild_events deployment.source
    simp only [stale, if_true]
    split <;> exact events
  · simp only [stale]
    split <;> rfl

theorem Manager.lookUp_events {α : Type} (query : Registry → Registry.Step (Except MatchError α)) :
    (manager.lookUp source query).events =
      (manager.registry source).events ++
        (manager.registry source).manager.current.elim [] fun registry => (query registry).events := by
  have answer := manager.registry_answer source
  unfold Manager.lookUp
  generalize manager.registry source = step at answer ⊢
  dsimp only
  cases current : step.manager.current with
  | none =>
    rw [current] at answer
    rw [answer]
    exact (List.append_nil _).symm
  | some registry =>
    rw [current] at answer
    rw [answer]
    rfl

theorem Manager.lockMount_events (now : Nat) (identifier user : String) :
    (manager.lockMount source now identifier user).events = (manager.registry source).events := by
  unfold Manager.lockMount
  have known : (manager.knows source identifier).events = (manager.registry source).events := rfl
  generalize manager.knows source identifier = step at known ⊢
  dsimp only
  split
  · cases step.manager.locks.lock now identifier user with
    | error cause => exact known
    | ok locked => exact known
  · exact known

end Events

theorem Deployment.unlockMount_events (deployment : Deployment) (identifier user : String) :
    (deployment.manager.unlockMount deployment.source identifier user).events =
      (deployment.manager.verdict?
        (if (deployment.manager.locks.lockOf? identifier).isSome then none
          else deployment.lazyPass?)).elim [] buildEvents := by
  unfold Manager.unlockMount
  cases deployment.manager.locks.lockOf? identifier with
  | none => exact deployment.registry_events
  | some lock =>
    dsimp only
    split <;> rfl

/-- A lookup through the manager reports the build that it waits for, and
then the lookup in the registry that is in service after it. -/
theorem Deployment.lookUp_events {α : Type} (deployment : Deployment) (rawHost : String)
    (query : Registry → Registry.Step (Except MatchError α))
    (looksUp : ∀ registry, (query registry).events = (registry.matchHost rawHost).events) :
    (deployment.manager.lookUp deployment.source query).events =
      reportOf (deployment.manager.verdict? deployment.lazyPass?)
        (deployment.manager.lookup? deployment.lazyPass? (some rawHost)) := by
  have operated := deployment.registry_operated
  have current : (deployment.manager.registry deployment.source).manager.current =
      deployment.manager.served deployment.lazyPass? := by
    rw [operated.current, Option.map_id, id]
  rw [Manager.lookUp_events, deployment.registry_events, current, reportOf, Manager.lookup?]
  congr 1
  cases deployment.manager.served deployment.lazyPass? with
  | none => rfl
  | some registry => exact looksUp registry

/-- An operation reports the build that it attempts and after it the lookup
that it makes in the registry in service, and nothing else. What is counted,
the last reported size of the memory, and the registries that are put in
service follow from that. -/
theorem Deployment.events_eq (deployment : Deployment) (operation : Operation) :
    deployment.events operation =
      reportOf (deployment.manager.verdict? (deployment.pass? operation))
        (deployment.manager.lookup? (deployment.pass? operation) operation.rawHost?) := by
  have quiet : ∀ pass, (deployment.manager.verdict? pass).elim [] buildEvents =
      reportOf (deployment.manager.verdict? pass) (deployment.manager.lookup? pass none) := by
    simp
  cases operation with
  | matchHost rawHost => exact deployment.lookUp_events rawHost (·.matchHost rawHost) fun _ => rfl
  | matchMount rawHost contextPath path =>
    exact deployment.lookUp_events rawHost (·.matchMount rawHost contextPath path) fun _ => rfl
  | load => exact (Manager.rebuild_events _ _).trans (quiet _)
  | replace config =>
    have events := Manager.rebuild_events { deployment.manager with pushed := some config } (.ok config)
    exact events.trans (quiet (some config))
  | invalidate | sourceChange => exact quiet none
  | registry | mountByIdentifier | mountByAlias => exact deployment.registry_events.trans (quiet _)
  | lockMount now identifier user =>
    have events := deployment.manager.lockMount_events deployment.source now identifier user
    exact (events.trans deployment.registry_events).trans (quiet _)
  | unlockMount identifier user =>
    exact (deployment.unlockMount_events identifier user).trans (quiet _)

theorem Operation.touch_eq (operation : Operation) (registry : Registry) :
    operation.touch registry = registry.touched operation.rawHost? := by
  cases operation <;> rfl

theorem reportOf_resolutions (verdict : Option (Except (List Issue) Registry))
    (lookup : Option (Registry × String)) :
    resolutions (reportOf verdict lookup) =
      lookup.toList.map fun (registry, rawHost) => registry.outcome rawHost := by
  have unlooked : resolutions (verdict.elim [] buildEvents) = [] := by
    obtain _ | issues | registry := verdict <;> rfl
  rw [reportOf, resolutions_append, unlooked, List.nil_append]
  cases lookup with
  | none => rfl
  | some looked => exact looked.1.matchHost_resolutions looked.2

theorem reportOf_builds (verdict : Option (Except (List Issue) Registry))
    (lookup : Option (Registry × String)) :
    builds (reportOf verdict lookup) = verdict.toList.map (·.isOk) := by
  have unbuilt : builds (lookup.elim [] fun (registry, rawHost) =>
      (registry.matchHost rawHost).events) = [] := by
    cases lookup with
    | none => rfl
    | some looked => exact looked.1.matchHost_builds looked.2
  rw [reportOf, builds_append, unbuilt, List.append_nil]
  obtain _ | issues | registry := verdict <;> rfl

/-- The last reported number of cached hosts is that of the registry in
service, if there is one. -/
def Manager.IsGauged (manager : Manager) (reported : Option Nat) : Prop :=
  ∀ registry, manager.current = some registry → reported = some registry.cache.length

section IsGauged

variable {before after : Manager} {reported : Option Nat} {pass : Option Configuration}

/-- A build that is accepted reports that its registry remembers nothing; any
other one leaves the registry in service and its report alone. -/
theorem Manager.IsGauged.served (gauged : before.IsGauged reported) {registry : Registry}
    (inService : before.served pass = some registry) :
    (cachedHosts? ((before.verdict? pass).elim [] buildEvents)).or reported =
      some registry.cache.length := by
  cases pass with
  | none => exact gauged registry inService
  | some config =>
    rw [Manager.served] at inService
    simp only [Manager.verdict?, Option.map_some, Option.elim_some]
    cases built : config.build before.policy (before.generation + 1) with
    | error issues =>
      rw [built] at inService
      exact gauged registry inService
    | ok fresh =>
      rw [built] at inService
      cases inService
      rw [Configuration.build_cache built]
      rfl

theorem Manager.IsGauged.operated {rawHost? : Option String} (gauged : before.IsGauged reported)
    (operated : before.Operated after pass (·.touched rawHost?)) :
    after.IsGauged
      ((cachedHosts? (reportOf (before.verdict? pass) (before.lookup? pass rawHost?))).or reported) := by
  intro registry inService
  obtain ⟨found, served, rfl⟩ := Option.map_eq_some_iff.mp (operated.current.symm.trans inService)
  have right := gauged.served served
  rw [reportOf, cachedHosts?_append, Option.or_assoc, Manager.lookup?, served]
  cases rawHost? with
  | none => exact right
  | some rawHost => exact found.matchHost_cachedHosts rawHost right

end IsGauged

/-- The registry that was put in service between two states of a manager, if
they differ in its number, as it was published: with nothing remembered. -/
def Manager.published? (before after : Manager) : Option Registry :=
  if after.current.map (·.generation) = before.current.map (·.generation) then none
  else after.current.map Registry.forgotten

/-- What an operation puts in service is what its build comes to, if
that is accepted. -/
theorem Manager.Operated.published?_eq {before after : Manager} {pass : Option Configuration}
    {rawHost? : Option String} (operated : before.Operated after pass (·.touched rawHost?))
    (numbered : ∀ registry, before.current = some registry →
      registry.generation ≤ before.generation) :
    before.published? after = (before.verdict? pass).bind (·.toOption) := by
  have number (registry : Registry) : (registry.touched rawHost?).generation = registry.generation := by
    have same := congrArg Registry.generation (registry.touched_forgotten rawHost?)
    exact same
  have kept : after.current = before.current.map (·.touched rawHost?) →
      before.published? after = none := by
    intro current
    rw [Manager.published?, if_pos]
    rw [current, Option.map_map]
    exact congrArg (before.current.map ·) (funext number)
  cases pass with
  | none => exact kept operated.current
  | some config =>
    rw [Manager.verdict?, Option.map_some]
    cases built : config.build before.policy (before.generation + 1) with
    | error issues => exact kept (operated.refused built).2
    | ok fresh =>
      have current := (operated.accepted built).2
      have plain : fresh.forgotten = fresh := by
        rw [Registry.forgotten, ← Configuration.build_cache built]
      have newer : after.current.map (·.generation) ≠ before.current.map (·.generation) := by
        rw [current, Option.map_some, number, Configuration.build_generation built]
        intro same
        obtain ⟨registry, served, older⟩ := Option.map_eq_some_iff.mp same.symm
        have := numbered registry served
        omega
      rw [Manager.published?, if_neg newer, current, Option.map_some,
        Registry.touched_forgotten, plain]
      rfl

end SiteRouting
