import Mathlib
import SiteRouting.Manager
import SiteRouting.Proofs.Build.Outcome
import SiteRouting.Proofs.Lookup.Memory

namespace SiteRouting

/-- A manager with what its source answers now, which may change
between two operations. -/
structure Deployment where
  manager : Manager
  source : Source

inductive Operation where
  | load
  | replace (config : Configuration)
  | invalidate
  | sourceChange (source : Source)
  | registry
  | matchHost (rawHost : String)
  | matchMount (rawHost : String) (contextPath : Option String) (path : String)
  | mountByIdentifier (identifier : String)
  | mountByAlias (group aliasName mountType : String)
  | lockMount (now : Nat) (identifier user : String)
  | unlockMount (identifier user : String)

def Deployment.operate (deployment : Deployment) : Operation → Manager
  | .load => (deployment.manager.load deployment.source).manager
  | .replace config => (deployment.manager.replace config).manager
  | .invalidate => deployment.manager.invalidate
  | .sourceChange _ => deployment.manager
  | .registry => (deployment.manager.registry deployment.source).manager
  | .matchHost rawHost => (deployment.manager.matchHost deployment.source rawHost).manager
  | .matchMount rawHost contextPath path =>
    (deployment.manager.matchMount deployment.source rawHost contextPath path).manager
  | .mountByIdentifier identifier =>
    (deployment.manager.mountByIdentifier deployment.source identifier).manager
  | .mountByAlias group aliasName mountType =>
    (deployment.manager.mountByAlias deployment.source group aliasName mountType).manager
  | .lockMount now identifier user =>
    (deployment.manager.lockMount deployment.source now identifier user).manager
  | .unlockMount identifier user =>
    (deployment.manager.unlockMount deployment.source identifier user).manager

def Operation.sourceAfter (source : Source) : Operation → Source
  | .sourceChange next => next
  | _ => source

def Deployment.next (deployment : Deployment) (operation : Operation) : Deployment where
  manager := deployment.operate operation
  source := operation.sourceAfter deployment.source

def Deployment.run (deployment : Deployment) (operations : List Operation) : Deployment :=
  operations.foldl Deployment.next deployment

theorem Deployment.run_append (start : Deployment) (front back : List Operation) :
    start.run (front ++ back) = (start.run front).run back :=
  List.foldl_append

/-- The configuration that a read builds from: it builds only if the manager
is stale, and only if something can be loaded. -/
def Deployment.lazyPass? (deployment : Deployment) : Option Configuration :=
  if deployment.manager.stale then (deployment.manager.loaded deployment.source).toOption else none

/-- The configuration that an operation builds from, if it builds. A rebuild
that can load nothing is not counted here. -/
def Deployment.pass? (deployment : Deployment) : Operation → Option Configuration
  | .load => (deployment.manager.loaded deployment.source).toOption
  | .replace config => some config
  | .invalidate | .sourceChange _ => none
  | .unlockMount identifier _ =>
    if (deployment.manager.locks.lockOf? identifier).isSome then none else deployment.lazyPass?
  | _ => deployment.lazyPass?

/-- The effect of an operation on the memory of the registry that it
finds in service. -/
def Operation.touch (registry : Registry) : Operation → Registry
  | .matchHost rawHost | .matchMount rawHost _ _ => (registry.matchHost rawHost).registry
  | _ => registry

def Manager.served (manager : Manager) : Option Configuration → Option Registry
  | none => manager.current
  | some config => (config.build manager.policy (manager.generation + 1)).toOption <|> manager.current

/-- All that an operation does to what is in service: it attempts at most one
build, and then touches what is remembered for the host that it looks up. -/
structure Manager.Operated (before after : Manager) (pass : Option Configuration)
    (touch : Registry → Registry) : Prop where
  policy : after.policy = before.policy
  generation : after.generation = before.generation + pass.toList.length
  current : after.current = (before.served pass).map touch

theorem Manager.Operated.idle {before after : Manager} (policy : after.policy = before.policy)
    (generation : after.generation = before.generation) (current : after.current = before.current) :
    before.Operated after none id :=
  ⟨policy, generation, by rw [current, Manager.served, Option.map_id, id]⟩

theorem Manager.rebuild_operated (manager : Manager) (source : Source) :
    manager.Operated (manager.rebuild source).manager (manager.loaded source).toOption id := by
  unfold Manager.rebuild
  cases manager.loaded source with
  | error cause => exact Manager.Operated.idle rfl rfl rfl
  | ok config =>
    dsimp only
    cases built : config.build manager.policy (manager.generation + 1) with
    | error issues =>
      refine ⟨rfl, rfl, ?_⟩
      simp [Manager.served, built, Except.toOption]
    | ok registry =>
      refine ⟨rfl, rfl, ?_⟩
      simp [Manager.served, built, Except.toOption]

theorem Manager.replace_operated (manager : Manager) (config : Configuration) :
    manager.Operated (manager.replace config).manager (some config) id := by
  have operated := Manager.rebuild_operated { manager with pushed := some config } (.ok config)
  exact ⟨operated.policy, operated.generation, operated.current⟩

theorem Manager.registry_of_stale {manager : Manager} {source : Source}
    (stale : manager.stale = true) :
    (manager.registry source).manager = (manager.rebuild source).manager := by
  unfold Manager.registry
  simp only [stale, if_true]
  split <;> rfl

theorem Manager.registry_eq_of_fresh {manager : Manager} {source : Source}
    (fresh : manager.stale = false) :
    manager.registry source =
      ⟨(manager.current.map Except.ok).getD (.error .notConfigured), manager, []⟩ := by
  unfold Manager.registry
  simp only [fresh, Bool.false_eq_true, if_false]
  cases manager.current <;> rfl

theorem Manager.registry_of_fresh {manager : Manager} {source : Source}
    (fresh : manager.stale = false) :
    (manager.registry source).manager = manager := by
  rw [Manager.registry_eq_of_fresh fresh]

theorem Deployment.registry_operated (deployment : Deployment) :
    deployment.manager.Operated (deployment.manager.registry deployment.source).manager
      deployment.lazyPass? id := by
  unfold Manager.registry Deployment.lazyPass?
  by_cases stale : deployment.manager.stale
  · have operated := deployment.manager.rebuild_operated deployment.source
    simp only [stale, if_true]
    split <;> exact operated
  · simp only [stale]
    split <;> exact Manager.Operated.idle rfl rfl rfl

/-- A read answers with the registry in service after its own attempt to
build, and is refused if there is still none. -/
theorem Manager.registry_answer (manager : Manager) (source : Source) :
    (manager.registry source).answer =
      match (manager.registry source).manager.current with
      | none => .error .notConfigured
      | some registry => .ok registry := by
  unfold Manager.registry
  dsimp only
  split <;> rename_i current <;> simp [current]

theorem Manager.lookUp_manager {α : Type} (manager : Manager) (source : Source)
    (query : Registry → Registry.Step (Except MatchError α)) :
    (manager.lookUp source query).manager =
      { (manager.registry source).manager with
        current := (manager.registry source).manager.current.map fun registry =>
          (query registry).registry } := by
  have answer := manager.registry_answer source
  unfold Manager.lookUp
  generalize manager.registry source = step at answer ⊢
  obtain ⟨answered, ⟨policy, pushed, current, stale, generation, locks⟩, events⟩ := step
  dsimp only at answer ⊢
  cases current with
  | none =>
    rw [answer]
    rfl
  | some registry =>
    rw [answer]
    rfl

theorem Deployment.lookUp_operated {α : Type} (deployment : Deployment)
    (query : Registry → Registry.Step (Except MatchError α)) :
    deployment.manager.Operated (deployment.manager.lookUp deployment.source query).manager
      deployment.lazyPass? fun registry => (query registry).registry := by
  have read := deployment.registry_operated
  rw [Manager.lookUp_manager]
  refine ⟨read.policy, read.generation, congrArg (Option.map _) ?_⟩
  rw [read.current, Option.map_id, id]

theorem Manager.lockMount_manager (manager : Manager) (source : Source) (now : Nat)
    (identifier user : String) :
    ∃ locks, (manager.lockMount source now identifier user).manager =
      { (manager.registry source).manager with locks } := by
  unfold Manager.lockMount
  have known : (manager.knows source identifier).manager = (manager.registry source).manager := rfl
  generalize manager.knows source identifier = step at known ⊢
  dsimp only
  split
  · cases step.manager.locks.lock now identifier user with
    | error cause => exact ⟨_, known⟩
    | ok locked => exact ⟨locked.2, by rw [← known]⟩
  · exact ⟨_, known⟩

theorem Deployment.lockMount_operated (deployment : Deployment) (now : Nat)
    (identifier user : String) :
    deployment.manager.Operated
      (deployment.manager.lockMount deployment.source now identifier user).manager
      deployment.lazyPass? id := by
  have read := deployment.registry_operated
  obtain ⟨locks, same⟩ := deployment.manager.lockMount_manager deployment.source now identifier user
  rw [same]
  exact ⟨read.policy, read.generation, read.current⟩

theorem Deployment.unlockMount_operated (deployment : Deployment) (identifier user : String) :
    deployment.manager.Operated
      (deployment.manager.unlockMount deployment.source identifier user).manager
      (if (deployment.manager.locks.lockOf? identifier).isSome then none else deployment.lazyPass?)
      id := by
  unfold Manager.unlockMount
  cases deployment.manager.locks.lockOf? identifier with
  | none => exact deployment.registry_operated
  | some lock =>
    dsimp only
    split
    · exact Manager.Operated.idle rfl rfl rfl
    · exact Manager.Operated.idle rfl rfl rfl

/-- What every operation does: its own build decides what is in service, and
the host that it looks up is remembered there. -/
theorem Deployment.operated (deployment : Deployment) (operation : Operation) :
    deployment.manager.Operated (deployment.operate operation) (deployment.pass? operation)
      operation.touch := by
  cases operation with
  | load => exact deployment.manager.rebuild_operated deployment.source
  | replace config => exact deployment.manager.replace_operated config
  | invalidate => exact Manager.Operated.idle rfl rfl rfl
  | sourceChange source => exact Manager.Operated.idle rfl rfl rfl
  | registry => exact deployment.registry_operated
  | matchHost rawHost => exact deployment.lookUp_operated (·.matchHost rawHost)
  | matchMount rawHost contextPath path =>
    exact deployment.lookUp_operated (·.matchMount rawHost contextPath path)
  | mountByIdentifier identifier => exact deployment.registry_operated
  | mountByAlias group aliasName mountType => exact deployment.registry_operated
  | lockMount now identifier user => exact deployment.lockMount_operated now identifier user
  | unlockMount identifier user => exact deployment.unlockMount_operated identifier user

end SiteRouting
