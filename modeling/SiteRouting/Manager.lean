import SiteRouting.Config.Loading
import SiteRouting.Locks
import SiteRouting.Registry

namespace SiteRouting

/-- The registry in service, if a build was accepted, and what a rebuild depends
on. A registry is replaced only by an accepted build; after an invalidation the
next read builds a new one; the locks stay through all of it. -/
structure Manager where
  policy : BuildPolicy
  /-- A configuration handed in since the last invalidation; it goes
  before the source. -/
  pushed : Option Configuration := none
  current : Option Registry := none
  stale : Bool := true
  /-- The number of builds so far. -/
  generation : Nat := 0
  locks : LockTable := []

/-- A manager after an operation, what the operation answers, and the
events on the way. -/
structure Manager.Step (α : Type) where
  answer : α
  manager : Manager
  events : List Event := []

def Manager.new (policy : BuildPolicy) : Manager := { policy }

/-- What a build starts from: the pushed configuration, or else what the
source of configurations would answer at the time. That answer is given to
every operation that may ask for it. -/
def Manager.loaded (manager : Manager) (source : Source) : Source :=
  match manager.pushed with
  | some config => .ok config
  | none => source

/-- Builds from what is loaded. A configuration that cannot be loaded leaves
the manager stale; a build that is refused does not. -/
def Manager.rebuild (manager : Manager) (source : Source) :
    Manager.Step (Except LoadError Registry) :=
  match manager.loaded source with
  | .error cause => ⟨.error cause, { manager with stale := true }, []⟩
  | .ok config =>
    let generation := manager.generation + 1
    let built := config.build manager.policy generation
    let manager := { manager with stale := false, generation }
    match built with
    | .error issues => ⟨.error (.rejected issues), manager, buildEvents built⟩
    | .ok registry => ⟨.ok registry, { manager with current := some registry }, buildEvents built⟩

/-- Builds now, whether or not the registry in service is still current. A
configuration that was handed in is built again. -/
def Manager.load (manager : Manager) (source : Source) : Manager.Step (Except LoadError Registry) :=
  manager.rebuild source

/-- Hands in a configuration and builds from it. It is kept even if
the build is refused. -/
def Manager.replace (manager : Manager) (config : Configuration) :
    Manager.Step (Except LoadError Registry) :=
  { manager with pushed := some config }.rebuild (.ok config)

/-- Makes the next read build from the source. A configuration that was handed
in is dropped; the registry stays in service until a build is accepted. -/
def Manager.invalidate (manager : Manager) : Manager :=
  { manager with pushed := none, stale := true }

/-- The registry in service, after a build if the manager is stale. A build
that fails leaves the one before in service. -/
def Manager.registry (manager : Manager) (source : Source) :
    Manager.Step (Except MatchError Registry) :=
  let step : Manager.Step Unit :=
    if manager.stale then { manager.rebuild source with answer := () } else ⟨(), manager, []⟩
  match step.manager.current with
  | none => ⟨.error .notConfigured, step.manager, step.events⟩
  | some registry => ⟨.ok registry, step.manager, step.events⟩

def Manager.read {α : Type} (manager : Manager) (source : Source)
    (query : Registry → Except MatchError α) : Manager.Step (Except MatchError α) :=
  let step := manager.registry source
  { step with answer := step.answer.bind query }

/-- Looks up in the registry in service, after a build if the manager is
stale. The registry that is put back remembers the lookup. -/
def Manager.lookUp {α : Type} (manager : Manager) (source : Source)
    (query : Registry → Registry.Step (Except MatchError α)) : Manager.Step (Except MatchError α) :=
  let step := manager.registry source
  match step.answer with
  | .error cause => { step with answer := .error cause }
  | .ok registry =>
    let found := query registry
    ⟨found.answer, { step.manager with current := some found.registry }, step.events ++ found.events⟩

def Manager.matchHost (manager : Manager) (source : Source) (rawHost : String) :
    Manager.Step HostAnswer :=
  manager.lookUp source (·.matchHost rawHost)

def Manager.matchMount (manager : Manager) (source : Source) (rawHost : String)
    (contextPath : Option String) (path : String) :
    Manager.Step (Except MatchError (Option ResolvedMount)) :=
  manager.lookUp source (·.matchMount rawHost contextPath path)

def Manager.mountByIdentifier (manager : Manager) (source : Source) (identifier : String) :
    Manager.Step (Except MatchError (Option Mount)) :=
  manager.read source fun registry => .ok (registry.mountByIdentifier identifier)

def Manager.mountByAlias (manager : Manager) (source : Source) (group aliasName mountType : String) :
    Manager.Step (Except MatchError (Option Mount)) :=
  manager.read source (·.mountByAlias group aliasName mountType)

def Manager.knows (manager : Manager) (source : Source) (identifier : String) : Manager.Step Bool :=
  let step := manager.registry source
  { step with answer := match step.answer with
      | .ok registry => (registry.mountByIdentifier identifier).isSome
      | .error _ => false }

def Manager.lockMount (manager : Manager) (source : Source) (now : Nat) (identifier user : String) :
    Manager.Step (Except LockError MountLock) :=
  let step := manager.knows source identifier
  if step.answer then
    match step.manager.locks.lock now identifier user with
    | .error cause => { step with answer := .error cause }
    | .ok (lock, locks) => ⟨.ok lock, { step.manager with locks }, step.events⟩
  else { step with answer := .error (.unknownMount identifier) }

/-- Releases a lock. Its holder can do so even when the mount is gone;
without a lock the mount has to be known. -/
def Manager.unlockMount (manager : Manager) (source : Source) (identifier user : String) :
    Manager.Step (Except LockError Unit) :=
  match manager.locks.lockOf? identifier with
  | some _ =>
    match manager.locks.unlock identifier user with
    | .error cause => ⟨.error cause, manager, []⟩
    | .ok locks => ⟨.ok (), { manager with locks }, []⟩
  | none =>
    let step := manager.knows source identifier
    { step with answer := if step.answer then .ok () else .error (.unknownMount identifier) }

end SiteRouting
