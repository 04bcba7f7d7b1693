import SiteRouting.Admin.Route
import SiteRouting.Admin.View
import SiteRouting.Data.Json.Record
import SiteRouting.Http.MediaType
import SiteRouting.Manager

namespace SiteRouting.Admin

open Data Http

/-- The key that a request presents: what follows the word for bearer keys,
without blanks at its ends. -/
def bearerKey? (request : Request) : Option String :=
  ((request.text? "authorization").bind (Text.dropInitial? "Bearer ")).map Text.trim

def isAdmitted (settings : AdminSettings) (request : Request) : Bool :=
  bearerKey? request == some settings.apiKey

structure Answer where
  status : Nat
  body : Option Value := none
  deriving Repr

def Answer.failed (status : Nat) (message : String) : Answer :=
  ⟨status, some (.table [("error", .text message)])⟩

def Answer.refused (cause : MatchError) : Answer :=
  .failed cause.status cause.message

def Answer.notLocked (cause : LockError) : Answer :=
  match cause with
  | .unknownMount _ => .failed 404 cause.message
  | .alreadyLocked _ _ | .notLockedBy _ _ => .failed 409 cause.message

def Answer.ofRead : Except MatchError Answer → Answer
  | .ok answer => answer
  | .error cause => .refused cause

def status (manager : Manager) (source : Source) : Manager.Step Answer :=
  let step := manager.read source fun registry => .ok ⟨200, some (registry.statusView manager.stale)⟩
  { step with answer := .ofRead step.answer }

def issues (manager : Manager) (source : Source) : Manager.Step Answer :=
  let step := manager.read source fun registry =>
    .ok ⟨200, some (.list (registry.issues.map Issue.view))⟩
  { step with answer := .ofRead step.answer }

def resolvedAnswer (rawHost path : String) (contextPath : Option String) :
    Option ResolvedHost → Answer
  | none => .failed 404 s!"no virtual host matches '{rawHost}'"
  | some host =>
    match host.matchMount contextPath path with
    | none => .failed 404 s!"'{rawHost}' has no mount for '{path}'"
    | some mount => ⟨200, some (.table [("raw_host", .text rawHost), ("mount", mount.summary)])⟩

/-- Answers with the mount for the host of the query, else for the host that
the request was addressed to. -/
def resolve (manager : Manager) (source : Source) (request : Request) : Manager.Step Answer :=
  match ResolveQuery.ofPairs? {} (Text.formPairs request.query) with
  | none => ⟨⟨400, none⟩, manager, []⟩
  | some query =>
    match query.host <|> request.farthestHost? with
    | none => ⟨.refused .emptyHost, manager, []⟩
    | some rawHost =>
      let step := manager.matchHost source rawHost
      let answer := step.answer.map (resolvedAnswer rawHost (query.path.getD "/") query.contextPath)
      { step with answer := .ofRead answer }

def showMount (manager : Manager) (source : Source) (identifier : String) : Manager.Step Answer :=
  let step := manager.read source fun registry =>
    .ok <| match registry.mountByIdentifier identifier with
      | none => .failed 404 s!"mount '{identifier}' is unknown"
      | some mount => ⟨200, some (mount.view registry.tree (manager.locks.lockOf? identifier))⟩
  { step with answer := .ofRead step.answer }

def showAlias (manager : Manager) (source : Source) (group aliasName mountType : String) :
    Manager.Step Answer :=
  let step := manager.read source fun registry =>
    (registry.mountByAlias group aliasName mountType).map fun
      | none =>
        .failed 404 s!"no mount with alias '{aliasName}' and type '{mountType}' in host group '{group}'"
      | some mount => ⟨200, some (mount.view registry.tree (manager.locks.lockOf? mount.identifier))⟩
  { step with answer := .ofRead step.answer }

/-- The user that a request for a lock names, or the status that it is
turned away with. -/
def lockUser (request : Request) : Except Nat String :=
  if !request.announcesJson then .error 415
  else match Json.textField "user" request.body with
    | .ok user => .ok user
    | .error .malformed => .error 400
    | .error .misshapen => .error 422

def lock (manager : Manager) (source : Source) (now : Nat) (identifier : String)
    (request : Request) : Manager.Step Answer :=
  match lockUser request with
  | .error status => ⟨⟨status, none⟩, manager, []⟩
  | .ok user =>
    let step := manager.lockMount source now identifier user
    { step with answer := match step.answer with
        | .ok lock => ⟨200, some lock.view⟩
        | .error cause => .notLocked cause }

def unlock (manager : Manager) (source : Source) (identifier : String) (request : Request) :
    Manager.Step Answer :=
  match lockUser request with
  | .error status => ⟨⟨status, none⟩, manager, []⟩
  | .ok user =>
    let step := manager.unlockMount source identifier user
    { step with answer := match step.answer with
        | .ok () => ⟨204, none⟩
        | .error cause => .notLocked cause }

def run (manager : Manager) (source : Source) (now : Nat) (request : Request) :
    Command → Manager.Step Answer
  | .status => status manager source
  | .issues => issues manager source
  | .resolve => resolve manager source request
  | .mount identifier => showMount manager source identifier
  | .aliased group aliasName mountType => showAlias manager source group aliasName mountType
  | .lock identifier => lock manager source now identifier request
  | .unlock identifier => unlock manager source identifier request
  | .invalidate => ⟨⟨202, some (.table [("stale", .bool true)])⟩, manager.invalidate, []⟩

/-- Answers a request that is admitted. Requests that reach a route by one of
its methods are counted with the status that they are answered with. -/
def routed (manager : Manager) (source : Source) (now : Nat) (request : Request) :
    Manager.Step Answer :=
  match Route.ofPath? request.path with
  | none => ⟨⟨404, none⟩, manager, []⟩
  | some route =>
    match (Method.ofName? request.method).filter route.allows with
    | none => ⟨⟨405, none⟩, manager, []⟩
    | some method =>
      let step : Manager.Step Answer := match route.command? method with
        | none => ⟨⟨400, none⟩, manager, []⟩
        | some command => run manager source now request command
      let body := if method == .head then none else step.answer.body
      { step with
        answer := { step.answer with body }
        events := step.events ++ [.adminRequest route.pattern step.answer.status] }

/-- Answers a request. One with the configured key is routed to a command on
the manager; without the key it is turned away before anything else is
looked at, and nothing changes. -/
def serve (settings : AdminSettings) (manager : Manager) (source : Source) (now : Nat)
    (request : Request) : Manager.Step Response :=
  let step := if isAdmitted settings request then routed manager source now request
    else ⟨⟨401, none⟩, manager, []⟩
  { step with answer := ⟨step.answer.status, step.answer.body, request.identifier?⟩ }

end SiteRouting.Admin
