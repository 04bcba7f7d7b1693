import Mathlib
import SiteRouting.Admin.Service
import SiteRouting.Proofs.Manager.Operation

namespace SiteRouting

open Http

/-- What can happen to a manager that the admin service stands in front of:
operations, changes of the source and requests, in any order. -/
inductive Incident where
  | operation (operation : Operation)
  | request (now : Nat) (request : Request)

def Deployment.meet (deployment : Deployment) (settings : AdminSettings) : Incident → Deployment
  | .operation operation => deployment.next operation
  | .request now request =>
    { deployment with
      manager := (Admin.serve settings deployment.manager deployment.source now request).manager }

def Deployment.after (deployment : Deployment) (settings : AdminSettings) (history : List Incident) :
    Deployment :=
  history.foldl (fun reached incident => reached.meet settings incident) deployment

namespace Admin

/-- The operation that a command carries out on the manager, unless it
stops at its parameters. -/
def Command.operation? (request : Request) (now : Nat) : Command → Option Operation
  | .status | .issues => some .registry
  | .resolve => do
    let query ← ResolveQuery.ofPairs? {} (Text.formPairs request.query)
    let rawHost ← query.host <|> request.farthestHost?
    return .matchHost rawHost
  | .mount identifier => some (.mountByIdentifier identifier)
  | .aliased group aliasName mountType => some (.mountByAlias group aliasName mountType)
  | .lock identifier => (lockUser request).toOption.map (.lockMount now identifier)
  | .unlock identifier => (lockUser request).toOption.map (.unlockMount identifier)
  | .invalidate => some .invalidate

def routed? (request : Request) : Option Command := do
  let route ← Route.ofPath? request.path
  let method ← (Method.ofName? request.method).filter route.allows
  route.command? method

def operation? (settings : AdminSettings) (now : Nat) (request : Request) : Option Operation :=
  if isAdmitted settings request then (routed? request).bind (·.operation? request now) else none

section Request

variable {manager : Manager} {source : Source} {request : Request} {now : Nat}

theorem resolve_manager :
    (resolve manager source request).manager =
      (Command.resolve.operation? request now).elim manager (Deployment.operate ⟨manager, source⟩) := by
  unfold resolve
  cases read : ResolveQuery.ofPairs? {} (Text.formPairs request.query) with
  | none => simp [Command.operation?, read]
  | some query =>
    cases addressed : query.host <|> request.farthestHost? with
    | none => simp only [Command.operation?, read, addressed, bind, Option.bind, Option.elim]
    | some rawHost =>
      simp only [Command.operation?, read, addressed, bind, Option.bind, pure, Option.elim]
      rfl

theorem lock_manager (identifier : String) :
    (lock manager source now identifier request).manager =
      ((Command.lock identifier).operation? request now).elim manager
        (Deployment.operate ⟨manager, source⟩) := by
  unfold lock
  cases read : lockUser request with
  | error status => simp [Command.operation?, read, Except.toOption]
  | ok user => simp [Command.operation?, read, Except.toOption, Deployment.operate]

theorem unlock_manager (identifier : String) :
    (unlock manager source identifier request).manager =
      ((Command.unlock identifier).operation? request now).elim manager
        (Deployment.operate ⟨manager, source⟩) := by
  unfold unlock
  cases read : lockUser request with
  | error status => simp [Command.operation?, read, Except.toOption]
  | ok user => simp [Command.operation?, read, Except.toOption, Deployment.operate]

theorem run_manager (command : Command) :
    (run manager source now request command).manager =
      (command.operation? request now).elim manager (Deployment.operate ⟨manager, source⟩) := by
  unfold run
  cases command with
  | resolve => exact resolve_manager
  | lock identifier => exact lock_manager identifier
  | unlock identifier => exact unlock_manager identifier
  | status | issues | mount | aliased | invalidate => rfl

theorem routed_manager :
    (routed manager source now request).manager =
      ((routed? request).bind (·.operation? request now)).elim manager
        (Deployment.operate ⟨manager, source⟩) := by
  unfold routed routed?
  cases Route.ofPath? request.path with
  | none => rfl
  | some route =>
    cases allowed : (Method.ofName? request.method).filter route.allows with
    | none => simp [allowed]
    | some method =>
      cases commanded : route.command? method with
      | none => simp [allowed, commanded]
      | some command => simp [allowed, commanded, run_manager]

/-- To the manager a request is the one operation of its command, or
nothing at all. -/
theorem serve_manager (settings : AdminSettings) (manager : Manager) (source : Source) (now : Nat)
    (request : Request) :
    (serve settings manager source now request).manager =
      (operation? settings now request).elim manager (Deployment.operate ⟨manager, source⟩) := by
  unfold serve operation?
  by_cases admitted : isAdmitted settings request
  · simp only [admitted, if_true]
    exact routed_manager
  · simp only [admitted]
    rfl

theorem Command.sourceAfter_operation {command : Command} {operation : Operation}
    (carriedOut : command.operation? request now = some operation) :
    operation.sourceAfter source = source := by
  cases command with
  | status | issues | mount | aliased | invalidate =>
    cases carriedOut
    rfl
  | resolve =>
    simp only [Command.operation?, bind, Option.bind_eq_some_iff, pure, Option.some.injEq] at carriedOut
    obtain ⟨_, _, _, _, rfl⟩ := carriedOut
    rfl
  | lock | unlock =>
    simp only [Command.operation?, Option.map_eq_some_iff] at carriedOut
    obtain ⟨_, _, rfl⟩ := carriedOut
    rfl

end Request

end Admin

/-- The operations that an incident amounts to: none or one for a
request, and itself if it is one. -/
def Incident.operations (settings : AdminSettings) : Incident → List Operation
  | .operation performed => [performed]
  | .request now asked => (Admin.operation? settings now asked).toList

theorem Deployment.meet_request (deployment : Deployment) (settings : AdminSettings) (now : Nat)
    (request : Request) :
    deployment.meet settings (.request now request) =
      deployment.run (Admin.operation? settings now request).toList := by
  rw [Deployment.meet, Admin.serve_manager]
  cases performed : Admin.operation? settings now request with
  | none => rfl
  | some operation =>
    obtain ⟨_, performed⟩ := Option.ite_none_right_eq_some.mp performed
    obtain ⟨command, _, carriedOut⟩ := Option.bind_eq_some_iff.mp performed
    have sameSource : operation.sourceAfter deployment.source = deployment.source :=
      Admin.Command.sourceAfter_operation carriedOut
    simp only [Option.elim, Option.toList_some, Deployment.run, List.foldl_cons, List.foldl_nil,
      Deployment.next, sameSource]

theorem Deployment.meet_eq_run (deployment : Deployment) (settings : AdminSettings)
    (incident : Incident) :
    deployment.meet settings incident = deployment.run (incident.operations settings) := by
  cases incident with
  | operation operation => rfl
  | request now request => exact deployment.meet_request settings now request

/-- A history leads where some run of operations leads: to the manager a
request is at most one operation, the one of its command. -/
theorem Deployment.after_eq_run (deployment : Deployment) (settings : AdminSettings)
    (history : List Incident) :
    deployment.after settings history = deployment.run (history.flatMap (·.operations settings)) := by
  induction history generalizing deployment with
  | nil => rfl
  | cons incident rest ih =>
    rw [List.flatMap_cons, Deployment.run_append, ← deployment.meet_eq_run settings incident]
    exact ih _

end SiteRouting
