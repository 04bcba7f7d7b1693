namespace SiteRouting

inductive Outcome where
  | cacheHit
  | resolved
  | notFound
  | error
  deriving DecidableEq, Repr

def Outcome.label : Outcome → String
  | .cacheHit => "cache_hit"
  | .resolved => "resolved"
  | .notFound => "not_found"
  | .error => "error"

/-- A counter that went up by one or a gauge that was set. Operations answer
the events that they cause, in order. -/
inductive Event where
  | resolution (outcome : Outcome)
  | cachedHosts (count : Nat)
  | build (accepted : Bool)
  | buildIssues (count : Nat)
  | adminRequest (endpoint : String) (status : Nat)
  deriving DecidableEq, Repr

def Event.metric : Event → String
  | .resolution _ => "hosting_resolutions_total"
  | .cachedHosts _ => "hosting_cached_hosts"
  | .build _ => "hosting_builds_total"
  | .buildIssues _ => "hosting_build_issues"
  | .adminRequest _ _ => "admin_requests_total"

def Event.labels : Event → List (String × String)
  | .resolution outcome => [("outcome", outcome.label)]
  | .build accepted => [("result", if accepted then "accepted" else "rejected")]
  | .adminRequest endpoint status => [("endpoint", endpoint), ("status", toString status)]
  | .cachedHosts _ | .buildIssues _ => []

def Event.level : Event → Option Nat
  | .cachedHosts count | .buildIssues count => some count
  | _ => none

/-- One line for an event: the metric with its labels, and its new
value or the step up. -/
def Event.line (event : Event) : String :=
  let labels := ",".intercalate (event.labels.map fun (key, value) => s!"{key}={value}")
  let name := if labels.isEmpty then event.metric else s!"{event.metric}\x7b{labels}\x7d"
  match event.level with
  | none => s!"{name} +1"
  | some level => s!"{name} ={level}"

end SiteRouting
