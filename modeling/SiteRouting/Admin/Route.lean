import SiteRouting.Http.Request
import SiteRouting.Text.PercentEncoding

namespace SiteRouting.Admin

/-- A path that the admin service knows. Parameters are still percent encoded. -/
inductive Route where
  | status
  | issues
  | resolve
  | mount (identifier : String)
  | aliased (group aliasName mountType : String)
  | lock (identifier : String)
  | invalidate
  deriving DecidableEq, Repr

/-- The methods that any of the routes answers to. A head request is a get
request whose answer has no body. -/
inductive Method where
  | get
  | head
  | post
  | delete
  deriving DecidableEq, Repr

def Method.ofName? (name : String) : Option Method :=
  if name == "GET" then some .get
  else if name == "HEAD" then some .head
  else if name == "POST" then some .post
  else if name == "DELETE" then some .delete
  else none

def routeSegments (path : String) : List String :=
  (Text.splitAt '/' path).drop 1

/-- The route of a path. A parameter at the end of a path is not empty,
one in the middle may be. -/
def Route.ofPath? (path : String) : Option Route :=
  match routeSegments path with
  | ["admin", "status"] => some .status
  | ["admin", "issues"] => some .issues
  | ["admin", "resolve"] => some .resolve
  | ["admin", "invalidate"] => some .invalidate
  | ["admin", "mounts", identifier] => if identifier.isEmpty then none else some (.mount identifier)
  | ["admin", "mounts", identifier, "lock"] => some (.lock identifier)
  | ["admin", "aliases", group, aliasName, mountType] =>
    if mountType.isEmpty then none else some (.aliased group aliasName mountType)
  | _ => none

/-- The pattern of a route, with names in the place of its parameters, under
which requests to it are counted. -/
def Route.pattern : Route → String
  | .status => "/admin/status"
  | .issues => "/admin/issues"
  | .resolve => "/admin/resolve"
  | .mount _ => "/admin/mounts/\x7bidentifier\x7d"
  | .aliased _ _ _ => "/admin/aliases/\x7bgroup\x7d/\x7balias\x7d/\x7bmount_type\x7d"
  | .lock _ => "/admin/mounts/\x7bidentifier\x7d/lock"
  | .invalidate => "/admin/invalidate"

/-- Whether a route answers to a method: locks are set and released, the
registry is invalidated, and everything else is only read. -/
def Route.allows (route : Route) (method : Method) : Bool :=
  match route, method with
  | .lock _, .post | .lock _, .delete => true
  | .invalidate, .post => true
  | .lock _, _ | .invalidate, _ => false
  | _, .get | _, .head => true
  | _, _ => false

/-- What a request asks for, with its parameters decoded. A route and a
method that it allows make one of these. -/
inductive Command where
  | status
  | issues
  | resolve
  | mount (identifier : String)
  | aliased (group aliasName mountType : String)
  | lock (identifier : String)
  | unlock (identifier : String)
  | invalidate
  deriving DecidableEq, Repr

/-- The command of a route and a method, none if a parameter does not
stand for a text. -/
def Route.command? (route : Route) (method : Method) : Option Command :=
  match route with
  | .status => some .status
  | .issues => some .issues
  | .resolve => some .resolve
  | .invalidate => some .invalidate
  | .mount identifier => (Text.percentDecode? identifier).map .mount
  | .lock identifier =>
    (Text.percentDecode? identifier).map (if method == .delete then .unlock else .lock)
  | .aliased group aliasName mountType => do
    return .aliased (← Text.percentDecode? group) (← Text.percentDecode? aliasName)
      (← Text.percentDecode? mountType)

structure ResolveQuery where
  host : Option String := none
  contextPath : Option String := none
  path : Option String := none
  deriving DecidableEq, Repr

/-- Reads the parameters out of a query. One that is known may not be repeated. -/
def ResolveQuery.ofPairs? (query : ResolveQuery) : List (String × String) → Option ResolveQuery
  | [] => some query
  | (name, value) :: rest =>
    if name == "host" then
      if query.host.isSome then none else { query with host := some value }.ofPairs? rest
    else if name == "context_path" then
      if query.contextPath.isSome then none else { query with contextPath := some value }.ofPairs? rest
    else if name == "path" then
      if query.path.isSome then none else { query with path := some value }.ofPairs? rest
    else query.ofPairs? rest

end SiteRouting.Admin
