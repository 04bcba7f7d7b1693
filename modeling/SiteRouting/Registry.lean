import SiteRouting.Build
import SiteRouting.Metrics
import SiteRouting.Tree.Walk

namespace SiteRouting

structure RegistrySettings where
  defaultHostName : Option String
  defaultContextPath : Option String
  contextPathInUrl : Bool
  portInUrl : Bool
  cmsPreviewPath : String
  channelManagerHostGroup : Option String
  channelManagerSites : String
  excludedBeginnings : List String
  excludedEndings : List String
  maxCachedHosts : Nat
  deriving DecidableEq, Repr

def defaultChannelManagerSites : String := "hst:sites"

def RegistrySettings.ofDefaults (defaults : Defaults) : RegistrySettings where
  defaultHostName := (defaults.defaultHostName.map normalizeHostName).filter (!·.isEmpty)
  defaultContextPath := defaults.defaultContextPath
  contextPathInUrl := defaults.showContextPath
  portInUrl := defaults.showPort
  cmsPreviewPath :=
    String.ofList (Text.stripChars (· == '/') (defaults.cmsPreviewPath.getD "").toList)
  channelManagerHostGroup := defaults.channelManagerHostGroup
  channelManagerSites := defaults.channelManagerSites.getD defaultChannelManagerSites
  excludedBeginnings := defaults.excludedBeginnings
  excludedEndings := defaults.excludedEndings
  maxCachedHosts := defaults.maxCachedHosts

def RegistrySettings.excludes (settings : RegistrySettings) (path : String) : Bool :=
  settings.excludedBeginnings.any (Text.startsWith path) ||
    settings.excludedEndings.any (Text.endsWith path)

/-- A host that serves a request, the port entry that it serves it through,
and the tree that both belong to. -/
structure ResolvedHost where
  tree : HostingTree
  host : VirtualHost
  name : String
  port : Port
  matchedPort : Port
  deriving DecidableEq, Repr

def ResolvedHost.portMount (resolved : ResolvedHost) : PortMount :=
  (resolved.host.portMount? resolved.matchedPort <|> resolved.host.portMount? anyPort).getD
    ⟨resolved.matchedPort, none⟩

def ResolvedHost.rootMount? (resolved : ResolvedHost) : Option Mount :=
  resolved.portMount.root.bind resolved.tree.mount?

/-- A mount that serves a request, with the host it was found on. -/
structure ResolvedMount where
  host : ResolvedHost
  mount : Mount
  deriving DecidableEq, Repr

def ResolvedHost.matchMount (resolved : ResolvedHost) (contextPath : Option String) (path : String) :
    Option ResolvedMount := do
  let root ← resolved.rootMount?
  let mount ← resolved.tree.mountFor? root contextPath path
  return ⟨resolved, mount⟩

/-- Goes through the groups in declared order. The first host with a root
mount for exactly the port wins. Until one is found, the first host without
an entry for the port but with a root mount for any port is kept. -/
def HostingTree.chooseHost (tree : HostingTree) (labels : List String) (port : Port)
    (kept : Option (VirtualHost × Port)) : List HostGroup → Option (VirtualHost × Port)
  | [] => kept
  | group :: rest =>
    match tree.findHost group labels with
    | none => tree.chooseHost labels port kept rest
    | some host =>
      match host.portMount? port with
      | some entry =>
        if entry.root.isSome then some (host, port) else tree.chooseHost labels port kept rest
      | none =>
        let usable := port != anyPort && (host.rootMount? anyPort).isSome
        tree.chooseHost labels port (if usable then kept <|> some (host, anyPort) else kept) rest

def HostingTree.matchHost (tree : HostingTree) (name : String) (port : Port) : Option ResolvedHost :=
  (tree.chooseHost (hostLabels name) port none tree.groups.toList).map fun (host, matchedPort) =>
    { tree, host, name, port, matchedPort }

/-- One accepted build, with its tree and its mount index, and the host lookups
remembered since, under the raw text of the request, until the memory is full. -/
structure Registry where
  tree : HostingTree
  index : MountIndex
  settings : RegistrySettings
  issues : List Issue
  generation : Nat
  cache : List (String × Option ResolvedHost) := []
  deriving DecidableEq, Repr

def Registry.ofBuild (state : BuildState) (defaults : Defaults) (generation : Nat) : Registry where
  tree := state.tree
  index := state.index
  settings := .ofDefaults defaults
  issues := state.issues
  generation

/-- Builds the registry of a configuration, or answers all issues if
the policy refuses it. -/
def Configuration.build (config : Configuration) (policy : BuildPolicy) (generation : Nat) :
    Except (List Issue) Registry :=
  (policy.judge config.assemble).map fun state => .ofBuild state config.hosts generation

/-- The events of a build: whether it was accepted, how many issues it has,
and that a new registry remembers nothing. -/
def buildEvents : Except (List Issue) Registry → List Event
  | .error issues => [.build false, .buildIssues issues.length]
  | .ok registry => [.build true, .buildIssues registry.issues.length, .cachedHosts 0]

/-- The answer to a host lookup: a host, a miss, or the cause of a refusal. -/
abbrev HostAnswer := Except MatchError (Option ResolvedHost)

/-- A registry after an operation, what the operation answers, and the
events on the way. -/
structure Registry.Step (α : Type) where
  answer : α
  registry : Registry
  events : List Event := []

/-- What is remembered for a raw host; `some none` is a remembered miss. -/
def Registry.cached? (registry : Registry) (rawHost : String) : Option (Option ResolvedHost) :=
  registry.cache.lookup rawHost

/-- Remembers an answer unless the memory is full. A raw host is remembered
once: when the default host is written like the request itself, its answer is
already there and is replaced. -/
def Registry.remember (registry : Registry) (rawHost : String) (answer : Option ResolvedHost) :
    Registry × List Event :=
  if registry.settings.maxCachedHosts ≤ registry.cache.length then (registry, [])
  else
    let cache := registry.cache.filter (·.1 != rawHost) ++ [(rawHost, answer)]
    ({ registry with cache }, [.cachedHosts cache.length])

/-- The raw host of the default host for a request to another one: its name
with the port that was asked for. -/
def Registry.fallback? (registry : Registry) (request : RequestHost) : Option String :=
  match registry.settings.defaultHostName with
  | none => none
  | some name =>
    if name == request.name then none
    else some (if request.port == anyPort then name else s!"{name}:{request.port}")

/-- Looks a host up without a fallback, through the memory. This is how the
default host is asked for on the way of another lookup. -/
def Registry.resolveOwn (registry : Registry) (rawHost : String) : Registry.Step HostAnswer :=
  match registry.cached? rawHost with
  | some answer => ⟨.ok answer, registry, []⟩
  | none =>
    match RequestHost.parse rawHost with
    | .error cause => ⟨.error cause, registry, []⟩
    | .ok request =>
      let answer := registry.tree.matchHost request.name request.port
      let (registry, events) := registry.remember rawHost answer
      ⟨.ok answer, registry, events⟩

/-- Looks up what a request asks for; when nothing is found the
default host is tried. -/
def Registry.resolveRequest (registry : Registry) (request : RequestHost) : Registry.Step HostAnswer :=
  let own := registry.tree.matchHost request.name request.port
  match own, registry.fallback? request with
  | none, some fallback => registry.resolveOwn fallback
  | _, _ => ⟨.ok own, registry, []⟩

/-- Looks up a raw host that is not remembered, and remembers the answer. -/
def Registry.resolveNew (registry : Registry) (rawHost : String) : Registry.Step HostAnswer :=
  match RequestHost.parse rawHost with
  | .error cause => ⟨.error cause, registry, []⟩
  | .ok request =>
    let step := registry.resolveRequest request
    match step.answer with
    | .error cause => { step with answer := .error cause }
    | .ok answer =>
      let (registry, events) := step.registry.remember rawHost answer
      ⟨.ok answer, registry, step.events ++ events⟩

def outcomeOf : HostAnswer → Outcome
  | .error _ => .error
  | .ok none => .notFound
  | .ok (some _) => .resolved

/-- The host for the raw host value of a request. A miss is remembered like a
hit, a refusal is not remembered. -/
def Registry.matchHost (registry : Registry) (rawHost : String) : Registry.Step HostAnswer :=
  match registry.cached? rawHost with
  | some answer => ⟨.ok answer, registry, [.resolution .cacheHit]⟩
  | none =>
    let step := registry.resolveNew rawHost
    { step with events := step.events ++ [.resolution (outcomeOf step.answer)] }

/-- The host for a raw host value when nothing is remembered and
nothing has to be. -/
def Registry.lookUp (registry : Registry) (rawHost : String) : HostAnswer := do
  let request ← RequestHost.parse rawHost
  match registry.tree.matchHost request.name request.port, registry.fallback? request with
  | none, some fallback => do
    let request ← RequestHost.parse fallback
    return registry.tree.matchHost request.name request.port
  | own, _ => return own

def Registry.matchMount (registry : Registry) (rawHost : String) (contextPath : Option String)
    (path : String) : Registry.Step (Except MatchError (Option ResolvedMount)) :=
  let step := registry.matchHost rawHost
  { step with answer := step.answer.map (·.bind (·.matchMount contextPath path)) }

/-- The mount of an identifier. Of several mounts with one identifier it is
the one that was registered last. -/
def Registry.mountByIdentifier (registry : Registry) (identifier : String) : Option Mount :=
  (registry.index.identified? identifier).bind registry.tree.mount?

def Registry.mountsOfGroup (registry : Registry) (group : String) : List Mount :=
  (registry.index.ofGroup group).filterMap registry.tree.mount?

/-- The first mount of a group with an alias, in any case, and a type. -/
def Registry.mountByAlias (registry : Registry) (group aliasName mountType : String) :
    Except MatchError (Option Mount) :=
  if aliasName.isEmpty then .error (.invalidLookup .aliasName)
  else if mountType.isEmpty then .error (.invalidLookup .mountType)
  else .ok ((registry.index.aliased? ⟨group, Text.lowercase aliasName, mountType⟩).bind registry.tree.mount?)

def Registry.groupNames (registry : Registry) : List String :=
  registry.tree.groups.toList.map (·.name)

end SiteRouting
