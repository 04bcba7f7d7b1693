import Mathlib
import SiteRouting.CommandLine
import SiteRouting.Proofs.Admin.ResolveQuery
import SiteRouting.Proofs.Lookup.Refusal
import SiteRouting.Proofs.Manager.Coherence

namespace SiteRouting

open Data Http

/-- What a lookup of a mount answers when nothing is remembered and
nothing has to be. -/
def Registry.lookUpMount (registry : Registry) (rawHost : String) (contextPath : Option String)
    (path : String) : Except MatchError (Option ResolvedMount) :=
  (registry.lookUp rawHost).map (·.bind (·.matchMount contextPath path))

theorem Registry.Sound.matchMount_answer {registry : Registry} (sound : registry.Sound)
    (rawHost : String) (contextPath : Option String) (path : String) :
    (registry.matchMount rawHost contextPath path).answer =
      registry.lookUpMount rawHost contextPath path := by
  rw [Registry.matchMount, Registry.lookUpMount, sound.matchHost_answer]

theorem Registry.status_of_lookUpMount_error {registry : Registry} {rawHost path : String}
    {contextPath : Option String} {cause : MatchError}
    (refused : registry.lookUpMount rawHost contextPath path = .error cause) : cause.status = 400 := by
  unfold Registry.lookUpMount at refused
  cases answer : registry.lookUp rawHost with
  | ok found =>
    rw [answer] at refused
    cases refused
  | error other =>
    rw [answer] at refused
    cases refused
    exact Registry.status_of_lookUp_error answer

/-- An answer of the admin service and the ending of a command tell what the
lookup of a mount answers. The service looks up in a registry that has been
in service for any time, the command in a registry of its own. -/
structure Resolution (looked : Except MatchError (Option ResolvedMount)) (rawHost : String)
    (status : Nat) (body : Option Value) (ending : Ending) : Prop where
  summary : ∀ mount, looked = .ok (some mount) →
    body = some (.table [("raw_host", .text rawHost), ("mount", mount.summary)]) ∧
      ending.output = textOfLines [Data.Json.pretty mount.summary]
  cause : ∀ cause, looked = .error cause →
    body = some (.table [("error", .text cause.message)]) ∧ ending = .failed cause.message
  found : (status = 200 ↔ ∃ mount, looked = .ok (some mount)) ∧
    (ending.exitCode = 0 ↔ ∃ mount, looked = .ok (some mount))
  missing : (status = 404 ↔ looked = .ok none) ∧ (ending.exitCode = 2 ↔ looked = .ok none)
  refused : (status = 400 ↔ ∃ cause, looked = .error cause) ∧
    (ending.exitCode = 1 ↔ ∃ cause, looked = .error cause)

/-- How the command ends once its lookup has answered: with the mount, with
the code for none, or with the reason of a refusal. -/
def Ending.ofLookUp (rawHost path : String) : Except MatchError (Option ResolvedMount) → Ending
  | .error cause => .failed cause.message
  | .ok none =>
    .exited notFoundCode "" (textOfLines [s!"no mount for host '{rawHost}' and path '{path}'"])
  | .ok (some mount) => .exited successCode (textOfLines [Data.Json.pretty mount.summary]) ""

namespace Admin

section Answer

variable {settings : AdminSettings} {manager : Manager} {source : Source} {request : Request}
  {query : ResolveQuery} {registry : Registry} {rawHost path : String} {contextPath : Option String}
  {now : Nat}

theorem resolvedAnswer_of_mount {host : Option ResolvedHost} {mount : ResolvedMount}
    (found : host.bind (·.matchMount contextPath path) = some mount) :
    resolvedAnswer rawHost path contextPath host =
      ⟨200, some (.table [("raw_host", .text rawHost), ("mount", mount.summary)])⟩ := by
  obtain ⟨resolved, rfl, matched⟩ := Option.bind_eq_some_iff.mp found
  simp only [resolvedAnswer, matched]

/-- It does not show in the status whether the host or the mount on it
is missing. -/
theorem resolvedAnswer_of_none {host : Option ResolvedHost}
    (missing : host.bind (·.matchMount contextPath path) = none) :
    (resolvedAnswer rawHost path contextPath host).status = 404 := by
  cases host with
  | none => rfl
  | some resolved =>
    have unmatched : resolved.matchMount contextPath path = none := missing
    simp only [resolvedAnswer, unmatched]
    rfl

/-- The service composes the lookup of the host and the match of the mount by
itself; what comes out tells the lookup of the mount. -/
theorem resolution_of_lookUp (registry : Registry) (rawHost path : String)
    (contextPath : Option String) :
    let answer := Answer.ofRead
      ((registry.lookUp rawHost).map (resolvedAnswer rawHost path contextPath))
    let looked := registry.lookUpMount rawHost contextPath path
    Resolution looked rawHost answer.status answer.body (Ending.ofLookUp rawHost path looked) := by
  cases answered : registry.lookUp rawHost with
  | error cause =>
    have refused : registry.lookUpMount rawHost contextPath path = .error cause := by
      rw [Registry.lookUpMount, answered, Except.map]
    have status := Registry.status_of_lookUpMount_error refused
    rw [refused]
    constructor <;>
      simp [Except.map, Answer.ofRead, Answer.refused, Answer.failed, status, Ending.ofLookUp,
        Ending.exitCode, failureCode]
  | ok host =>
    cases matched : host.bind (·.matchMount contextPath path) with
    | none =>
      have missing : registry.lookUpMount rawHost contextPath path = .ok none := by
        rw [Registry.lookUpMount, answered, Except.map, matched]
      have status : (resolvedAnswer rawHost path contextPath host).status = 404 :=
        resolvedAnswer_of_none matched
      rw [missing]
      constructor <;>
        simp [Except.map, Answer.ofRead, status, Ending.ofLookUp, Ending.exitCode, notFoundCode]
    | some mount =>
      have found : registry.lookUpMount rawHost contextPath path = .ok (some mount) := by
        rw [Registry.lookUpMount, answered, Except.map, matched]
      rw [found]
      constructor <;>
        simp [Except.map, Answer.ofRead, resolvedAnswer_of_mount matched, Ending.ofLookUp, Ending.exitCode,
          Ending.output, successCode]

theorem resolve_of_fresh (fresh : manager.stale = false) (inService : manager.current = some registry)
    (read : ResolveQuery.ofPairs? {} (Text.formPairs request.query) = some query)
    (addressed : (query.host <|> request.farthestHost?) = some rawHost) :
    (resolve manager source request).answer =
      .ofRead ((registry.matchHost rawHost).answer.map
        (resolvedAnswer rawHost (query.path.getD "/") query.contextPath)) := by
  simp only [resolve, read, addressed, Manager.matchHost, Manager.lookUp,
    Manager.registry_eq_of_fresh fresh, inService, Option.map, Option.getD]

/-- What the registry remembers, and when it was built, does not show. -/
theorem resolve_of_build {config : Configuration} {policy : BuildPolicy} {generation : Nat}
    {fresh : Registry} (built : config.build policy generation = .ok fresh)
    (unstale : manager.stale = false) (inService : manager.current = some registry)
    (build : registry.IsBuildOf config policy) (sound : registry.Sound)
    (read : ResolveQuery.ofPairs? {} (Text.formPairs request.query) = some query)
    (addressed : (query.host <|> request.farthestHost?) = some rawHost) :
    (resolve manager source request).answer =
      .ofRead ((fresh.lookUp rawHost).map
        (resolvedAnswer rawHost (query.path.getD "/") query.contextPath)) := by
  rw [resolve_of_fresh unstale inService read addressed, sound.matchHost_answer, build.lookUp_eq built]

theorem resolve_of_unaddressed
    (read : ResolveQuery.ofPairs? {} (Text.formPairs request.query) = some query)
    (unaddressed : (query.host <|> request.farthestHost?) = none) :
    (resolve manager source request).answer = .refused .emptyHost := by
  simp only [resolve, read, unaddressed]

end Answer

end Admin

theorem Configuration.isValid_of_parse {document : String} {config : Configuration}
    (accepted : Configuration.parse document = .ok config) : config.isValid := by
  unfold Configuration.parse at accepted
  split at accepted
  · cases accepted
  split at accepted
  · cases accepted
  unfold Configuration.validated at accepted
  split at accepted
  · rename_i valid
    cases accepted
    exact valid
  · cases accepted

theorem Configuration.resolve_eq {config : Configuration} {policy : BuildPolicy} {generation : Nat}
    {fresh : Registry} (valid : config.isValid) (built : config.build policy generation = .ok fresh)
    (rawHost path : String) (contextPath : Option String) :
    config.resolve policy rawHost contextPath path =
      Ending.ofLookUp rawHost path (fresh.lookUpMount rawHost contextPath path) := by
  have numbered := Configuration.build_renumbered built 1
  have sound := Configuration.build_sound valid numbered
  have looked : (Registry.matchMount { fresh with generation := 1 } rawHost contextPath path).answer =
      fresh.lookUpMount rawHost contextPath path := sound.matchMount_answer rawHost contextPath path
  rw [Configuration.resolve, numbered]
  dsimp only
  rw [looked]
  rcases fresh.lookUpMount rawHost contextPath path with cause | (_ | mount) <;> rfl

/-- The ways to resolve agree. After any history of operations and requests,
as long as a manager is not stale and serves the registry of a document, its
admin service answers what a new registry of the document answers, and so does
the command on the document: the same mount, no mount, or a refusal. A request
that names no host is answered like one that names the host that the client
addressed. Whoever is admitted can ask for any host, context path and path. -/
theorem Admin.serve_resolves {settings : AdminSettings} {policy : BuildPolicy} {document : String}
    {config : Configuration} {generation : Nat} {fresh : Registry}
    (accepted : Configuration.parse document = .ok config)
    (built : config.build policy generation = .ok fresh)
    {source : Source} {history : List Incident} {reached : Deployment}
    (reaches : (⟨Manager.new policy, source⟩ : Deployment).after settings history = reached)
    (unstale : reached.manager.stale = false) {registry : Registry}
    (inService : reached.manager.current = some registry) (build : registry.IsBuildOf config policy)
    {request : Request} {query : ResolveQuery} (asks : Asks settings request query) (now : Nat) :
    let respond request := (serve settings reached.manager reached.source now request).answer
    let path := query.path.getD "/"
    (∀ rawHost, query.host = some rawHost ∨ query.host = none ∧ request.farthestHost? = some rawHost →
      Resolution (fresh.matchMount rawHost query.contextPath path).answer rawHost
        (respond request).status (respond request).body
        ((Query.resolve rawHost query.contextPath path).run policy (Configuration.load (some document)))) ∧
    (query.host = none → ∀ rawHost, request.farthestHost? = some rawHost →
      ∀ naming, Asks settings naming { query with host := some rawHost } →
        (respond request).status = (respond naming).status ∧
        (respond request).body = (respond naming).body) ∧
    (query.host = none → request.farthestHost? = none → (respond request).status = 400) ∧
    ∀ any : ResolveQuery, ∃ asking, asking.headers = request.headers ∧ Asks settings asking any := by
  intro respond path
  have valid := Configuration.isValid_of_parse accepted
  have coherent : reached.manager.IsCoherent := by
    rw [← reaches, Deployment.after_eq_run]
    exact (Manager.isCoherent_new policy).run _
  have sound := coherent.sound valid inService build
  refine ⟨?_, ?_, ?_, fun any => ⟨{ request with target := any.target }, rfl, asks.retarget any⟩⟩
  · intro rawHost isHost
    have addressed := (Option.orElse_eq_some _ _ _).mpr isHost
    have answer : (resolve reached.manager reached.source request).answer = _ :=
      resolve_of_build built unstale inService build sound asks.query addressed
    have command : (Query.resolve rawHost query.contextPath path).run policy
        (Configuration.load (some document)) =
          Ending.ofLookUp rawHost path (fresh.lookUpMount rawHost query.contextPath path) := by
      simp only [Query.run, Configuration.load, accepted]
      exact Configuration.resolve_eq valid built rawHost path query.contextPath
    rw [command, (Configuration.build_sound valid built).matchMount_answer]
    simp only [respond, serve_of_asks asks, answer]
    exact resolution_of_lookUp fresh rawHost path query.contextPath
  · intro unnamed rawHost sent naming asksNaming
    have addressed := (Option.orElse_eq_some _ _ _).mpr (Or.inr ⟨unnamed, sent⟩)
    have named : (({ query with host := some rawHost } : ResolveQuery).host <|> naming.farthestHost?) =
        some rawHost := rfl
    simp only [respond, serve_of_asks asks, serve_of_asks asksNaming, and_self,
      resolve_of_build built unstale inService build sound asks.query addressed,
      resolve_of_build built unstale inService build sound asksNaming.query named]
  · intro unnamed unsent
    have unaddressed := (Option.orElse_eq_none _ _).mpr ⟨unnamed, unsent⟩
    simp only [respond, serve_of_asks asks, resolve_of_unaddressed asks.query unaddressed]
    rfl

def homeDocument : String :=
  "[[host_groups]]\nname = \"dev\"\n\n[[host_groups.hosts]]\nname = \"localhost\"\n\n" ++
    "[host_groups.hosts.root]\nidentifier = \"home\"\n"

def keyedRequest (target : String) : Request where
  method := "GET"
  target := target
  headers := [("Authorization", "Bearer secret"), ("X-Forwarded-Host", "localhost:8080, proxy")]

/-- A request for the status makes a new manager build, and a lookup
leaves something in memory. -/
def readThenLookUp : List Incident :=
  [.request 0 (keyedRequest "/admin/status"), .operation (.matchHost "localhost")]

theorem readThenLookUp_serves {config : Configuration} {fresh : Registry}
    (built : config.build .lenient 1 = .ok fresh) :
    let start : Deployment := ⟨Manager.new .lenient, .ok config⟩
    let reached := start.after { apiKey := "secret" } readThenLookUp
    reached.manager.stale = false ∧
      ∃ registry, reached.manager.current = some registry ∧ registry.IsBuildOf config .lenient := by
  intro start reached
  have commanded : Admin.routed? (keyedRequest "/admin/status") = some .status := by decide +kernel
  have admitted : Admin.isAdmitted { apiKey := "secret" } (keyedRequest "/admin/status") = true := by
    decide +kernel
  have operation : Admin.operation? { apiKey := "secret" } 0 (keyedRequest "/admin/status") =
      some .registry := by
    rw [Admin.operation?, if_pos admitted, commanded]
    rfl
  have run : reached = (start.next .registry).next (.matchHost "localhost") := by
    simp only [reached, Deployment.after_eq_run, readThenLookUp, List.flatMap_cons, List.flatMap_nil,
      Incident.operations, operation]
    rfl
  have read : (start.next .registry).manager =
      { Manager.new .lenient with current := some fresh, stale := false, generation := 1 } := by
    simp only [Deployment.next, Deployment.operate, Manager.registry, Manager.rebuild, Manager.loaded,
      Manager.new, start, built]
    rfl
  have looked : reached.manager =
      { (start.next .registry).manager with
        current := some (fresh.matchHost "localhost").registry } := by
    rw [run]
    change ((start.next .registry).manager.matchHost _ "localhost").manager = _
    rw [Manager.matchHost, Manager.lookUp_manager, read]
    rfl
  have forgotten : (fresh.matchHost "localhost").registry.forgotten = fresh := by
    rw [Registry.matchHost_forgotten, Registry.forgotten, ← Configuration.build_cache built]
  have number : (fresh.matchHost "localhost").registry.generation = 1 := by
    rw [← Configuration.build_generation built, ← congrArg (·.generation) forgotten]
    rfl
  rw [looked, read]
  refine ⟨rfl, _, rfl, ?_⟩
  rw [Registry.IsBuildOf, number, forgotten]
  exact built

/-- A request that names no host, for the one that was served before. -/
theorem homeDocument_resolves :
    ∃ config reached registry, ∃ mount : ResolvedMount,
      Configuration.parse homeDocument = .ok config ∧
      (⟨Manager.new .lenient, .ok config⟩ : Deployment).after { apiKey := "secret" } readThenLookUp =
        reached ∧
      reached.manager.stale = false ∧ reached.manager.current = some registry ∧
      registry.IsBuildOf config .lenient ∧
      ((Query.resolve "localhost:8080" none "/news").run .lenient
        (Configuration.load (some homeDocument))).output =
          textOfLines [Data.Json.pretty mount.summary] ∧
      let served := Admin.serve { apiKey := "secret" } reached.manager reached.source 0
        (keyedRequest "/admin/resolve?path=%2Fnews")
      served.answer.status = 200 ∧
        served.answer.body =
          some (.table [("raw_host", .text "localhost:8080"), ("mount", mount.summary)]) := by
  have parsed : (Configuration.parse homeDocument).toOption.bind (fun config =>
      (config.build .lenient 1).toOption.map fun fresh =>
        (fresh.matchMount "localhost:8080" none "/news").answer.toOption.bind fun mount =>
          mount.map (·.mount.identifier)) = some (some "home") := by decide +kernel
  have asks : Admin.Asks { apiKey := "secret" } (keyedRequest "/admin/resolve?path=%2Fnews")
      { path := some "/news" } := by
    constructor <;> decide +kernel
  have sent : (keyedRequest "/admin/resolve?path=%2Fnews").farthestHost? = some "localhost:8080" := by
    decide +kernel
  cases accepted : Configuration.parse homeDocument with
  | error cause =>
    rw [accepted] at parsed
    cases parsed
  | ok config =>
    rw [accepted] at parsed
    obtain ⟨fresh, built, viewed⟩ := Configuration.build_of_view parsed
    obtain ⟨unstale, registry, inService, build⟩ := readThenLookUp_serves built
    obtain ⟨found, matched, home⟩ := Option.bind_eq_some_iff.mp viewed
    obtain ⟨mount, rfl, _⟩ := Option.map_eq_some_iff.mp home
    have looked : (fresh.matchMount "localhost:8080" none "/news").answer = .ok (some mount) := by
      cases answer : (fresh.matchMount "localhost:8080" none "/news").answer with
      | error cause =>
        rw [answer] at matched
        cases matched
      | ok found =>
        rw [answer] at matched
        cases matched
        rfl
    obtain ⟨resolution, _⟩ :=
      Admin.serve_resolves accepted built rfl unstale inService build asks 0
    have told := resolution "localhost:8080" (Or.inr ⟨rfl, sent⟩)
    obtain ⟨body, output⟩ := told.summary mount looked
    exact ⟨config, _, registry, mount, rfl, rfl, unstale, inService, build, output,
      told.found.1.mpr ⟨mount, looked⟩, body⟩

end SiteRouting
