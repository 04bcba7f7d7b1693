import Mathlib
import SiteRouting.Proofs.Admin.History
import SiteRouting.Proofs.Manager.Metering

namespace SiteRouting

open Http

/-- A way to use a manager: it is operated, the admin service in front of it
is asked, or a caller looks up in a registry that was handed out, in the one
that is in service or in a former one. -/
inductive Use where
  | incident (incident : Incident)
  /-- A lookup in the registry in service, by a caller that has it from before. -/
  | held (rawHost : String)
  /-- A lookup in a registry that is not in service any more. -/
  | former (registry : Registry) (rawHost : String)

/-- Whether the lookups of a use are made in the registry in service. Only
those in a former registry are not. -/
def Use.IsInService : Use → Prop
  | .former _ _ => False
  | _ => True

def Deployment.use (deployment : Deployment) (settings : AdminSettings) : Use → Deployment
  | .incident incident => deployment.meet settings incident
  | .held rawHost =>
    let current := deployment.manager.current.map fun registry => (registry.matchHost rawHost).registry
    { deployment with manager := { deployment.manager with current } }
  | .former _ _ => deployment

def Deployment.used (deployment : Deployment) (settings : AdminSettings) (uses : List Use) :
    Deployment :=
  uses.foldl (fun reached use => reached.use settings use) deployment

def Deployment.report (deployment : Deployment) (settings : AdminSettings) : Use → List Event
  | .incident (.operation operation) => deployment.events operation
  | .incident (.request now request) =>
    (Admin.serve settings deployment.manager deployment.source now request).events
  | .held rawHost =>
    deployment.manager.current.elim [] fun registry => (registry.matchHost rawHost).events
  | .former registry rawHost => (registry.matchHost rawHost).events

def Incident.operation? (settings : AdminSettings) : Incident → Option Operation
  | .operation performed => some performed
  | .request now asked => Admin.operation? settings now asked

def Use.operation? (settings : AdminSettings) : Use → Option Operation
  | .incident met => met.operation? settings
  | .held _ | .former _ _ => none

/-- The raw host that a use looks up in the registry in service, if any. -/
def Use.rawHost? (settings : AdminSettings) : Use → Option String
  | .incident met => (met.operation? settings).bind (·.rawHost?)
  | .held rawHost => some rawHost
  | .former _ _ => none

def Deployment.usePass? (deployment : Deployment) (settings : AdminSettings) (use : Use) :
    Option Configuration :=
  (use.operation? settings).bind deployment.pass?

/-- The lookup that a use makes, with the registry that it is made in as
it is found at that time. -/
def Deployment.useLookup? (deployment : Deployment) (settings : AdminSettings) :
    Use → Option (Registry × String)
  | .former registry rawHost => some (registry, rawHost)
  | use => deployment.manager.lookup? (deployment.usePass? settings use) (use.rawHost? settings)

section Request

variable {deployment : Deployment} {request : Request} {now : Nat}

namespace Admin

theorem resolve_events :
    (resolve deployment.manager deployment.source request).events =
      (Command.resolve.operation? request now).elim [] deployment.events := by
  unfold resolve
  cases read : ResolveQuery.ofPairs? {} (Text.formPairs request.query) with
  | none => simp [Command.operation?, read]
  | some query =>
    cases addressed : query.host <|> request.farthestHost? with
    | none => simp only [Command.operation?, read, addressed, bind, Option.bind, Option.elim]
    | some rawHost =>
      simp only [Command.operation?, read, addressed, bind, Option.bind, pure, Option.elim]
      rfl

theorem lock_events (identifier : String) :
    (lock deployment.manager deployment.source now identifier request).events =
      ((Command.lock identifier).operation? request now).elim [] deployment.events := by
  unfold lock
  cases read : lockUser request with
  | error status => simp [Command.operation?, read, Except.toOption]
  | ok user => simp [Command.operation?, read, Except.toOption, Deployment.events]

theorem unlock_events (identifier : String) :
    (unlock deployment.manager deployment.source identifier request).events =
      ((Command.unlock identifier).operation? request now).elim [] deployment.events := by
  unfold unlock
  cases read : lockUser request with
  | error status => simp [Command.operation?, read, Except.toOption]
  | ok user => simp [Command.operation?, read, Except.toOption, Deployment.events]

theorem run_events (command : Command) :
    (run deployment.manager deployment.source now request command).events =
      (command.operation? request now).elim [] deployment.events := by
  unfold run
  cases command with
  | resolve => exact resolve_events
  | lock identifier => exact lock_events identifier
  | unlock identifier => exact unlock_events identifier
  | status | issues | mount | aliased | invalidate => rfl

/-- Events that count requests to the admin service, and nothing else; they
leave what is told of builds and lookups alone. -/
def CountsRequests (events : List Event) : Prop :=
  ∀ event ∈ events, ∃ endpoint status, event = .adminRequest endpoint status

theorem routed_events :
    ∃ requests, CountsRequests requests ∧
      (routed deployment.manager deployment.source now request).events =
        ((routed? request).bind (·.operation? request now)).elim [] deployment.events ++ requests := by
  unfold routed routed?
  cases Route.ofPath? request.path with
  | none => exact ⟨[], by simp [CountsRequests], rfl⟩
  | some route =>
    cases allowed : (Method.ofName? request.method).filter route.allows with
    | none => exact ⟨[], by simp [CountsRequests], by simp [allowed]⟩
    | some method =>
      cases commanded : route.command? method with
      | none =>
        exact ⟨[.adminRequest route.pattern 400], by simp [CountsRequests], by simp [allowed, commanded]⟩
      | some command =>
        let status := (run deployment.manager deployment.source now request command).answer.status
        refine ⟨[.adminRequest route.pattern status], by simp [CountsRequests], ?_⟩
        simp [allowed, commanded, run_events, status]

/-- A request reports what the operation of its command reports, and
that it was made. -/
theorem serve_events (deployment : Deployment) (settings : AdminSettings) (now : Nat)
    (request : Request) : ∃ requests, CountsRequests requests ∧
      (serve settings deployment.manager deployment.source now request).events =
        (operation? settings now request).elim [] deployment.events ++ requests := by
  unfold serve operation?
  by_cases admitted : isAdmitted settings request
  · simp only [admitted, if_true]
    exact routed_events
  · exact ⟨[], by simp [CountsRequests], by simp [admitted]⟩

end Admin

end Request

/-- Whatever is done with a manager, at most one build and one lookup
change what is in service. -/
theorem Deployment.use_operated (deployment : Deployment) (settings : AdminSettings) (use : Use) :
    deployment.manager.Operated (deployment.use settings use).manager
      (deployment.usePass? settings use) (·.touched (use.rawHost? settings)) := by
  cases use with
  | held rawHost => exact ⟨rfl, rfl, rfl⟩
  | former registry rawHost => exact Manager.Operated.idle rfl rfl rfl
  | incident incident =>
    have meets : deployment.meet settings incident =
        deployment.run (incident.operation? settings).toList := by
      rw [deployment.meet_eq_run settings incident]
      cases incident <;> rfl
    rw [Deployment.use, meets, Deployment.usePass?, Use.operation?, Use.rawHost?]
    cases incident.operation? settings with
    | none => exact Manager.Operated.idle rfl rfl rfl
    | some operation =>
      have operated := deployment.operated operation
      rw [show operation.touch = (·.touched operation.rawHost?) from funext operation.touch_eq] at operated
      exact operated

/-- A use reports its build, its lookup, and requests to the admin service.
Nothing else is reported by any use. -/
theorem Deployment.report_eq (deployment : Deployment) (settings : AdminSettings) (use : Use) :
    ∃ requests, Admin.CountsRequests requests ∧ deployment.report settings use =
      reportOf (deployment.manager.verdict? (deployment.usePass? settings use))
        (deployment.useLookup? settings use) ++ requests := by
  have unasked : Admin.CountsRequests [] := by simp [Admin.CountsRequests]
  cases use with
  | former registry rawHost => exact ⟨[], unasked, (List.append_nil _).symm⟩
  | held rawHost =>
    refine ⟨[], unasked, ?_⟩
    have looked : deployment.useLookup? settings (.held rawHost) =
        deployment.manager.current.map (·, rawHost) :=
      (Option.map_eq_bind ..).symm
    rw [List.append_nil, looked, Deployment.report]
    cases deployment.manager.current <;> rfl
  | incident incident =>
    cases incident with
    | operation operation =>
      refine ⟨[], unasked, ?_⟩
      rw [List.append_nil]
      exact deployment.events_eq operation
    | request now request =>
      obtain ⟨requests, counts, events⟩ := Admin.serve_events deployment settings now request
      refine ⟨requests, counts, ?_⟩
      have looked : deployment.useLookup? settings (.incident (.request now request)) =
          deployment.manager.lookup? ((Admin.operation? settings now request).bind deployment.pass?)
            ((Admin.operation? settings now request).bind (·.rawHost?)) := rfl
      rw [Deployment.report, events, looked, Deployment.usePass?, Use.operation?, Incident.operation?]
      congr 1
      cases Admin.operation? settings now request with
      | some operation => exact deployment.events_eq operation
      | none => simp [Manager.verdict?]

section Step

variable (deployment : Deployment) (settings : AdminSettings) (use : Use)

theorem Admin.CountsRequests.unlisted {α : Type} {requests : List Event}
    (counts : Admin.CountsRequests requests) {reads : Event → Option α}
    (skips : ∀ endpoint status, reads (.adminRequest endpoint status) = none) :
    requests.filterMap reads = [] := by
  refine List.filterMap_eq_nil_iff.mpr ?_
  intro event member
  obtain ⟨endpoint, status, rfl⟩ := counts event member
  exact skips endpoint status

theorem Deployment.report_resolutions :
    resolutions (deployment.report settings use) =
      (deployment.useLookup? settings use).toList.map fun (registry, rawHost) =>
        registry.outcome rawHost := by
  obtain ⟨requests, counts, events⟩ := deployment.report_eq settings use
  have uncounted : resolutions requests = [] := counts.unlisted fun _ _ => rfl
  rw [events, resolutions_append, uncounted, List.append_nil, reportOf_resolutions]

theorem Deployment.report_builds :
    builds (deployment.report settings use) =
      (deployment.manager.verdict? (deployment.usePass? settings use)).toList.map (·.isOk) := by
  obtain ⟨requests, counts, events⟩ := deployment.report_eq settings use
  have unbuilt : builds requests = [] := counts.unlisted fun _ _ => rfl
  rw [events, builds_append, unbuilt, List.append_nil, reportOf_builds]

/-- After a use in service the last reported number of cached hosts is
right, if it was before. -/
theorem Deployment.use_isGauged {reported : Option Nat} (inService : use.IsInService)
    (gauged : deployment.manager.IsGauged reported) :
    (deployment.use settings use).manager.IsGauged
      ((cachedHosts? (deployment.report settings use)).or reported) := by
  obtain ⟨requests, counts, events⟩ := deployment.report_eq settings use
  have unsized : cachedHosts? requests = none := by
    rw [cachedHosts?, counts.unlisted fun _ _ => rfl]
    rfl
  rw [events, cachedHosts?_append, unsized, Option.none_or]
  have operated := deployment.use_operated settings use
  cases use with
  | incident incident => exact gauged.operated operated
  | held rawHost => exact gauged.operated operated
  | former registry rawHost => cases inService

end Step

def Deployment.collected {α : Type} (settings : AdminSettings)
    (collect : Deployment → Use → List α) (deployment : Deployment) : List Use → List α
  | [] => []
  | use :: rest => collect deployment use ++ (deployment.use settings use).collected settings collect rest

def Deployment.reports (deployment : Deployment) (settings : AdminSettings) : List Use → List Event :=
  deployment.collected settings (·.report settings)

def Deployment.lookups (deployment : Deployment) (settings : AdminSettings) :
    List Use → List (Registry × String) :=
  deployment.collected settings fun reached use => (reached.useLookup? settings use).toList

def Deployment.usePasses (deployment : Deployment) (settings : AdminSettings) :
    List Use → List Configuration :=
  deployment.collected settings fun reached use => (reached.usePass? settings use).toList

/-- The registries that are put in service during a run, in order, each as it
was when it took the place of the one before. -/
def Deployment.published (deployment : Deployment) (settings : AdminSettings) :
    List Use → List Registry :=
  deployment.collected settings fun reached use =>
    (reached.manager.published? (reached.use settings use).manager).toList

def Deployment.verdicts (deployment : Deployment) (settings : AdminSettings) :
    List Use → List (Except (List Issue) Registry) :=
  deployment.collected settings fun reached use =>
    (reached.manager.verdict? (reached.usePass? settings use)).toList

section Run

variable {deployment : Deployment} (settings : AdminSettings) {policy : BuildPolicy}
  {passes : List Configuration} {reported : Option Nat}

theorem Deployment.usePasses_cons (use : Use) (rest : List Use) :
    deployment.usePasses settings (use :: rest) =
      (deployment.usePass? settings use).toList ++ (deployment.use settings use).usePasses settings rest :=
  rfl

theorem Deployment.verdicts_cons (use : Use) (rest : List Use) :
    deployment.verdicts settings (use :: rest) =
      (deployment.manager.verdict? (deployment.usePass? settings use)).toList ++
        (deployment.use settings use).verdicts settings rest :=
  rfl

theorem Deployment.published_cons (use : Use) (rest : List Use) :
    deployment.published settings (use :: rest) =
      (deployment.manager.published? (deployment.use settings use).manager).toList ++
        (deployment.use settings use).published settings rest :=
  rfl

theorem Deployment.collected_append {α : Type} (collect : Deployment → Use → List α)
    (front back : List Use) :
    deployment.collected settings collect (front ++ back) =
      deployment.collected settings collect front ++
        (deployment.used settings front).collected settings collect back := by
  induction front generalizing deployment with
  | nil => rfl
  | cons use rest ih =>
    rw [List.cons_append, Deployment.collected, ih, Deployment.collected, List.append_assoc]
    rfl

theorem Deployment.collected_filterMap {α β : Type} (collect : Deployment → Use → List α)
    (reads : α → Option β) (uses : List Use) :
    (deployment.collected settings collect uses).filterMap reads =
      deployment.collected settings (fun reached use => (collect reached use).filterMap reads) uses := by
  induction uses generalizing deployment with
  | nil => rfl
  | cons use rest ih => rw [Deployment.collected, List.filterMap_append, ih, Deployment.collected]

theorem Deployment.collected_map {α β : Type} (collect : Deployment → Use → List α)
    (image : α → β) (uses : List Use) :
    (deployment.collected settings collect uses).map image =
      deployment.collected settings (fun reached use => (collect reached use).map image) uses := by
  simp only [← List.filterMap_eq_map, Deployment.collected_filterMap]

theorem Manager.Publishes.use (publishes : deployment.manager.Publishes policy passes) (use : Use) :
    (deployment.use settings use).manager.Publishes policy
      (passes ++ (deployment.usePass? settings use).toList) :=
  publishes.operated (deployment.use_operated settings use) fun registry =>
    registry.touched_forgotten _

theorem Manager.Publishes.used (publishes : deployment.manager.Publishes policy passes)
    (uses : List Use) :
    (deployment.used settings uses).manager.Publishes policy
      (passes ++ deployment.usePasses settings uses) := by
  induction uses generalizing deployment passes with
  | nil => exact (List.append_nil passes).symm ▸ publishes
  | cons use rest ih =>
    have later := ih (publishes.use settings use)
    rwa [List.append_assoc, ← Deployment.usePasses_cons] at later

/-- The builds of a run are numbered on from the builds before. -/
theorem Manager.Publishes.verdicts_eq (publishes : deployment.manager.Publishes policy passes)
    (uses : List Use) :
    deployment.verdicts settings uses =
      (deployment.usePasses settings uses).mapIdx fun i config =>
        config.build policy (passes.length + i + 1) := by
  induction uses generalizing deployment passes with
  | nil => rfl
  | cons use rest ih =>
    have later := ih (publishes.use settings use)
    rw [Deployment.verdicts_cons, Deployment.usePasses_cons, later, List.mapIdx_append, Manager.verdict?,
      publishes.policy, publishes.generation]
    cases deployment.usePass? settings use with
    | none => simp
    | some config => simp [Nat.add_comm, Nat.add_left_comm]

/-- The registries that are put in service are the accepted builds, in order. -/
theorem Manager.Publishes.published_eq (publishes : deployment.manager.Publishes policy passes)
    (uses : List Use) :
    deployment.published settings uses =
      (deployment.verdicts settings uses).filterMap (·.toOption) := by
  induction uses generalizing deployment passes with
  | nil => rfl
  | cons use rest ih =>
    have operated := deployment.use_operated settings use
    have first := operated.published?_eq fun registry => publishes.generation_le
    rw [Deployment.published_cons, Deployment.verdicts_cons, first, ih (publishes.use settings use),
      List.filterMap_append]
    cases deployment.manager.verdict? (deployment.usePass? settings use) with
    | none => rfl
    | some verdict => cases verdict <;> rfl

theorem Deployment.reports_resolutions (uses : List Use) :
    resolutions (deployment.reports settings uses) =
      (deployment.lookups settings uses).map fun (registry, rawHost) => registry.outcome rawHost := by
  rw [resolutions, Deployment.reports, Deployment.collected_filterMap, Deployment.lookups,
    Deployment.collected_map]
  congr 1
  funext reached use
  exact reached.report_resolutions settings use

theorem Deployment.reports_builds (uses : List Use) :
    builds (deployment.reports settings uses) = (deployment.verdicts settings uses).map (·.isOk) := by
  rw [builds, Deployment.reports, Deployment.collected_filterMap, Deployment.verdicts,
    Deployment.collected_map]
  congr 1
  funext reached use
  exact reached.report_builds settings use

theorem Manager.IsGauged.used (gauged : deployment.manager.IsGauged reported) {uses : List Use}
    (inService : ∀ use ∈ uses, use.IsInService) :
    (deployment.used settings uses).manager.IsGauged
      ((cachedHosts? (deployment.reports settings uses)).or reported) := by
  induction uses generalizing deployment reported with
  | nil => exact gauged
  | cons use rest ih =>
    have first := deployment.use_isGauged settings use (inService use (by simp)) gauged
    have later := ih first fun next member => inService next (by simp [member])
    rw [← Option.or_assoc, ← cachedHosts?_append] at later
    exact later

end Run

/-- What is reported over any run from a new manager: every lookup in any registry
counts once, with its own outcome; every build counts once, and the accepted ones
are the registries put in service; and as long as the lookups are made in the
registry in service, the last reported number of cached hosts is right. It stays
so after any moment at which it is right, whatever there was before. -/
theorem Manager.used_metered (policy : BuildPolicy) (source : Source) (settings : AdminSettings)
    (uses : List Use) :
    let start : Deployment := ⟨Manager.new policy, source⟩
    let reached := start.used settings uses
    let reports := start.reports settings uses
    let verdicts := (start.usePasses settings uses).mapIdx fun i config => config.build policy (i + 1)
    (∀ (registry : Registry) rawHost contextPath path,
      resolutions (registry.matchHost rawHost).events = [registry.outcome rawHost] ∧
        resolutions (registry.matchMount rawHost contextPath path).events =
          [registry.outcome rawHost]) ∧
      resolutions reports = (start.lookups settings uses).map (fun (registry, rawHost) =>
        registry.outcome rawHost) ∧
      builds reports = verdicts.map (·.isOk) ∧
      reached.manager.generation = (builds reports).length ∧
      start.published settings uses = verdicts.filterMap (·.toOption) ∧
      ((∀ use ∈ uses, use.IsInService) → reached.manager.IsGauged (cachedHosts? reports)) ∧
      ∀ front back, uses = front ++ back → (∀ use ∈ back, use.IsInService) →
        (start.used settings front).manager.IsGauged (cachedHosts? (start.reports settings front)) →
        reached.manager.IsGauged (cachedHosts? reports) := by
  intro start reached reports verdicts
  have initial : start.manager.Publishes policy [] := Manager.Publishes.new policy
  have numbered : start.verdicts settings uses = verdicts := by
    have numbered := initial.verdicts_eq settings uses
    simpa using numbered
  have counted : builds reports = verdicts.map (·.isOk) :=
    numbered ▸ Deployment.reports_builds settings uses
  have resumed : ∀ front back, uses = front ++ back → (∀ use ∈ back, use.IsInService) →
      (start.used settings front).manager.IsGauged (cachedHosts? (start.reports settings front)) →
      reached.manager.IsGauged (cachedHosts? reports) := by
    intro front back split inService gauged
    subst split
    have onward : reached = (start.used settings front).used settings back := List.foldl_append
    have joined : reports =
        start.reports settings front ++ (start.used settings front).reports settings back :=
      Deployment.collected_append settings _ front back
    rw [joined, cachedHosts?_append, onward]
    exact gauged.used settings inService
  refine ⟨?_, Deployment.reports_resolutions settings uses, counted, ?_, ?_, ?_, resumed⟩
  · intro registry rawHost contextPath path
    have once := registry.matchHost_resolutions rawHost
    exact ⟨once, once⟩
  · rw [counted, (initial.used settings uses).generation]
    simp [verdicts]
  · rw [← numbered]
    exact initial.published_eq settings uses
  · intro inService
    -- A new manager has no registry in service that a report could be wrong about.
    exact resumed [] uses rfl inService fun _ served => nomatch served

/-- A host that is the default of all others, with room to remember
two answers. -/
def meteredSite : Configuration where
  hosts := { defaultHostName := some "localhost", maxCachedHosts := 2 }
  hostGroups := [{ name := "dev", hosts := [.node { name := "localhost" } (some (.node {} [])) [] []] }]

/-- The lookup of the default host fills the memory and counts with
the lookup that needs it. -/
example :
    let start : Deployment := ⟨Manager.new .lenient, .ok meteredSite⟩
    let uses : List Use := [.incident (.operation (.matchHost "www.example.com")), .held "localhost",
      .held "a:port", .incident (.operation (.replace {})), .held "localhost"]
    resolutions (start.reports {} uses) = [.resolved, .cacheHit, .error, .notFound] ∧
      builds (start.reports {} uses) = [true, true] ∧ cachedHosts? (start.reports {} uses) = some 1 := by
  decide +kernel

end SiteRouting
