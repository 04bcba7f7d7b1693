import Mathlib
import SiteRouting.Proofs.Lookup.Transparency

namespace SiteRouting

theorem RequestHost.named_eq_error_iff {name : String} {port : Port} {cause : MatchError} :
    RequestHost.named name port = .error cause ↔ normalizeHostName name = "" ∧ cause = .emptyHost := by
  simp only [RequestHost.named, String.isEmpty_iff]
  split
  · rename_i empty
    simp [empty, eq_comm]
  · rename_i kept
    simp [kept]

/-- What is left of the default host of a valid configuration when it
is normalized a second time, to be looked up: nothing, if and only if
it is configured as two dots. -/
theorem Configuration.normalize_default_eq_empty_iff {config : Configuration} {name : String}
    (valid : config.isValid)
    (default : (RegistrySettings.ofDefaults config.hosts).defaultHostName = some name) :
    normalizeHostName name = "" ↔ config.hosts.defaultHostName = some ".." := by
  simp only [RegistrySettings.ofDefaults, Option.filter_eq_some_iff, Option.map_eq_some_iff] at default
  obtain ⟨⟨value, configured, rfl⟩, kept⟩ := default
  have host := isHostText_of_isHostName (config.isHostName_default valid configured)
  have nonempty : normalizeHostName value ≠ "" := by simpa using kept
  rw [host.normalizeHostName.normalizeHostName_eq_empty_iff, configured, Option.some.injEq,
    ← host.normalizeHostName_eq_dot_iff]
  exact or_iff_left nonempty

theorem Registry.fallback?_eq_none_iff {registry : Registry} {request : RequestHost} :
    registry.fallback? request = none ↔
      ∀ name, registry.settings.defaultHostName = some name → name = request.name := by
  unfold Registry.fallback?
  cases configured : registry.settings.defaultHostName with
  | none => simp
  | some name =>
    by_cases same : name = request.name
    · simp [same]
    · simp [same]

/-- Without a memory a request that can be read is refused exactly if it
falls back to a default host of which nothing is left. Its own host
value is never the reason. -/
theorem Registry.lookUp_eq_error_iff {registry : Registry} {rawHost : String} {request : RequestHost}
    {cause : MatchError} (host : registry.DefaultIsHostText)
    (parsed : RequestHost.parse rawHost = .ok request) :
    registry.lookUp rawHost = .error cause ↔
      cause = .emptyHost ∧ registry.tree.matchHost request.name request.port = none ∧
        ∃ name, registry.settings.defaultHostName = some name ∧ name ≠ request.name ∧
          normalizeHostName name = "" := by
  cases found : registry.tree.matchHost request.name request.port with
  | some resolved => simp [Registry.lookUp_of_found parsed found]
  | none =>
    cases default : registry.fallback? request with
    | none =>
      have last := Registry.fallback?_eq_none_iff.mp default
      rw [Registry.lookUp_of_missing parsed found default]
      refine iff_of_false (by simp) ?_
      rintro ⟨_, _, name, configured, other, _⟩
      exact other (last name configured)
    | some fallback =>
      obtain ⟨name, configured, other, again⟩ :=
        registry.parse_fallback host (RequestHost.parse_port_le parsed) default
      rw [Registry.lookUp_of_fallback parsed found default, Registry.lookUpOwn, again]
      constructor
      · intro refused
        have named : RequestHost.named name request.port = .error cause := by
          cases outcome : RequestHost.named name request.port with
          | error other => rw [outcome] at refused; exact congrArg _ (Except.error.inj refused)
          | ok own => rw [outcome] at refused; cases refused
        obtain ⟨nothing, rfl⟩ := RequestHost.named_eq_error_iff.mp named
        exact ⟨rfl, rfl, name, configured, other, nothing⟩
      · rintro ⟨rfl, _, configuredName, configuredAgain, _, nothing⟩
        have same : configuredName = name := Option.some.inj (configuredAgain.symm.trans configured)
        rw [RequestHost.named_eq_error_iff.mpr ⟨same ▸ nothing, rfl⟩, Except.map]

section Status

variable {rawHost : String} {cause : MatchError}

theorem RequestHost.status_of_parse_error (refused : RequestHost.parse rawHost = .error cause) :
    cause.status = 400 := by
  have status_of_named {name : String} {port : Port}
      (named : RequestHost.named name port = .error cause) : cause.status = 400 := by
    rw [(RequestHost.named_eq_error_iff.mp named).2]
    rfl
  unfold RequestHost.parse at refused
  split at refused
  · exact status_of_named refused
  · split at refused
    · cases refused
      rfl
    · exact status_of_named refused

theorem Registry.status_of_lookUpOwn_error {registry : Registry}
    (refused : registry.lookUpOwn rawHost = .error cause) : cause.status = 400 := by
  unfold Registry.lookUpOwn at refused
  cases parsed : RequestHost.parse rawHost with
  | ok request =>
    rw [parsed] at refused
    cases refused
  | error other =>
    rw [parsed] at refused
    cases refused
    exact RequestHost.status_of_parse_error parsed

/-- A lookup is refused for what the request sends, also if it is the
default host that fails. -/
theorem Registry.status_of_lookUp_error {registry : Registry}
    (refused : registry.lookUp rawHost = .error cause) : cause.status = 400 := by
  cases parsed : RequestHost.parse rawHost with
  | error other =>
    rw [Registry.lookUp_of_refused parsed] at refused
    cases refused
    exact RequestHost.status_of_parse_error parsed
  | ok request =>
    cases found : registry.tree.matchHost request.name request.port with
    | some resolved =>
      rw [Registry.lookUp_of_found parsed found] at refused
      cases refused
    | none =>
      cases default : registry.fallback? request with
      | none =>
        rw [Registry.lookUp_of_missing parsed found default] at refused
        cases refused
      | some fallback =>
        rw [Registry.lookUp_of_fallback parsed found default] at refused
        exact Registry.status_of_lookUpOwn_error refused

end Status

/-- After any lookups on the registry of a valid configuration, a request that
can be read is refused exactly if no host is found for it, the default host is
configured as two dots, and the request is not for that name itself. -/
theorem Configuration.matchHost_eq_error_iff {config : Configuration} {policy : BuildPolicy}
    {generation : Nat} {registry : Registry} (valid : config.isValid)
    (built : config.build policy generation = .ok registry) (lookups : List Lookup)
    {rawHost : String} {request : RequestHost} (parsed : RequestHost.parse rawHost = .ok request)
    (cause : MatchError) :
    ((registry.after lookups).matchHost rawHost).answer = .error cause ↔
      cause = .emptyHost ∧ config.hosts.defaultHostName = some ".." ∧ request.name ≠ "." ∧
        registry.tree.matchHost request.name request.port = none := by
  have sound := Configuration.build_sound valid built
  obtain ⟨later, same⟩ := sound.after lookups
  rw [later.matchHost_answer, Registry.lookUp_eq_of_forgotten_eq same,
    Registry.lookUp_eq_error_iff sound.host parsed, Configuration.build_settings built]
  have stored (dots : config.hosts.defaultHostName = some "..") :
      (RegistrySettings.ofDefaults config.hosts).defaultHostName = some "." := by
    have normal : normalizeHostName ".." = "." := by decide +kernel
    simp [RegistrySettings.ofDefaults, dots, normal]
  constructor
  · rintro ⟨rfl, missing, name, default, other, nothing⟩
    have dots := (Configuration.normalize_default_eq_empty_iff valid default).mp nothing
    have dot : name = "." := Option.some.inj (default.symm.trans (stored dots))
    exact ⟨rfl, dots, dot ▸ other.symm, missing⟩
  · rintro ⟨rfl, dots, other, missing⟩
    refine ⟨rfl, missing, ".", stored dots, other.symm, ?_⟩
    exact (Configuration.normalize_default_eq_empty_iff valid (stored dots)).mpr dots

def dottedDefaultSite : Configuration where
  hosts := { defaultHostName := some ".." }
  hostGroups := [{
    name := "dev"
    hosts := [.node { name := "localhost" } (some (.node { identifier := some "home" } [])) [] []] }]

/-- A request that can be read is refused, although validation accepts
the default host. -/
theorem dottedDefaultSite_refuses_unknown_host :
    dottedDefaultSite.isValid ∧
      RequestHost.parse "www.example.com" = .ok ⟨"www.example.com", anyPort⟩ ∧
      (dottedDefaultSite.build .lenient 1).toOption.map (fun registry =>
        (registry.matchHost "www.example.com").answer) = some (.error .emptyHost) := by
  decide +kernel

theorem dottedDefaultSite_refused :
    dottedDefaultSite.isValid ∧ ∃ registry, dottedDefaultSite.build .lenient 1 = .ok registry ∧
      RequestHost.parse "shop.localhost:80" = .ok ⟨"shop.localhost", 80⟩ ∧
      ((registry.after [.host "..:80", .host "localhost"]).matchHost "shop.localhost:80").answer =
        .error .emptyHost := by
  have valid : dottedDefaultSite.isValid := by decide +kernel
  have parsed : RequestHost.parse "shop.localhost:80" = .ok ⟨"shop.localhost", 80⟩ := by
    decide +kernel
  have unknown : (dottedDefaultSite.build .lenient 1).toOption.map (fun registry =>
      registry.tree.matchHost "shop.localhost" 80) = some none := by decide +kernel
  cases built : dottedDefaultSite.build .lenient 1 with
  | error issues =>
    rw [built] at unknown
    cases unknown
  | ok registry =>
    rw [built] at unknown
    have refused := Configuration.matchHost_eq_error_iff valid built
      [.host "..:80", .host "localhost"] parsed .emptyHost
    exact ⟨valid, registry, rfl, parsed,
      refused.mpr ⟨rfl, rfl, by decide, Option.some.inj unknown⟩⟩

end SiteRouting
