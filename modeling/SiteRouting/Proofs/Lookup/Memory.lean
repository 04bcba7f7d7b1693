import Mathlib
import SiteRouting.Proofs.HostName
import SiteRouting.Registry

namespace SiteRouting

def Registry.forgotten (registry : Registry) : Registry :=
  { registry with cache := [] }

/-- Every remembered answer is the one that its raw host has without the memory,
whether it was stored for the request itself or for a default host on the way. -/
def Registry.Coherent (registry : Registry) : Prop :=
  ∀ entry ∈ registry.cache, registry.lookUp entry.1 = .ok entry.2

/-- The default host, if there is one, can be sent as a host value. That of
every valid configuration can. -/
def Registry.DefaultIsHostText (registry : Registry) : Prop :=
  ∀ name, registry.settings.defaultHostName = some name → IsHostText name

/-- What a registry has for a raw host value itself: neither the memory nor
the default host is asked. -/
def Registry.lookUpOwn (registry : Registry) (rawHost : String) : HostAnswer :=
  (RequestHost.parse rawHost).map fun request => registry.tree.matchHost request.name request.port

section LookUp

variable {registry : Registry} {rawHost fallback : String} {request : RequestHost}

theorem Registry.lookUp_of_refused {cause : MatchError}
    (refused : RequestHost.parse rawHost = .error cause) : registry.lookUp rawHost = .error cause := by
  rw [Registry.lookUp, refused]
  rfl

theorem Registry.lookUp_of_found {host : ResolvedHost} (parsed : RequestHost.parse rawHost = .ok request)
    (found : registry.tree.matchHost request.name request.port = some host) :
    registry.lookUp rawHost = .ok (some host) := by
  simp only [Registry.lookUp, parsed, bind, Except.bind, found]
  rfl

theorem Registry.lookUp_of_missing (parsed : RequestHost.parse rawHost = .ok request)
    (missing : registry.tree.matchHost request.name request.port = none)
    (last : registry.fallback? request = none) : registry.lookUp rawHost = .ok none := by
  simp only [Registry.lookUp, parsed, bind, Except.bind, missing, last]
  rfl

theorem Registry.lookUp_of_fallback (parsed : RequestHost.parse rawHost = .ok request)
    (missing : registry.tree.matchHost request.name request.port = none)
    (default : registry.fallback? request = some fallback) :
    registry.lookUp rawHost = registry.lookUpOwn fallback := by
  simp only [Registry.lookUp, Registry.lookUpOwn, parsed, bind, Except.bind, missing, default]
  cases RequestHost.parse fallback <;> rfl

end LookUp

theorem Registry.lookUp_eq_of_forgotten_eq {a b : Registry} (same : a.forgotten = b.forgotten)
    (rawHost : String) : a.lookUp rawHost = b.lookUp rawHost := by
  change a.forgotten.lookUp rawHost = b.forgotten.lookUp rawHost
  rw [same]

theorem Registry.DefaultIsHostText.of_forgotten_eq {a b : Registry} (host : a.DefaultIsHostText)
    (same : b.forgotten = a.forgotten) : b.DefaultIsHostText := by
  intro name default
  have settings : b.settings = a.settings := congrArg (·.settings) same
  exact host name (settings ▸ default)

theorem Registry.Coherent.cached {registry : Registry} {rawHost : String}
    {answer : Option ResolvedHost} (coherent : registry.Coherent)
    (hit : registry.cached? rawHost = some answer) : registry.lookUp rawHost = .ok answer := by
  obtain ⟨before, after, entries, _⟩ := List.lookup_eq_some_iff.mp hit
  exact coherent (rawHost, answer) (by simp [entries])

theorem Registry.remember_forgotten (registry : Registry) (rawHost : String)
    (answer : Option ResolvedHost) :
    (registry.remember rawHost answer).1.forgotten = registry.forgotten := by
  unfold Registry.remember
  split <;> rfl

theorem Registry.resolveOwn_forgotten (registry : Registry) (rawHost : String) :
    (registry.resolveOwn rawHost).registry.forgotten = registry.forgotten := by
  unfold Registry.resolveOwn
  split
  · rfl
  split
  · rfl
  · exact registry.remember_forgotten _ _

theorem Registry.resolveRequest_forgotten (registry : Registry) (request : RequestHost) :
    (registry.resolveRequest request).registry.forgotten = registry.forgotten := by
  unfold Registry.resolveRequest
  dsimp only
  split
  · exact registry.resolveOwn_forgotten _
  · rfl

theorem Registry.resolveNew_forgotten (registry : Registry) (rawHost : String) :
    (registry.resolveNew rawHost).registry.forgotten = registry.forgotten := by
  unfold Registry.resolveNew
  split
  · rfl
  rename_i request parsed
  have same := registry.resolveRequest_forgotten request
  dsimp only
  split
  · exact same
  · exact (Registry.remember_forgotten _ _ _).trans same

theorem Registry.matchHost_forgotten (registry : Registry) (rawHost : String) :
    (registry.matchHost rawHost).registry.forgotten = registry.forgotten := by
  unfold Registry.matchHost
  split
  · rfl
  · have same := registry.resolveNew_forgotten rawHost
    generalize registry.resolveNew rawHost = step at same
    exact same

theorem Registry.Coherent.remember {registry : Registry} {rawHost : String}
    {answer : Option ResolvedHost} (coherent : registry.Coherent)
    (plain : registry.lookUp rawHost = .ok answer) :
    (registry.remember rawHost answer).1.Coherent := by
  intro entry member
  rw [Registry.lookUp_eq_of_forgotten_eq (registry.remember_forgotten rawHost answer)]
  unfold Registry.remember at member
  split at member
  · exact coherent entry member
  · rcases List.mem_append.mp member with old | new
    · exact coherent entry (List.mem_of_mem_filter old)
    · rw [List.mem_singleton.mp new]
      exact plain

/-- The text of the default host for a request is read as the default host's
normal form and the port of the request. -/
theorem Registry.parse_fallback {registry : Registry} {request : RequestHost} {fallback : String}
    (host : registry.DefaultIsHostText) (fits : request.port ≤ maxPort)
    (default : registry.fallback? request = some fallback) :
    ∃ name, registry.settings.defaultHostName = some name ∧ name ≠ request.name ∧
      RequestHost.parse fallback = RequestHost.named name request.port := by
  unfold Registry.fallback? at default
  split at default
  · cases default
  rename_i name configured
  split at default
  · cases default
  rename_i other
  have text := host name configured
  refine ⟨name, configured, by simpa using other, ?_⟩
  split at default
  · rename_i unset
    rw [← Option.some.inj default, text.parse_eq, beq_iff_eq.mp unset]
  · rw [← Option.some.inj default, text.parse_port fits]

/-- Requests for one port have at most one text for the default host. -/
theorem Registry.fallback?_of_port_eq {registry : Registry} {request other : RequestHost}
    {fallback : String} (port : other.port = request.port)
    (default : registry.fallback? request = some fallback) :
    registry.fallback? other = none ∨ registry.fallback? other = some fallback := by
  unfold Registry.fallback? at default ⊢
  split at default
  · cases default
  split at default
  · cases default
  split
  · exact Or.inl rfl
  · exact Or.inr (by rw [port, default])

/-- The default host has no default that would answer differently: whoever
asks for its text is sent back to the same text. -/
theorem Registry.lookUp_fallback {registry : Registry} {request : RequestHost} {fallback : String}
    (host : registry.DefaultIsHostText) (fits : request.port ≤ maxPort)
    (default : registry.fallback? request = some fallback) :
    registry.lookUp fallback = registry.lookUpOwn fallback := by
  obtain ⟨name, _, _, parsed⟩ := registry.parse_fallback host fits default
  cases again : RequestHost.parse fallback with
  | error cause => rw [Registry.lookUp_of_refused again, Registry.lookUpOwn, again, Except.map]
  | ok own =>
    have port : own.port = request.port := RequestHost.named_port (parsed ▸ again)
    cases found : registry.tree.matchHost own.name own.port with
    | some resolved =>
      rw [Registry.lookUp_of_found again found, Registry.lookUpOwn, again, Except.map, found]
    | none =>
      -- Both ask for one port, so a second fallback could only lead to the text of the first.
      rcases Registry.fallback?_of_port_eq port default with last | same
      · rw [Registry.lookUp_of_missing again found last, Registry.lookUpOwn, again, Except.map, found]
      · exact Registry.lookUp_of_fallback again found same

/-- An operation that keeps the memory right, and answers as if there
were none. -/
structure Registry.Step.IsTransparent (step : Registry.Step HostAnswer) (registry : Registry)
    (rawHost : String) : Prop where
  answer : step.answer = registry.lookUp rawHost
  coherent : step.registry.Coherent

/-- A lookup that is not to fall back is transparent where there is
nothing to fall back to. -/
theorem Registry.resolveOwn_isTransparent {registry : Registry} {rawHost : String}
    (coherent : registry.Coherent) (own : registry.lookUp rawHost = registry.lookUpOwn rawHost) :
    (registry.resolveOwn rawHost).IsTransparent registry rawHost := by
  unfold Registry.resolveOwn
  split
  · rename_i answer hit
    exact ⟨(coherent.cached hit).symm, coherent⟩
  split
  · rename_i cause refused
    exact ⟨(Registry.lookUp_of_refused refused).symm, coherent⟩
  · rename_i request parsed
    have plain : registry.lookUp rawHost = .ok (registry.tree.matchHost request.name request.port) := by
      rw [own, Registry.lookUpOwn, parsed, Except.map]
    exact ⟨plain.symm, coherent.remember plain⟩

theorem Registry.resolveRequest_isTransparent {registry : Registry} {rawHost : String}
    {request : RequestHost} (host : registry.DefaultIsHostText) (coherent : registry.Coherent)
    (parsed : RequestHost.parse rawHost = .ok request) :
    (registry.resolveRequest request).IsTransparent registry rawHost := by
  unfold Registry.resolveRequest
  cases found : registry.tree.matchHost request.name request.port with
  | some resolved => exact ⟨(Registry.lookUp_of_found parsed found).symm, coherent⟩
  | none =>
    cases default : registry.fallback? request with
    | none => exact ⟨(Registry.lookUp_of_missing parsed found default).symm, coherent⟩
    | some fallback =>
      have own := Registry.lookUp_fallback host (RequestHost.parse_port_le parsed) default
      have transparent := registry.resolveOwn_isTransparent coherent own
      refine ⟨?_, transparent.coherent⟩
      rw [Registry.lookUp_of_fallback parsed found default, ← own]
      exact transparent.answer

theorem Registry.resolveNew_isTransparent {registry : Registry} (host : registry.DefaultIsHostText)
    (coherent : registry.Coherent) (rawHost : String) :
    (registry.resolveNew rawHost).IsTransparent registry rawHost := by
  unfold Registry.resolveNew
  cases parsed : RequestHost.parse rawHost with
  | error cause => exact ⟨(Registry.lookUp_of_refused parsed).symm, coherent⟩
  | ok request =>
    have transparent := Registry.resolveRequest_isTransparent host coherent parsed
    have same := registry.resolveRequest_forgotten request
    cases answered : (registry.resolveRequest request).answer with
    | error cause =>
      simp only [answered]
      exact ⟨answered.symm.trans transparent.answer, transparent.coherent⟩
    | ok answer =>
      simp only [answered]
      refine ⟨answered.symm.trans transparent.answer, transparent.coherent.remember ?_⟩
      -- The default host may have left an entry by now, which no plain answer depends on.
      rw [Registry.lookUp_eq_of_forgotten_eq same, ← transparent.answer, answered]

/-- Every lookup answers as one without the memory, and keeps the memory right. -/
theorem Registry.matchHost_isTransparent {registry : Registry} (host : registry.DefaultIsHostText)
    (coherent : registry.Coherent) (rawHost : String) :
    (registry.matchHost rawHost).IsTransparent registry rawHost := by
  unfold Registry.matchHost
  split
  · rename_i answer hit
    exact ⟨(coherent.cached hit).symm, coherent⟩
  · have transparent := registry.resolveNew_isTransparent host coherent rawHost
    generalize registry.resolveNew rawHost = step at transparent
    exact ⟨transparent.answer, transparent.coherent⟩

end SiteRouting
