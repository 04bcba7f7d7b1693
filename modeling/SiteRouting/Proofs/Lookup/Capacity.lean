import Mathlib
import SiteRouting.Proofs.Lookup.Transparency

namespace SiteRouting

/-- The text of the default host that a lookup asks for on its way; there is
none if the raw host cannot be read, or is found itself. -/
def Registry.defaultAsked? (registry : Registry) (rawHost : String) : Option String :=
  match RequestHost.parse rawHost with
  | .error _ => none
  | .ok request =>
    if (registry.tree.matchHost request.name request.port).isSome then none else registry.fallback? request

/-- A registry that remembers some more hosts than another one, in order, all
of them with one answer. Nothing that was remembered is changed or dropped. -/
structure Registry.Learns (after before : Registry) (answer : Option ResolvedHost) (added : List String) :
    Prop where
  cache : after.cache = before.cache ++ added.map fun rawHost => (rawHost, answer)
  forgotten : after.forgotten = before.forgotten
  bounded : after.cache.length ≤ max before.cache.length before.settings.maxCachedHosts
  isNew : ∀ rawHost ∈ added, before.cached? rawHost = none
  distinct : added.Nodup
  readable : ∀ rawHost ∈ added, ∃ request, RequestHost.parse rawHost = .ok request

section Step

variable {registry current : Registry} {rawHost : String} {answer : Option ResolvedHost}
  {added : List String}

theorem Registry.cached?_eq_none_iff : registry.cached? rawHost = none ↔ rawHost ∉ registry.cache.map (·.1) := by
  rw [Registry.cached?, List.lookup_eq_none_iff, List.mem_map]
  constructor
  · rintro absent ⟨entry, member, rfl⟩
    simpa using absent entry member
  · intro absent entry member
    exact bne_iff_ne.mpr fun same => absent ⟨entry, member, same.symm⟩

theorem Registry.Learns.refl (registry : Registry) (answer : Option ResolvedHost) :
    registry.Learns registry answer [] where
  cache := by simp
  forgotten := rfl
  bounded := le_max_left _ _
  isNew := by simp
  distinct := List.nodup_nil
  readable := by simp

theorem Registry.Learns.settings (learns : current.Learns registry answer added) :
    current.settings = registry.settings :=
  congrArg (·.settings) learns.forgotten

theorem Registry.eq_of_forgotten_eq (rest : current.forgotten = registry.forgotten)
    (cache : current.cache = registry.cache) : current = registry := by
  have same := congrArg (fun base : Registry => { base with cache := current.cache }) rest
  rw [cache] at same
  cases current
  cases registry
  cases cache
  exact same

theorem Registry.remember_of_full (full : registry.settings.maxCachedHosts ≤ registry.cache.length) :
    (registry.remember rawHost answer).1 = registry := by
  rw [Registry.remember, if_pos full]

theorem Registry.cache_remember_of_room (room : registry.cache.length < registry.settings.maxCachedHosts) :
    (registry.remember rawHost answer).1.cache =
      registry.cache.filter (·.1 != rawHost) ++ [(rawHost, answer)] := by
  rw [Registry.remember, if_neg (Nat.not_le.mpr room)]

theorem Registry.filter_cache_of_new (isNew : registry.cached? rawHost = none) :
    registry.cache.filter (·.1 != rawHost) = registry.cache := by
  refine List.filter_eq_self.mpr fun entry member => bne_iff_ne.mpr fun same => ?_
  exact Registry.cached?_eq_none_iff.mp isNew (same ▸ List.mem_map_of_mem member)

/-- A host that is not known yet is remembered unless the memory is full. -/
theorem Registry.Learns.remember (learns : current.Learns registry answer added)
    (isNew : registry.cached? rawHost = none) (isOther : rawHost ∉ added)
    (readable : ∃ request, RequestHost.parse rawHost = .ok request) :
    (current.remember rawHost answer).1 = current ∧
        registry.settings.maxCachedHosts ≤ current.cache.length ∨
      (current.remember rawHost answer).1.Learns registry answer (added ++ [rawHost]) := by
  by_cases room : current.cache.length < current.settings.maxCachedHosts
  · have unknown : current.cached? rawHost = none := by
      rw [Registry.cached?_eq_none_iff] at isNew ⊢
      rw [learns.cache]
      simpa using ⟨by simpa using isNew, isOther⟩
    have cache : (current.remember rawHost answer).1.cache = current.cache ++ [(rawHost, answer)] := by
      rw [Registry.cache_remember_of_room room, Registry.filter_cache_of_new unknown]
    refine Or.inr ⟨?_, ?_, ?_, ?_, ?_, ?_⟩
    · rw [cache, learns.cache]
      simp
    · exact (current.remember_forgotten rawHost answer).trans learns.forgotten
    · rw [cache, List.length_append, List.length_singleton]
      rw [learns.settings] at room
      omega
    · intro host member
      rcases List.mem_append.mp member with earlier | last
      · exact learns.isNew host earlier
      · rwa [List.mem_singleton.mp last]
    · exact List.nodup_append.mpr ⟨learns.distinct, List.nodup_singleton _, by
        intro host earlier last member same
        exact isOther (List.mem_singleton.mp member ▸ same ▸ earlier)⟩
    · intro host member
      rcases List.mem_append.mp member with earlier | last
      · exact learns.readable host earlier
      · rwa [List.mem_singleton.mp last]
  · have full := Nat.not_lt.mp room
    exact Or.inl ⟨Registry.remember_of_full full, learns.settings ▸ full⟩

/-- A host that was learned on the way, as the default host, is stored once
more with the same answer, which changes nothing. -/
theorem Registry.Learns.remember_again (learns : current.Learns registry answer [rawHost]) :
    (current.remember rawHost answer).1 = current := by
  by_cases room : current.cache.length < current.settings.maxCachedHosts
  · have isNew := learns.isNew rawHost (List.mem_singleton_self _)
    have cache : (current.remember rawHost answer).1.cache = current.cache := by
      rw [Registry.cache_remember_of_room room, learns.cache, List.filter_append,
        Registry.filter_cache_of_new isNew]
      simp
    exact Registry.eq_of_forgotten_eq (current.remember_forgotten rawHost answer) cache
  · exact Registry.remember_of_full (Nat.not_lt.mp room)

theorem eq_singleton_of_mem_sublist {α : Type} {held : Option α} {a : α} {part : List α}
    (few : part.Sublist held.toList) (member : a ∈ part) : part = [a] := by
  cases held with
  | none => exact absurd (few.subset member) List.not_mem_nil
  | some b =>
    rcases List.sublist_singleton.mp few with rfl | rfl
    · cases member
    · rw [List.mem_singleton.mp member]

/-- A lookup without a fallback learns at most the host that it looks up, and
nothing if it is refused. -/
theorem Registry.resolveOwn_learns (registry : Registry) (rawHost : String) :
    (∃ cause, (registry.resolveOwn rawHost).answer = .error cause ∧
        (registry.resolveOwn rawHost).registry = registry) ∨
      ∃ answer added, (registry.resolveOwn rawHost).answer = .ok answer ∧ added.Sublist [rawHost] ∧
        (registry.resolveOwn rawHost).registry.Learns registry answer added := by
  unfold Registry.resolveOwn
  cases known : registry.cached? rawHost with
  | some answer => exact Or.inr ⟨answer, [], rfl, List.nil_sublist _, .refl registry answer⟩
  | none =>
    cases parsed : RequestHost.parse rawHost with
    | error cause => exact Or.inl ⟨cause, rfl, rfl⟩
    | ok request =>
      let answer := registry.tree.matchHost request.name request.port
      have start := Registry.Learns.refl registry answer
      rcases start.remember known List.not_mem_nil ⟨request, parsed⟩ with ⟨same, _⟩ | learns
      · have kept : (registry.remember rawHost answer).1.Learns registry answer [] := by
          rw [same]
          exact start
        exact Or.inr ⟨answer, [], rfl, List.nil_sublist _, kept⟩
      · exact Or.inr ⟨answer, [rawHost], rfl, List.Sublist.refl _, learns⟩

/-- What is learned while a raw host is resolved: at most the default host.
If that is the raw host itself, it is answered as the raw host is. -/
theorem Registry.resolveRequest_learns {request : RequestHost}
    (parsed : RequestHost.parse rawHost = .ok request) :
    (∃ cause, (registry.resolveRequest request).answer = .error cause ∧
        (registry.resolveRequest request).registry = registry) ∨
      ∃ answer added, (registry.resolveRequest request).answer = .ok answer ∧
        added.Sublist (registry.defaultAsked? rawHost).toList ∧
        (registry.resolveRequest request).registry.Learns registry answer added := by
  have asked : registry.defaultAsked? rawHost =
      if (registry.tree.matchHost request.name request.port).isSome then none
      else registry.fallback? request := by
    rw [Registry.defaultAsked?, parsed]
  rw [asked]
  unfold Registry.resolveRequest
  cases registry.tree.matchHost request.name request.port with
  | some host => exact Or.inr ⟨some host, [], rfl, List.nil_sublist _, .refl registry _⟩
  | none =>
    cases registry.fallback? request with
    | none => exact Or.inr ⟨none, [], rfl, List.nil_sublist _, .refl registry _⟩
    | some fallback => exact registry.resolveOwn_learns fallback

/-- What one lookup does to the memory: it adds at most two hosts, the
default host that it asks for and the one that was asked for. -/
inductive Registry.Remembers (registry : Registry) (rawHost : String) : Registry.Step HostAnswer → Prop
  /-- A remembered host is answered from the memory. -/
  | known {answer : Option ResolvedHost} {events : List Event}
      (hit : registry.cached? rawHost = some answer) : registry.Remembers rawHost ⟨.ok answer, registry, events⟩
  /-- A refused lookup leaves nothing behind, wherever it was refused. -/
  | refused {cause : MatchError} {events : List Event} (miss : registry.cached? rawHost = none) :
      registry.Remembers rawHost ⟨.error cause, registry, events⟩
  /-- Any other lookup adds the default host and the raw host, each
  unless there is no room for it. -/
  | learned {after : Registry} {answer : Option ResolvedHost} {added : List String} {events : List Event}
      (miss : registry.cached? rawHost = none) (learns : after.Learns registry answer added)
      (few : added.Sublist ((registry.defaultAsked? rawHost).toList ++ [rawHost]))
      (own : rawHost ∈ added ∨ registry.settings.maxCachedHosts ≤ after.cache.length) :
      registry.Remembers rawHost ⟨.ok answer, after, events⟩

theorem Registry.matchHost_remembers (registry : Registry) (rawHost : String) :
    registry.Remembers rawHost (registry.matchHost rawHost) := by
  unfold Registry.matchHost
  cases known : registry.cached? rawHost with
  | some answer => exact .known known
  | none =>
    unfold Registry.resolveNew
    cases parsed : RequestHost.parse rawHost with
    | error cause => exact .refused known
    | ok request =>
      dsimp only
      rcases registry.resolveRequest_learns parsed with ⟨cause, refused, same⟩ |
        ⟨answer, added, answered, few, learns⟩
      · simp only [refused, same]
        exact .refused known
      · simp only [answered]
        by_cases again : rawHost ∈ added
        · -- The default host is written as the raw host is, and was stored a moment ago.
          obtain rfl := eq_singleton_of_mem_sublist few again
          rw [learns.remember_again]
          exact .learned known learns (few.trans (List.sublist_append_left _ _)) (Or.inl again)
        · rcases learns.remember known again ⟨request, parsed⟩ with ⟨same, full⟩ | learnsOwn
          · rw [same]
            exact .learned known learns (few.trans (List.sublist_append_left _ _)) (Or.inr full)
          · exact .learned known learnsOwn (few.append (List.Sublist.refl _)) (Or.inl (by simp))

end Step

section Run

variable {registry current : Registry}

/-- What holds of the memory of a registry, whatever it was asked: it has no
more entries than the settings allow, each of them for a text of its own
that can be read as a host. -/
structure Registry.KeepsLimit (registry : Registry) : Prop where
  bounded : registry.cache.length ≤ registry.settings.maxCachedHosts
  distinct : (registry.cache.map (·.1)).Nodup
  readable : ∀ rawHost ∈ registry.cache.map (·.1), ∃ request, RequestHost.parse rawHost = .ok request

theorem Registry.Learns.keepsLimit {answer : Option ResolvedHost} {added : List String}
    (learns : current.Learns registry answer added) (keeps : registry.KeepsLimit) : current.KeepsLimit := by
  have hosts : current.cache.map (·.1) = registry.cache.map (·.1) ++ added := by
    rw [learns.cache, List.map_append, List.map_map]
    exact congrArg _ (List.map_id added)
  refine ⟨?_, ?_, ?_⟩
  · have bounded := learns.bounded
    have before := keeps.bounded
    rw [learns.settings]
    omega
  · rw [hosts]
    refine List.nodup_append.mpr ⟨keeps.distinct, learns.distinct, ?_⟩
    rintro rawHost old _ new rfl
    exact Registry.cached?_eq_none_iff.mp (learns.isNew rawHost new) old
  · intro rawHost member
    rw [hosts] at member
    rcases List.mem_append.mp member with old | new
    · exact keeps.readable rawHost old
    · exact learns.readable rawHost new

theorem Registry.matchHost_keepsLimit (rawHost : String) (keeps : registry.KeepsLimit) :
    (registry.matchHost rawHost).registry.KeepsLimit ∧
      registry.cache <+: (registry.matchHost rawHost).registry.cache := by
  have remembers := registry.matchHost_remembers rawHost
  generalize registry.matchHost rawHost = step at remembers ⊢
  cases remembers with
  | known hit => exact ⟨keeps, List.prefix_refl _⟩
  | refused miss => exact ⟨keeps, List.prefix_refl _⟩
  | learned miss learns few own =>
    refine ⟨learns.keepsLimit keeps, ?_⟩
    dsimp only
    rw [learns.cache]
    exact List.prefix_append _ _

theorem Registry.after_keepsLimit (lookups : List Lookup) (keeps : registry.KeepsLimit) :
    (registry.after lookups).KeepsLimit ∧ registry.cache <+: (registry.after lookups).cache := by
  induction lookups generalizing registry with
  | nil => exact ⟨keeps, List.prefix_refl _⟩
  | cons lookup rest ih =>
    obtain ⟨rawHost, same⟩ := registry.reply_registry lookup
    obtain ⟨next, grown⟩ := Registry.matchHost_keepsLimit rawHost keeps
    rw [← same] at next grown
    obtain ⟨last, later⟩ := ih next
    exact ⟨last, grown.trans later⟩

theorem Registry.after_forgotten (registry : Registry) (lookups : List Lookup) :
    (registry.after lookups).forgotten = registry.forgotten := by
  induction lookups generalizing registry with
  | nil => rfl
  | cons lookup rest ih =>
    obtain ⟨rawHost, same⟩ := registry.reply_registry lookup
    have first : (registry.reply lookup).2.forgotten = registry.forgotten := by
      rw [same]
      exact registry.matchHost_forgotten rawHost
    exact (ih _).trans first

theorem Registry.after_append (first second : List Lookup) :
    registry.after (first ++ second) = (registry.after first).after second :=
  List.foldl_append

/-- What is remembered is found with the same answer when more is remembered. -/
theorem Registry.cached?_of_prefix {rawHost : String} {answer : Option ResolvedHost}
    (grown : registry.cache <+: current.cache) (hit : registry.cached? rawHost = some answer) :
    current.cached? rawHost = some answer := by
  obtain ⟨new, whole⟩ := grown
  rw [Registry.cached?] at hit ⊢
  rw [← whole, List.lookup_append, hit, Option.some_or]

theorem Registry.keepsLimit_of_fresh (fresh : registry.cache = []) : registry.KeepsLimit := by
  constructor <;> simp [fresh]

end Run

/-- Over all lookups on a new registry at most as many hosts are remembered as its
settings allow, each of them once and only if it can be read; what is remembered
stays, with its answer. The next lookup changes nothing if its host is remembered
or if it is refused. Otherwise it adds at most the default host that it asked for
and its own host, and leaves out its own only when the memory is full. -/
theorem Registry.after_remembers {registry : Registry} (fresh : registry.cache = [])
    (lookups : List Lookup) :
    (registry.after lookups).cache.length ≤ registry.settings.maxCachedHosts ∧
      ((registry.after lookups).cache.map (·.1)).Nodup ∧
      (∀ entry ∈ (registry.after lookups).cache, ∃ request, RequestHost.parse entry.1 = .ok request) ∧
      (∀ later, (registry.after lookups).cache.length ≤ (registry.after (lookups ++ later)).cache.length ∧
        ∀ rawHost answer, (registry.after lookups).cached? rawHost = some answer →
          (registry.after (lookups ++ later)).cached? rawHost = some answer) ∧
      ∀ rawHost, (registry.after lookups).Remembers rawHost ((registry.after lookups).matchHost rawHost) := by
  obtain ⟨keeps, _⟩ := Registry.after_keepsLimit lookups (Registry.keepsLimit_of_fresh fresh)
  have settings : (registry.after lookups).settings = registry.settings :=
    congrArg (·.settings) (registry.after_forgotten lookups)
  refine ⟨settings ▸ keeps.bounded, keeps.distinct, ?_, ?_, fun rawHost => Registry.matchHost_remembers _ rawHost⟩
  · exact fun entry member => keeps.readable entry.1 (List.mem_map_of_mem member)
  · intro later
    obtain ⟨_, grown⟩ := Registry.after_keepsLimit later keeps
    rw [Registry.after_append]
    exact ⟨grown.length_le, fun rawHost answer => Registry.cached?_of_prefix grown⟩

def roomySite : Configuration :=
  { fallbackSite with hosts := { fallbackSite.hosts with maxCachedHosts := 3 } }

/-- The second unknown host leaves the default host behind and finds
no room for itself. -/
theorem roomySite_remembers :
    ∃ registry, roomySite.build .lenient 1 = .ok registry ∧ registry.cache = [] ∧
      (registry.after crossingLookups).cache.map (·.1) =
        ["localhost:8080", "www.example.com:8080", "localhost"] ∧
      (registry.after crossingLookups).cache.length ≤ registry.settings.maxCachedHosts ∧
      ∀ rawHost, (registry.after crossingLookups).Remembers rawHost
        ((registry.after crossingLookups).matchHost rawHost) := by
  have remembered : (roomySite.build .lenient 1).toOption.map (fun registry =>
      (registry.after crossingLookups).cache.map (·.1)) =
      some ["localhost:8080", "www.example.com:8080", "localhost"] := by decide +kernel
  obtain ⟨registry, built, hosts⟩ := Configuration.build_of_view remembered
  have fresh := Configuration.build_cache built
  obtain ⟨bounded, _, _, _, remembers⟩ := Registry.after_remembers fresh crossingLookups
  exact ⟨registry, built, fresh, hosts, bounded, remembers⟩

end SiteRouting
