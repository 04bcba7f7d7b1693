import Mathlib
import SiteRouting.Proofs.Build.Outcome
import SiteRouting.Proofs.Lookup.Memory

namespace SiteRouting

/-- A question to a registry: for a host alone, or for a mount on it. -/
inductive Lookup where
  | host (rawHost : String)
  | mount (rawHost : String) (contextPath : Option String) (path : String)
  deriving DecidableEq, Repr

inductive LookupReply where
  | host (answer : HostAnswer)
  | mount (answer : Except MatchError (Option ResolvedMount))

def Registry.reply (registry : Registry) : Lookup → LookupReply × Registry
  | .host rawHost =>
    let step := registry.matchHost rawHost
    (.host step.answer, step.registry)
  | .mount rawHost contextPath path =>
    let step := registry.matchMount rawHost contextPath path
    (.mount step.answer, step.registry)

def Registry.after (registry : Registry) (lookups : List Lookup) : Registry :=
  lookups.foldl (fun current lookup => (current.reply lookup).2) registry

def Registry.replies (registry : Registry) : List Lookup → List LookupReply
  | [] => []
  | lookup :: rest => (registry.reply lookup).1 :: (registry.reply lookup).2.replies rest

/-- The reply of a registry that remembers nothing: the host is looked up,
and if it is unknown the default host, once. -/
def Registry.plainReply (registry : Registry) : Lookup → LookupReply
  | .host rawHost => .host (registry.lookUp rawHost)
  | .mount rawHost contextPath path =>
    .mount ((registry.lookUp rawHost).map (·.bind (·.matchMount contextPath path)))

/-- What holds of a registry in service: its default host can be sent as a
host value, and what it remembers so far is right. -/
structure Registry.Sound (registry : Registry) : Prop where
  host : registry.DefaultIsHostText
  coherent : registry.Coherent

theorem Registry.Sound.matchHost {registry : Registry} (sound : registry.Sound) (rawHost : String) :
    (registry.matchHost rawHost).registry.Sound := by
  have transparent := Registry.matchHost_isTransparent sound.host sound.coherent rawHost
  exact ⟨sound.host.of_forgotten_eq (registry.matchHost_forgotten rawHost), transparent.coherent⟩

theorem Registry.Sound.matchHost_answer {registry : Registry} (sound : registry.Sound) (rawHost : String) :
    (registry.matchHost rawHost).answer = registry.lookUp rawHost :=
  (Registry.matchHost_isTransparent sound.host sound.coherent rawHost).answer

/-- Both kinds of lookup change the registry as the lookup of their host does. -/
theorem Registry.reply_registry (registry : Registry) (lookup : Lookup) :
    ∃ rawHost, (registry.reply lookup).2 = (registry.matchHost rawHost).registry := by
  cases lookup with
  | host rawHost => exact ⟨rawHost, rfl⟩
  | mount rawHost contextPath path => exact ⟨rawHost, rfl⟩

theorem Registry.Sound.reply {registry : Registry} (sound : registry.Sound) (lookup : Lookup) :
    (registry.reply lookup).2.Sound ∧ (registry.reply lookup).2.forgotten = registry.forgotten := by
  obtain ⟨rawHost, same⟩ := registry.reply_registry lookup
  rw [same]
  exact ⟨sound.matchHost rawHost, registry.matchHost_forgotten rawHost⟩

theorem Registry.Sound.reply_eq {registry : Registry} (sound : registry.Sound) (lookup : Lookup) :
    (registry.reply lookup).1 = registry.plainReply lookup := by
  cases lookup with
  | host rawHost => exact congrArg LookupReply.host (sound.matchHost_answer rawHost)
  | mount rawHost contextPath path =>
    simp only [Registry.reply, Registry.matchMount, Registry.plainReply, sound.matchHost_answer]

theorem Registry.plainReply_eq_of_forgotten_eq {a b : Registry} (same : a.forgotten = b.forgotten)
    (lookup : Lookup) : a.plainReply lookup = b.plainReply lookup := by
  cases lookup <;> simp only [Registry.plainReply, Registry.lookUp_eq_of_forgotten_eq same]

theorem Registry.Sound.after {registry : Registry} (sound : registry.Sound) (lookups : List Lookup) :
    (registry.after lookups).Sound ∧ (registry.after lookups).forgotten = registry.forgotten := by
  induction lookups generalizing registry with
  | nil => exact ⟨sound, rfl⟩
  | cons lookup rest ih =>
    obtain ⟨next, same⟩ := sound.reply lookup
    obtain ⟨last, forgotten⟩ := ih next
    exact ⟨last, forgotten.trans same⟩

theorem Registry.Sound.replies_eq {registry : Registry} (sound : registry.Sound) (lookups : List Lookup) :
    registry.replies lookups = lookups.map registry.plainReply := by
  induction lookups generalizing registry with
  | nil => rfl
  | cons lookup rest ih =>
    obtain ⟨next, same⟩ := sound.reply lookup
    rw [Registry.replies, List.map_cons, sound.reply_eq lookup, ih next]
    refine congrArg (registry.plainReply lookup :: ·) ?_
    exact List.map_congr_left fun later _ => Registry.plainReply_eq_of_forgotten_eq same later

theorem Configuration.build_sound {config : Configuration} {policy : BuildPolicy} {generation : Nat}
    {registry : Registry} (valid : config.isValid)
    (built : config.build policy generation = .ok registry) : registry.Sound := by
  constructor
  · intro name default
    rw [Configuration.build_settings built] at default
    simp only [RegistrySettings.ofDefaults, Option.filter_eq_some_iff, Option.map_eq_some_iff] at default
    obtain ⟨⟨value, configured, rfl⟩, _⟩ := default
    exact (isHostText_of_isHostName (config.isHostName_default valid configured)).normalizeHostName
  · intro entry member
    rw [Configuration.build_cache built] at member
    cases member

/-- Every lookup of every run on one registry replies as without a memory,
whatever was asked before, and the answer for a host depends only on the name
and port that its raw value is read as. -/
theorem Configuration.replies_transparent {config : Configuration} {policy : BuildPolicy}
    {generation : Nat} {registry : Registry} (valid : config.isValid)
    (built : config.build policy generation = .ok registry) (lookups : List Lookup) :
    registry.replies lookups = lookups.map registry.plainReply ∧
      ∀ others rawHost otherHost, RequestHost.parse rawHost = RequestHost.parse otherHost →
        ((registry.after lookups).matchHost rawHost).answer =
          ((registry.after others).matchHost otherHost).answer := by
  have sound := Configuration.build_sound valid built
  refine ⟨sound.replies_eq lookups, ?_⟩
  intro others rawHost otherHost parsed
  obtain ⟨left, leftSame⟩ := sound.after lookups
  obtain ⟨right, rightSame⟩ := sound.after others
  rw [left.matchHost_answer, right.matchHost_answer,
    Registry.lookUp_eq_of_forgotten_eq (leftSame.trans rightSame.symm)]
  simp only [Registry.lookUp, parsed]

/-- One host, reached as the default of every other one; a single
answer is remembered. -/
def fallbackSite : Configuration where
  hosts := { defaultHostName := some "LocalHost.", maxCachedHosts := 1 }
  hostGroups := [{
    name := "dev"
    hosts := [.node { name := "localhost" } (some (.node { identifier := some "home" } [])) [] []] }]

/-- Lookups that meet each other in the memory: the first one leaves an
answer for the text of the default host, which the second one asks for, and
nothing more fits after it. -/
def crossingLookups : List Lookup :=
  [.host "www.example.com:8080", .mount "localhost:8080" (some "") "/news", .host "localhost:8080",
    .host " WWW.example.com. ", .host "localhost:port", .host "localhost"]

theorem fallbackSite_replies :
    fallbackSite.isValid ∧ ∃ registry, fallbackSite.build .lenient 1 = .ok registry ∧
      (registry.after crossingLookups).cache.map (·.1) = ["localhost:8080"] ∧
      registry.replies crossingLookups = crossingLookups.map registry.plainReply := by
  have valid : fallbackSite.isValid := by decide +kernel
  have remembered : (fallbackSite.build .lenient 1).toOption.map (fun registry =>
      (registry.after crossingLookups).cache.map (·.1)) = some ["localhost:8080"] := by decide +kernel
  cases built : fallbackSite.build .lenient 1 with
  | error issues =>
    rw [built] at remembered
    cases remembered
  | ok registry =>
    rw [built] at remembered
    exact ⟨valid, registry, rfl, Option.some.inj remembered,
      (Configuration.replies_transparent valid built crossingLookups).1⟩

end SiteRouting
