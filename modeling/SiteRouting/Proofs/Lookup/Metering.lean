import Mathlib
import SiteRouting.Proofs.Lookup.Memory

namespace SiteRouting

def Event.resolution? : Event → Option Outcome
  | .resolution outcome => some outcome
  | _ => none

def Event.build? : Event → Option Bool
  | .build accepted => some accepted
  | _ => none

def Event.cachedHosts? : Event → Option Nat
  | .cachedHosts count => some count
  | _ => none

/-- The lookups that are counted among events, in order, each with its outcome. -/
def resolutions (events : List Event) : List Outcome :=
  events.filterMap Event.resolution?

/-- The builds that are counted among events, in order, each with
whether it was accepted. -/
def builds (events : List Event) : List Bool :=
  events.filterMap Event.build?

def cachedHosts? (events : List Event) : Option Nat :=
  (events.filterMap Event.cachedHosts?).getLast?

@[simp] theorem resolutions_append (front back : List Event) :
    resolutions (front ++ back) = resolutions front ++ resolutions back :=
  List.filterMap_append

@[simp] theorem builds_append (front back : List Event) :
    builds (front ++ back) = builds front ++ builds back :=
  List.filterMap_append

@[simp] theorem cachedHosts?_append (front back : List Event) :
    cachedHosts? (front ++ back) = (cachedHosts? back).or (cachedHosts? front) := by
  rw [cachedHosts?, List.filterMap_append, List.getLast?_append]
  rfl

/-- How a lookup is to be counted: by what was remembered before it,
and else by its answer. -/
def Registry.outcome (registry : Registry) (rawHost : String) : Outcome :=
  if (registry.cached? rawHost).isSome then .cacheHit
  else match (registry.matchHost rawHost).answer with
    | .error _ => .error
    | .ok none => .notFound
    | .ok (some _) => .resolved

/-- Events between two states of a registry that count nothing, the last of
which reports the size of the memory if it is not what it was. -/
structure Registry.Reported (before after : Registry) (events : List Event) : Prop where
  uncounted : resolutions events = []
  unbuilt : builds events = []
  size : (cachedHosts? events).getD before.cache.length = after.cache.length

theorem Registry.Reported.refl (registry : Registry) : registry.Reported registry [] :=
  ⟨rfl, rfl, rfl⟩

theorem Registry.Reported.trans {first second third : Registry} {front back : List Event}
    (earlier : first.Reported second front) (later : second.Reported third back) :
    first.Reported third (front ++ back) := by
  refine ⟨?_, ?_, ?_⟩
  · rw [resolutions_append, earlier.uncounted, later.uncounted, List.append_nil]
  · rw [builds_append, earlier.unbuilt, later.unbuilt, List.append_nil]
  · rw [← later.size, ← earlier.size, cachedHosts?_append]
    cases cachedHosts? back <;> rfl

section Lookup

variable (registry : Registry) (rawHost : String)

theorem Registry.remember_reported (answer : Option ResolvedHost) :
    registry.Reported (registry.remember rawHost answer).1 (registry.remember rawHost answer).2 := by
  unfold Registry.remember
  split
  · exact .refl registry
  · exact ⟨rfl, rfl, rfl⟩

theorem Registry.resolveOwn_reported :
    registry.Reported (registry.resolveOwn rawHost).registry (registry.resolveOwn rawHost).events := by
  unfold Registry.resolveOwn
  split
  · exact .refl registry
  split
  · exact .refl registry
  · exact registry.remember_reported rawHost _

theorem Registry.resolveRequest_reported (request : RequestHost) :
    registry.Reported (registry.resolveRequest request).registry
      (registry.resolveRequest request).events := by
  unfold Registry.resolveRequest
  dsimp only
  split
  · exact registry.resolveOwn_reported _
  · exact .refl registry

theorem Registry.resolveNew_reported :
    registry.Reported (registry.resolveNew rawHost).registry (registry.resolveNew rawHost).events := by
  unfold Registry.resolveNew
  split
  · exact .refl registry
  rename_i request _
  have tried := registry.resolveRequest_reported request
  dsimp only
  split
  · exact tried
  · exact tried.trans (Registry.remember_reported _ rawHost _)

/-- All that a lookup reports are the sizes of the memory on the way and,
last, its own outcome. It counts itself once, however many hosts it tried. -/
theorem Registry.matchHost_events :
    ∃ events, registry.Reported (registry.matchHost rawHost).registry events ∧
      (registry.matchHost rawHost).events = events ++ [.resolution (registry.outcome rawHost)] := by
  unfold Registry.outcome Registry.matchHost
  cases remembered : registry.cached? rawHost with
  | some answer => exact ⟨[], .refl registry, rfl⟩
  | none =>
    refine ⟨_, registry.resolveNew_reported rawHost, ?_⟩
    dsimp only [Option.isSome]
    obtain cause | _ | host := (registry.resolveNew rawHost).answer <;> rfl

theorem Registry.matchHost_resolutions :
    resolutions (registry.matchHost rawHost).events = [registry.outcome rawHost] := by
  obtain ⟨sizes, reported, events⟩ := registry.matchHost_events rawHost
  rw [events, resolutions_append, reported.uncounted]
  rfl

theorem Registry.matchHost_builds : builds (registry.matchHost rawHost).events = [] := by
  obtain ⟨sizes, reported, events⟩ := registry.matchHost_events rawHost
  rw [events, builds_append, reported.unbuilt]
  rfl

/-- After a lookup the last size reported is the size of the memory,
if it was before. -/
theorem Registry.matchHost_cachedHosts {reported : Option Nat}
    (right : reported = some registry.cache.length) :
    (cachedHosts? (registry.matchHost rawHost).events).or reported =
      some (registry.matchHost rawHost).registry.cache.length := by
  obtain ⟨sizes, between, events⟩ := registry.matchHost_events rawHost
  rw [events, cachedHosts?_append, right, ← between.size]
  change (none.or (cachedHosts? sizes)).or _ = _
  cases cachedHosts? sizes <;> rfl

end Lookup

end SiteRouting
