import Mathlib
import SiteRouting.Proofs.Manager.Publication

namespace SiteRouting

/-- What a read of the registry starts a rebuild from, if it attempts one. -/
def Deployment.lazyAttempt? (deployment : Deployment) : Option Source :=
  if deployment.manager.stale then some (deployment.manager.loaded deployment.source) else none

/-- What an operation starts a rebuild from, if it attempts one. Unlike a
pass, an attempt may fail to load anything. -/
def Deployment.attempt? (deployment : Deployment) : Operation → Option Source
  | .load => some (deployment.manager.loaded deployment.source)
  | .replace config => some (.ok config)
  | .invalidate | .sourceChange _ => none
  | .unlockMount identifier _ =>
    if (deployment.manager.locks.lockOf? identifier).isSome then none else deployment.lazyAttempt?
  | _ => deployment.lazyAttempt?

/-- All that the operations of a run start rebuilds from, in order. -/
def Deployment.attempts (deployment : Deployment) : List Operation → List Source
  | [] => []
  | operation :: rest =>
    (deployment.attempt? operation).toList ++ (deployment.next operation).attempts rest

/-- No rebuild was attempted in a run since its start or since an invalidation. -/
def Deployment.Idled (start : Deployment) (operations : List Operation) : Prop :=
  ∃ front back, operations = front ++ back ∧ (front = [] ∨ front.getLast? = some .invalidate) ∧
    (start.run front).attempts back = []

/-- The last rebuild that was attempted in a run could not load a
configuration. -/
def Deployment.FailedLast (start : Deployment) (operations : List Operation) : Prop :=
  ∃ cause, (start.attempts operations).getLast? = some (.error cause)

def Operation.pushedAfter (pushed : Option Configuration) : Operation → Option Configuration
  | .replace config => some config
  | .invalidate => none
  | _ => pushed

/-- Whether an operation leads to a rebuild whatever the state of the
manager, now or at the next read. -/
def Operation.renews : Operation → Bool
  | .load | .replace _ | .invalidate => true
  | _ => false

/-- Whether an operation reads the registry in service whatever the
state of the manager. -/
def Operation.reads : Operation → Bool
  | .registry | .matchHost _ | .matchMount _ _ _ | .mountByIdentifier _ | .mountByAlias _ _ _
  | .lockMount _ _ _ => true
  | _ => false

section Rebuild

variable {manager : Manager} {source : Source}

theorem Manager.loaded_of_unpushed (unpushed : manager.pushed = none) :
    manager.loaded source = source := by
  rw [Manager.loaded, unpushed]

theorem Manager.unpushed_of_loaded {cause : LoadError} (fails : manager.loaded source = .error cause) :
    manager.pushed = none ∧ source = .error cause := by
  cases handed : manager.pushed with
  | none => exact ⟨rfl, (Manager.loaded_of_unpushed handed).symm.trans fails⟩
  | some config =>
    rw [Manager.loaded, handed] at fails
    cases fails

theorem Manager.rebuild_pushed (manager : Manager) (source : Source) :
    (manager.rebuild source).manager.pushed = manager.pushed := by
  unfold Manager.rebuild
  split
  · rfl
  · dsimp only
    split <;> rfl

/-- A rebuild leaves the manager stale if and only if nothing can be loaded;
a refused build does not. -/
theorem Manager.rebuild_stale_iff :
    (manager.rebuild source).manager.stale = true ↔ ∃ cause, manager.loaded source = .error cause := by
  unfold Manager.rebuild
  cases manager.loaded source with
  | error cause => simp
  | ok config =>
    dsimp only
    split <;> simp

end Rebuild

section Step

variable {deployment : Deployment} {operation : Operation}

theorem Deployment.pass?_eq (deployment : Deployment) (operation : Operation) :
    deployment.pass? operation = (deployment.attempt? operation).bind Except.toOption := by
  have lazy : deployment.lazyPass? = deployment.lazyAttempt?.bind Except.toOption := by
    unfold Deployment.lazyPass? Deployment.lazyAttempt?
    split <;> rfl
  cases operation with
  | load | replace | invalidate | sourceChange => rfl
  | unlockMount identifier user =>
    simp only [Deployment.pass?, Deployment.attempt?]
    split
    · rfl
    · exact lazy
  | _ => exact lazy

theorem Deployment.lazyAttempt?_of_stale (stale : deployment.manager.stale = true) :
    deployment.lazyAttempt? = some (deployment.manager.loaded deployment.source) :=
  if_pos stale

theorem Deployment.lazyAttempt?_of_fresh (fresh : deployment.manager.stale = false) :
    deployment.lazyAttempt? = none :=
  if_neg (by simp [fresh])

theorem Deployment.of_lazyAttempt {loaded : Source}
    (attempted : deployment.lazyAttempt? = some loaded) :
    deployment.manager.stale = true ∧ loaded = deployment.manager.loaded deployment.source := by
  obtain ⟨stale, same⟩ := Option.ite_none_right_eq_some.mp attempted
  exact ⟨stale, (Option.some.inj same).symm⟩

theorem Deployment.attempt?_of_reads (reads : operation.reads = true) :
    deployment.attempt? operation = deployment.lazyAttempt? := by
  cases operation with
  | registry | matchHost | matchMount | mountByIdentifier | mountByAlias | lockMount => rfl
  | load | replace | invalidate | sourceChange | unlockMount => cases reads

/-- A read of a stale manager that was handed nothing asks the source. -/
theorem Deployment.attempt?_of_stale (stale : deployment.manager.stale = true)
    (unpushed : deployment.manager.pushed = none) (reads : operation.reads = true) :
    deployment.attempt? operation = some deployment.source := by
  rw [Deployment.attempt?_of_reads reads, Deployment.lazyAttempt?_of_stale stale,
    Manager.loaded_of_unpushed unpushed]

theorem Deployment.registry_pushed (deployment : Deployment) :
    (deployment.manager.registry deployment.source).manager.pushed = deployment.manager.pushed := by
  cases stale : deployment.manager.stale with
  | false => rw [Manager.registry_of_fresh stale]
  | true => rw [Manager.registry_of_stale stale, Manager.rebuild_pushed]

theorem Deployment.registry_stale_iff :
    (deployment.manager.registry deployment.source).manager.stale = true ↔
      ∃ cause, deployment.lazyAttempt? = some (.error cause) := by
  cases stale : deployment.manager.stale with
  | false => simp [Manager.registry_of_fresh stale, Deployment.lazyAttempt?_of_fresh stale, stale]
  | true =>
    simp [Manager.registry_of_stale stale, Deployment.lazyAttempt?_of_stale stale,
      Manager.rebuild_stale_iff]

/-- A read does to what is handed in, and to whether the manager is stale,
just what the read of the registry in it does. -/
theorem Deployment.operate_of_reads (reads : operation.reads = true) :
    (deployment.operate operation).pushed =
        (deployment.manager.registry deployment.source).manager.pushed ∧
      (deployment.operate operation).stale =
        (deployment.manager.registry deployment.source).manager.stale := by
  cases operation with
  | registry | mountByIdentifier | mountByAlias => exact ⟨rfl, rfl⟩
  | matchHost rawHost =>
    have after := deployment.manager.lookUp_manager deployment.source (·.matchHost rawHost)
    exact ⟨congrArg (·.pushed) after, congrArg (·.stale) after⟩
  | matchMount rawHost contextPath path =>
    have after :=
      deployment.manager.lookUp_manager deployment.source (·.matchMount rawHost contextPath path)
    exact ⟨congrArg (·.pushed) after, congrArg (·.stale) after⟩
  | lockMount now identifier user =>
    obtain ⟨locks, after⟩ :=
      deployment.manager.lockMount_manager deployment.source now identifier user
    exact ⟨congrArg (·.pushed) after, congrArg (·.stale) after⟩
  | load | replace | invalidate | sourceChange | unlockMount => cases reads

theorem Deployment.next_pushed (deployment : Deployment) (operation : Operation) :
    (deployment.next operation).manager.pushed =
      operation.pushedAfter deployment.manager.pushed := by
  change (deployment.operate operation).pushed = _
  cases operation with
  | load => exact deployment.manager.rebuild_pushed deployment.source
  | replace config =>
    exact Manager.rebuild_pushed { deployment.manager with pushed := some config } (.ok config)
  | invalidate | sourceChange => rfl
  | unlockMount identifier user =>
    simp only [Deployment.operate, Manager.unlockMount]
    split
    · split <;> rfl
    · exact deployment.registry_pushed
  | registry | matchHost | matchMount | mountByIdentifier | mountByAlias | lockMount =>
    exact (Deployment.operate_of_reads rfl).1.trans deployment.registry_pushed

/-- What makes a manager stale. Of all that was done to it only two things
matter: an attempt that fails to load, or without an attempt an
invalidation now or before. -/
theorem Deployment.next_stale_iff :
    (deployment.next operation).manager.stale = true ↔
      (∃ cause, deployment.attempt? operation = some (.error cause)) ∨
        deployment.attempt? operation = none ∧
          (operation = .invalidate ∨ deployment.manager.stale = true) := by
  change (deployment.operate operation).stale = true ↔ _
  -- A read makes no attempt on a fresh manager only, which it does not make stale.
  have lazy (kept : operation ≠ .invalidate) :
      (deployment.manager.registry deployment.source).manager.stale = true ↔
        (∃ cause, deployment.lazyAttempt? = some (.error cause)) ∨
          deployment.lazyAttempt? = none ∧
            (operation = .invalidate ∨ deployment.manager.stale = true) := by
    rw [Deployment.registry_stale_iff]
    refine (or_iff_left ?_).symm
    rintro ⟨idle, renewed | stale⟩
    · exact kept renewed
    · cases (Deployment.lazyAttempt?_of_stale stale).symm.trans idle
  cases operation with
  | load => simp [Deployment.operate, Deployment.attempt?, Manager.load, Manager.rebuild_stale_iff]
  | replace config =>
    simp [Deployment.operate, Deployment.attempt?, Manager.replace, Manager.rebuild_stale_iff,
      Manager.loaded]
  | invalidate => simp [Deployment.operate, Deployment.attempt?, Manager.invalidate]
  | sourceChange source => simp [Deployment.operate, Deployment.attempt?]
  | unlockMount identifier user =>
    cases held : deployment.manager.locks.lockOf? identifier with
    | none =>
      simp only [Deployment.operate, Manager.unlockMount, Deployment.attempt?, held]
      exact lazy (by simp)
    | some lock =>
      simp only [Deployment.operate, Manager.unlockMount, Deployment.attempt?, held]
      split <;> simp
  | registry | matchHost | matchMount | mountByIdentifier | mountByAlias | lockMount =>
    rw [(Deployment.operate_of_reads rfl).2]
    exact lazy (by simp)

/-- An attempt starts from what is handed in by then, or else from the source. -/
theorem Deployment.eq_loaded_of_attempt {loaded : Source}
    (attempted : deployment.attempt? operation = some loaded) :
    loaded = ({ deployment.manager with
      pushed := operation.pushedAfter deployment.manager.pushed } : Manager).loaded
        deployment.source := by
  cases operation with
  | load => exact (Option.some.inj attempted).symm
  | replace config => exact (Option.some.inj attempted).symm
  | invalidate | sourceChange => cases attempted
  | unlockMount identifier user =>
    exact (Deployment.of_lazyAttempt (Option.ite_none_left_eq_some.mp attempted).2).2
  | registry | matchHost | matchMount | mountByIdentifier | mountByAlias | lockMount =>
    exact (Deployment.of_lazyAttempt attempted).2

theorem Deployment.origin_of_attempt {loaded : Source}
    (unpushed : deployment.manager.stale = true → deployment.manager.pushed = none)
    (attempted : deployment.attempt? operation = some loaded) :
    loaded = deployment.source ∨ (∃ config, operation = .replace config ∧ loaded = .ok config) ∨
      operation = .load ∧ ∃ config, deployment.manager.pushed = some config ∧ loaded = .ok config := by
  have lazy (attempted : deployment.lazyAttempt? = some loaded) : loaded = deployment.source := by
    obtain ⟨stale, same⟩ := Deployment.of_lazyAttempt attempted
    rw [same, Manager.loaded_of_unpushed (unpushed stale)]
  cases operation with
  | load =>
    have same : deployment.manager.loaded deployment.source = loaded := Option.some.inj attempted
    cases handed : deployment.manager.pushed with
    | none => exact Or.inl (same.symm.trans (Manager.loaded_of_unpushed handed))
    | some config =>
      rw [Manager.loaded, handed] at same
      exact Or.inr (Or.inr ⟨rfl, config, rfl, same.symm⟩)
  | replace config => exact Or.inr (Or.inl ⟨config, rfl, (Option.some.inj attempted).symm⟩)
  | invalidate | sourceChange => cases attempted
  | unlockMount identifier user => exact Or.inl (lazy (Option.ite_none_left_eq_some.mp attempted).2)
  | registry | matchHost | matchMount | mountByIdentifier | mountByAlias | lockMount =>
    exact Or.inl (lazy attempted)

/-- A stale manager has been handed no configuration, and no operation
changes that. -/
theorem Deployment.next_unpushed
    (unpushed : deployment.manager.stale = true → deployment.manager.pushed = none)
    (stale : (deployment.next operation).manager.stale = true) :
    (deployment.next operation).manager.pushed = none := by
  rw [Deployment.next_pushed]
  rcases Deployment.next_stale_iff.mp stale with ⟨cause, failed⟩ | ⟨idle, rfl | before⟩
  · have loaded := Deployment.eq_loaded_of_attempt failed
    exact (Manager.unpushed_of_loaded loaded.symm).1
  · rfl
  · rw [unpushed before]
    cases operation with
    | replace config => cases idle
    | _ => rfl

end Step

section Run

variable {start : Deployment}

theorem Deployment.attempts_append (start : Deployment) (front back : List Operation) :
    start.attempts (front ++ back) = start.attempts front ++ (start.run front).attempts back := by
  induction front generalizing start with
  | nil => rfl
  | cons operation rest ih =>
    rw [List.cons_append, Deployment.attempts, Deployment.attempts, ih, List.append_assoc]
    rfl

theorem Deployment.attempts_singleton (start : Deployment) (operation : Operation) :
    start.attempts [operation] = (start.attempt? operation).toList :=
  List.append_nil _

theorem Deployment.passes_eq (start : Deployment) (operations : List Operation) :
    start.passes operations = (start.attempts operations).filterMap Except.toOption := by
  induction operations generalizing start with
  | nil => rfl
  | cons operation rest ih =>
    rw [Deployment.passes, Deployment.attempts, ih, Deployment.pass?_eq, List.filterMap_append]
    cases start.attempt? operation with
    | none => rfl
    | some loaded => cases loaded <;> rfl

theorem Deployment.idled_concat {operations : List Operation} {operation : Operation} :
    start.Idled (operations ++ [operation]) ↔
      (start.run operations).attempt? operation = none ∧
        (operation = .invalidate ∨ start.Idled operations) := by
  constructor
  · rintro ⟨front, back, whole, reset, idle⟩
    rcases List.eq_nil_or_concat' back with rfl | ⟨init, last, rfl⟩
    · rw [List.append_nil] at whole
      subst whole
      have invalidated : operation = .invalidate := by simpa using reset
      exact ⟨invalidated ▸ rfl, Or.inl invalidated⟩
    · rw [← List.append_assoc] at whole
      obtain ⟨rfl, same⟩ := List.append_inj' whole rfl
      cases same
      rw [Deployment.attempts_append, Deployment.attempts_singleton, List.append_eq_nil_iff,
        Option.toList_eq_nil_iff] at idle
      rw [Deployment.run_append]
      exact ⟨idle.2, Or.inr ⟨front, init, rfl, reset, idle.1⟩⟩
  · rintro ⟨unattempted, rfl | ⟨front, back, rfl, reset, idle⟩⟩
    · exact ⟨operations ++ [.invalidate], [], (List.append_nil _).symm, Or.inr (by simp), rfl⟩
    · refine ⟨front, back ++ [operation], List.append_assoc .., reset, ?_⟩
      rw [Deployment.run_append] at unattempted
      rw [Deployment.attempts_append, Deployment.attempts_singleton, idle, unattempted]
      rfl

theorem Deployment.failedLast_concat {operations : List Operation} {operation : Operation} :
    start.FailedLast (operations ++ [operation]) ↔
      (∃ cause, (start.run operations).attempt? operation = some (.error cause)) ∨
        (start.run operations).attempt? operation = none ∧ start.FailedLast operations := by
  rw [Deployment.FailedLast, Deployment.FailedLast, Deployment.attempts_append,
    Deployment.attempts_singleton]
  cases (start.run operations).attempt? operation with
  | none => simp
  | some loaded => simp

/-- A manager that has just been made is stale. After a run it is stale
exactly if the run attempted nothing since its start or since an
invalidation, or its last attempt failed. -/
theorem Deployment.run_stale_iff (made : start.manager.stale = true) (operations : List Operation) :
    (start.run operations).manager.stale = true ↔
      start.Idled operations ∨ start.FailedLast operations := by
  induction operations using List.reverseRecOn with
  | nil => exact iff_of_true made (Or.inl ⟨[], [], rfl, Or.inl rfl, rfl⟩)
  | append_singleton operations operation ih =>
    have last : start.run (operations ++ [operation]) = (start.run operations).next operation :=
      start.run_append operations [operation]
    rw [last, Deployment.next_stale_iff, ih, Deployment.idled_concat, Deployment.failedLast_concat]
    tauto

theorem Deployment.run_unpushed
    (unpushed : start.manager.stale = true → start.manager.pushed = none)
    (operations : List Operation) (stale : (start.run operations).manager.stale = true) :
    (start.run operations).manager.pushed = none := by
  induction operations generalizing start with
  | nil => exact unpushed stale
  | cons operation rest ih => exact ih (Deployment.next_unpushed unpushed) stale

/-- Once a configuration was loaded, whether its build was accepted or
refused, nothing is attempted until one is loaded, replaced or invalidated. -/
theorem Deployment.attempts_of_fresh (fresh : start.manager.stale = false) {later : List Operation}
    (kept : ∀ operation ∈ later, operation.renews = false) : start.attempts later = [] := by
  induction later generalizing start with
  | nil => rfl
  | cons operation rest ih =>
    have keeps := kept operation List.mem_cons_self
    have idle : start.attempt? operation = none := by
      have lazy := Deployment.lazyAttempt?_of_fresh fresh
      cases operation with
      | load | replace | invalidate => cases keeps
      | sourceChange source => rfl
      | unlockMount identifier user => exact (ite_eq_left_iff.mpr fun _ => lazy)
      | registry | matchHost | matchMount | mountByIdentifier | mountByAlias | lockMount => exact lazy
    have still : (start.next operation).manager.stale = false := by
      rw [← Bool.not_eq_true, Deployment.next_stale_iff, idle]
      rintro (⟨cause, failed⟩ | ⟨_, rfl | stale⟩)
      · cases failed
      · cases keeps
      · cases fresh.symm.trans stale
    rw [Deployment.attempts, idle, ih still fun next member => kept next (List.mem_cons_of_mem _ member)]
    rfl

/-- A source that fails to load is asked again by every read. -/
theorem Deployment.attempts_of_failing {cause : LoadError} (stale : start.manager.stale = true)
    (unpushed : start.manager.pushed = none) (fails : start.source = .error cause)
    {later : List Operation} (reads : ∀ operation ∈ later, operation.reads = true) :
    start.attempts later = List.replicate later.length (.error cause) ∧
      (start.run later).manager.stale = true := by
  induction later generalizing start with
  | nil => exact ⟨rfl, stale⟩
  | cons operation rest ih =>
    have isRead := reads operation List.mem_cons_self
    have attempted : start.attempt? operation = some (.error cause) :=
      fails ▸ Deployment.attempt?_of_stale stale unpushed isRead
    have still : (start.next operation).manager.stale = true :=
      Deployment.next_stale_iff.mpr (Or.inl ⟨cause, attempted⟩)
    have source : (start.next operation).source = .error cause := by
      cases operation with
      | sourceChange => cases isRead
      | _ => exact fails
    obtain ⟨asked, stays⟩ := ih still (Deployment.next_unpushed (fun _ => unpushed) still) source
      fun next member => reads next (List.mem_cons_of_mem _ member)
    refine ⟨?_, stays⟩
    rw [Deployment.attempts, attempted, asked]
    rfl

end Run

/-- After any run of operations, with any answers of the source, a stale
manager has been handed no configuration, so that only a load rebuilds one
that was, and every other attempt starts from the source. A manager is stale
exactly if nothing was attempted since it was made or invalidated, or the
last attempt failed to load; an attempt is counted exactly if it loads. So
the first read after an invalidation builds from the source; a read of a
fresh manager changes nothing and does not ask the source; a configuration
that was loaded, even if its build was refused, is built once; and a source
that fails is asked by every read until it loads. -/
theorem Manager.run_staleness (policy : BuildPolicy) (source : Source) (operations : List Operation) :
    let start : Deployment := ⟨Manager.new policy, source⟩
    let reached := start.run operations
    (reached.manager.stale = true → reached.manager.pushed = none) ∧
      (∀ operation loaded, reached.attempt? operation = some loaded →
        loaded = reached.source ∨ (∃ config, operation = .replace config ∧ loaded = .ok config) ∨
          operation = .load ∧ ∃ config, reached.manager.pushed = some config ∧ loaded = .ok config) ∧
      (reached.manager.stale = true ↔ start.Idled operations ∨ start.FailedLast operations) ∧
      reached.manager.generation = ((start.attempts operations).filterMap Except.toOption).length ∧
      (∀ answered, reached.manager.stale = true →
        (reached.manager.registry answered).manager = (reached.manager.rebuild answered).manager ∧
        reached.manager.loaded answered = answered) ∧
      (∀ answered, reached.manager.stale = false →
        reached.manager.registry answered =
          ⟨(reached.manager.current.map Except.ok).getD (.error .notConfigured), reached.manager, []⟩) ∧
      (∀ between, (reached.next .invalidate).attempts between = [] →
        let later := (reached.next .invalidate).run between
        ∀ read, read.reads = true → later.attempt? read = some later.source) ∧
      (∀ operation config later, reached.attempt? operation = some (.ok config) →
        (∀ next ∈ later, next.renews = false) → (reached.next operation).attempts later = []) ∧
      ∀ cause later, reached.manager.stale = true → reached.source = .error cause →
        (∀ read ∈ later, read.reads = true) →
        reached.attempts later = List.replicate later.length (.error cause) ∧
        ∀ config read, read.reads = true →
          ((reached.run later).next (.sourceChange (.ok config))).attempt? read = some (.ok config) := by
  intro start reached
  have unpushed : reached.manager.stale = true → reached.manager.pushed = none :=
    start.run_unpushed (fun _ => rfl) operations
  refine ⟨unpushed, fun _ _ => Deployment.origin_of_attempt unpushed,
    Deployment.run_stale_iff rfl operations, ?_, ?_, ?_, ?_, ?_, ?_⟩
  · have made : start.manager.Publishes policy [] := Manager.Publishes.new policy
    rw [(made.run operations).generation, List.nil_append, Deployment.passes_eq]
  · intro answered stale
    exact ⟨Manager.registry_of_stale stale, Manager.loaded_of_unpushed (unpushed stale)⟩
  · exact fun _ => Manager.registry_eq_of_fresh
  · intro between idle later read reads
    have stale : later.manager.stale = true :=
      (Deployment.run_stale_iff rfl between).mpr (Or.inl ⟨[], between, rfl, Or.inl rfl, idle⟩)
    exact Deployment.attempt?_of_stale stale (Deployment.run_unpushed (fun _ => rfl) between stale) reads
  · intro operation config later attempted kept
    have fresh : (reached.next operation).manager.stale = false := by
      rw [← Bool.not_eq_true, Deployment.next_stale_iff, attempted]
      simp
    exact Deployment.attempts_of_fresh fresh kept
  · intro cause later stale fails reads
    obtain ⟨asked, stays⟩ := Deployment.attempts_of_failing stale (unpushed stale) fails reads
    have stillUnpushed : (reached.run later).manager.pushed = none :=
      Deployment.run_unpushed unpushed later stays
    exact ⟨asked, fun config read isRead => Deployment.attempt?_of_stale stays stillUnpushed isRead⟩

/-- A configuration is handed in and invalidated, and then there is no
source to build from. -/
def abandonedRun : List Operation :=
  [.replace {}, .invalidate, .sourceChange (.error .unreadable), .registry]

theorem abandonedRun_retries :
    let start : Deployment := ⟨Manager.new .lenient, .ok {}⟩
    let reached := start.run abandonedRun
    reached.manager.generation = 1 ∧ reached.manager.stale = true ∧ reached.manager.pushed = none ∧
      reached.attempts [.registry, .matchHost "localhost"] =
        [.error .unreadable, .error .unreadable] ∧
      ((reached.run [.registry, .matchHost "localhost"]).next (.sourceChange (.ok {}))).attempt?
        .registry = some (.ok {}) := by
  intro start reached
  have built : reached.manager.generation = 1 := by decide +kernel
  have stale : reached.manager.stale = true := by decide +kernel
  have reads : ∀ read ∈ [Operation.registry, .matchHost "localhost"], read.reads = true := by
    simp [Operation.reads]
  obtain ⟨unpushed, _, _, _, _, _, _, _, retries⟩ :=
    Manager.run_staleness .lenient (.ok {}) abandonedRun
  obtain ⟨asked, loads⟩ := retries .unreadable [.registry, .matchHost "localhost"] stale rfl reads
  exact ⟨built, stale, unpushed stale, asked, loads {} .registry rfl⟩

end SiteRouting
