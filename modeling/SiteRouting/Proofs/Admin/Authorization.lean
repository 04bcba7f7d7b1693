import Mathlib
import SiteRouting.Proofs.Admin.History

namespace SiteRouting

open Http

theorem Text.dropInitial?_eq_some_iff {initial s rest : String} :
    Text.dropInitial? initial s = some rest ↔ s = initial ++ rest := by
  unfold Text.dropInitial?
  rw [Option.ite_none_right_eq_some, List.isPrefixOf_iff_prefix, List.prefix_iff_eq_append,
    Option.some.injEq, ← String.toList_inj, ← String.toList_inj, String.toList_ofList,
    String.toList_append]
  constructor
  · rintro ⟨whole, behind⟩
    rw [← behind, whole]
  · intro whole
    rw [whole, List.drop_left]
    exact ⟨rfl, rfl⟩

/-- The first header of a name, given in lowercase, has a value. -/
def Http.Request.Sends (request : Request) (name value : String) : Prop :=
  ∃ before header after, request.headers = before ++ header :: after ∧
    headerName header.1 = name ∧ header.2 = value ∧
    ∀ earlier ∈ before, headerName earlier.1 ≠ name

theorem Http.Request.header?_eq_some_iff {request : Request} {name value : String} :
    request.header? name = some value ↔ request.Sends name value := by
  simp only [Request.header?, Option.map_eq_some_iff, List.find?_eq_some_iff_append, beq_iff_eq,
    Bool.not_eq_true', beq_eq_false_iff_ne]
  constructor
  · rintro ⟨header, ⟨named, before, after, headers, others⟩, rfl⟩
    exact ⟨before, header, after, headers, named, rfl, others⟩
  · rintro ⟨before, header, after, headers, named, rfl, others⟩
    exact ⟨header, ⟨named, before, after, headers, others⟩, rfl⟩

theorem Http.Request.header?_eq_none_iff {request : Request} {name : String} :
    request.header? name = none ↔ ∀ header ∈ request.headers, headerName header.1 ≠ name := by
  simp only [Request.header?, Option.map_eq_none_iff, List.find?_eq_none, beq_iff_eq]

theorem Http.isReadable_eq_false_iff {value : String} :
    isReadable value = false ↔
      ∃ c ∈ value.toList, c ≠ '\t' ∧ (c.toNat < 0x20 ∨ 0x7F ≤ c.toNat) := by
  simp only [isReadable, List.all_eq_false, Bool.or_eq_true, beq_iff_eq, Bool.and_eq_true,
    decide_eq_true_eq, not_or, not_and_or, Nat.not_le, Nat.not_lt]

namespace Admin

/-- Why a request does not present a key. The admin service answers all
requests of this kind alike and forgets them. -/
inductive LacksKey (request : Request) (key : String) : Prop where
  | missing (absent : ∀ header ∈ request.headers, headerName header.1 ≠ "authorization")
  | unreadable (value : String) (sends : request.Sends "authorization" value)
      (hidden : ∃ c ∈ value.toList, c ≠ '\t' ∧ (c.toNat < 0x20 ∨ 0x7F ≤ c.toNat))
  | otherScheme (value : String) (sends : request.Sends "authorization" value)
      (other : ∀ rest, value ≠ "Bearer " ++ rest)
  | otherKey (rest : String) (sends : request.Sends "authorization" ("Bearer " ++ rest))
      (other : Text.trim rest ≠ key)

theorem bearerKey?_eq_some_iff {request : Request} {key : String} :
    bearerKey? request = some key ↔
      ∃ rest, request.header? "authorization" = some ("Bearer " ++ rest) ∧
        isReadable ("Bearer " ++ rest) ∧ Text.trim rest = key := by
  simp only [bearerKey?, Request.text?, Option.map_eq_some_iff, Option.bind_eq_some_iff,
    Option.filter_eq_some_iff, Text.dropInitial?_eq_some_iff]
  constructor
  · rintro ⟨rest, ⟨_, ⟨sent, readable⟩, rfl⟩, trimmed⟩
    exact ⟨rest, sent, readable, trimmed⟩
  · rintro ⟨rest, sent, readable, trimmed⟩
    exact ⟨rest, ⟨_, ⟨sent, readable⟩, rfl⟩, trimmed⟩

/-- A request presents a key unless one of the reasons against it applies, so
the reasons are complete. -/
theorem lacksKey_iff {request : Request} {key : String} :
    LacksKey request key ↔ bearerKey? request ≠ some key := by
  rw [Ne, bearerKey?_eq_some_iff]
  constructor
  · rintro reason ⟨rest, sent, readable, trimmed⟩
    have unique {value : String} (sends : request.Sends "authorization" value) :
        value = "Bearer " ++ rest :=
      Option.some.inj ((Request.header?_eq_some_iff.mpr sends).symm.trans sent)
    cases reason with
    | missing absent => cases (Request.header?_eq_none_iff.mpr absent).symm.trans sent
    | unreadable value sends hidden =>
      have refused := isReadable_eq_false_iff.mpr hidden
      rw [unique sends, readable] at refused
      cases refused
    | otherScheme value sends other => exact other rest (unique sends)
    | otherKey behind sends other =>
      have same : behind = rest := by
        rw [← String.toList_inj]
        simpa using congrArg String.toList (unique sends)
      exact other (same ▸ trimmed)
  · intro presentsNot
    cases sent : request.header? "authorization" with
    | none => exact .missing (Request.header?_eq_none_iff.mp sent)
    | some value =>
      have sends := Request.header?_eq_some_iff.mp sent
      cases readable : isReadable value with
      | false => exact .unreadable value sends (isReadable_eq_false_iff.mp readable)
      | true =>
        by_cases bearer : ∃ rest, value = "Bearer " ++ rest
        · obtain ⟨rest, rfl⟩ := bearer
          exact .otherKey rest sends fun trimmed => presentsNot ⟨rest, sent, readable, trimmed⟩
        · exact .otherScheme value sends (not_exists.mp bearer)

instance (request : Request) (key : String) : Decidable (LacksKey request key) :=
  decidable_of_iff _ lacksKey_iff.symm

theorem isAdmitted_eq_false_iff {settings : AdminSettings} {request : Request} :
    isAdmitted settings request = false ↔ LacksKey request settings.apiKey := by
  rw [lacksKey_iff, isAdmitted, beq_eq_false_iff_ne]

/-- Nothing of a request without the key gets past the check, whatever
it asks for. -/
theorem serve_of_lacksKey {settings : AdminSettings} {request : Request}
    (lacks : LacksKey request settings.apiKey) (manager : Manager) (source : Source) (now : Nat) :
    serve settings manager source now request = ⟨⟨401, none, request.identifier?⟩, manager, []⟩ := by
  rw [serve, isAdmitted_eq_false_iff.mpr lacks]
  rfl

section Statuses

variable {manager : Manager} {source : Source} {now : Nat} {request : Request}

theorem status_ofRead_ne {read : Except MatchError Answer}
    (answered : ∀ answer, read = .ok answer → answer.status ≠ 401) :
    (Answer.ofRead read).status ≠ 401 := by
  cases read with
  | ok answer => exact answered answer rfl
  | error cause =>
    cases cause <;> simp [Answer.ofRead, Answer.refused, Answer.failed, MatchError.status]

theorem status_read_ne {query : Registry → Except MatchError Answer}
    (answered : ∀ registry answer, query registry = .ok answer → answer.status ≠ 401) :
    (Answer.ofRead (manager.read source query).answer).status ≠ 401 := by
  refine status_ofRead_ne fun answer isAnswer => ?_
  change (manager.registry source).answer.bind query = .ok answer at isAnswer
  cases inService : (manager.registry source).answer with
  | error cause =>
    rw [inService] at isAnswer
    cases isAnswer
  | ok registry =>
    rw [inService] at isAnswer
    exact answered registry answer isAnswer

theorem status_resolvedAnswer_ne (rawHost path : String) (contextPath : Option String)
    (found : Option ResolvedHost) : (resolvedAnswer rawHost path contextPath found).status ≠ 401 := by
  unfold resolvedAnswer
  split
  · simp [Answer.failed]
  · split <;> simp [Answer.failed]

theorem status_resolve_ne : (resolve manager source request).answer.status ≠ 401 := by
  unfold resolve
  split
  · simp
  split
  · simp [Answer.refused, Answer.failed, MatchError.status]
  · rename_i rawHost _
    refine status_ofRead_ne fun answer isAnswer => ?_
    cases found : (manager.matchHost source rawHost).answer with
    | error cause =>
      rw [found] at isAnswer
      cases isAnswer
    | ok host =>
      rw [found] at isAnswer
      cases isAnswer
      exact status_resolvedAnswer_ne _ _ _ host

theorem status_lockUser_ne {status : Nat} (refused : lockUser request = .error status) :
    status ≠ 401 := by
  unfold lockUser at refused
  split at refused
  · cases refused
    decide
  · split at refused <;> cases refused <;> decide

theorem status_notLocked_ne (cause : LockError) : (Answer.notLocked cause).status ≠ 401 := by
  cases cause <;> simp [Answer.notLocked, Answer.failed]

theorem status_run_ne (command : Command) :
    (run manager source now request command).answer.status ≠ 401 := by
  cases command with
  | status | issues =>
    dsimp only [run, status, issues]
    refine status_read_ne fun registry answer found => ?_
    cases found
    simp
  | resolve =>
    dsimp only [run]
    exact status_resolve_ne
  | mount identifier =>
    dsimp only [run, showMount]
    refine status_read_ne fun registry answer found => ?_
    cases found
    split <;> simp [Answer.failed]
  | aliased group aliasName mountType =>
    dsimp only [run, showAlias]
    refine status_read_ne fun registry answer found => ?_
    cases looked : registry.mountByAlias group aliasName mountType with
    | error cause =>
      rw [looked] at found
      cases found
    | ok mount =>
      rw [looked] at found
      cases found
      cases mount <;> simp [Answer.failed]
  | lock identifier =>
    dsimp only [run, lock]
    cases read : lockUser request with
    | error status => exact status_lockUser_ne read
    | ok user =>
      dsimp only
      cases (manager.lockMount source now identifier user).answer with
      | ok lock => simp
      | error cause => exact status_notLocked_ne cause
  | unlock identifier =>
    dsimp only [run, unlock]
    cases read : lockUser request with
    | error status => exact status_lockUser_ne read
    | ok user =>
      dsimp only
      cases (manager.unlockMount source identifier user).answer with
      | ok released => simp
      | error cause => exact status_notLocked_ne cause
  | invalidate => simp [run]

theorem status_routed_ne : (routed manager source now request).answer.status ≠ 401 := by
  unfold routed
  split
  · simp
  split
  · simp
  dsimp only
  split
  · simp
  · exact status_run_ne _

/-- The status of a missing key is given for nothing else, since no command
turns a request away for its key. -/
theorem status_serve_eq_iff {settings : AdminSettings} :
    (serve settings manager source now request).answer.status = 401 ↔
      LacksKey request settings.apiKey := by
  constructor
  · intro turnedAway
    by_contra presents
    have admitted : isAdmitted settings request = true := by
      rw [← Bool.not_eq_false, isAdmitted_eq_false_iff]
      exact presents
    simp only [serve, admitted, if_true] at turnedAway
    exact status_routed_ne turnedAway
  · intro lacks
    rw [serve_of_lacksKey lacks]

end Statuses

end Admin

/-- A request that does not present the key, told from the request and
the settings alone. -/
def Incident.IsUnheard (settings : AdminSettings) : Incident → Prop
  | .operation _ => False
  | .request _ asked => Admin.LacksKey asked settings.apiKey

instance (settings : AdminSettings) : DecidablePred (Incident.IsUnheard settings)
  | .operation _ => instDecidableFalse
  | .request _ asked => inferInstanceAs (Decidable (Admin.LacksKey asked settings.apiKey))

/-- The incidents of a history, each with the manager and the source
that it finds. -/
def Deployment.encounters (deployment : Deployment) (settings : AdminSettings) :
    List Incident → List (Incident × Deployment)
  | [] => []
  | incident :: rest => (incident, deployment) :: (deployment.meet settings incident).encounters settings rest

theorem Deployment.meet_of_isUnheard {settings : AdminSettings} {incident : Incident}
    (unheard : incident.IsUnheard settings) (deployment : Deployment) :
    deployment.meet settings incident = deployment := by
  cases incident with
  | operation operation => exact unheard.elim
  | request now asked => rw [Deployment.meet, Admin.serve_of_lacksKey unheard]

/-- A history without its unheard requests: every incident in it finds what
it found before, and in the end nothing is different. -/
theorem Deployment.encounters_filter (deployment : Deployment) (settings : AdminSettings)
    (history : List Incident) :
    let heard := history.filter (¬ ·.IsUnheard settings)
    deployment.encounters settings heard =
        (deployment.encounters settings history).filter (¬ ·.1.IsUnheard settings) ∧
      deployment.after settings heard = deployment.after settings history := by
  induction history generalizing deployment with
  | nil => exact ⟨rfl, rfl⟩
  | cons incident rest ih =>
    dsimp only
    obtain ⟨found, reached⟩ := ih (deployment.meet settings incident)
    by_cases unheard : incident.IsUnheard settings
    · rw [Deployment.meet_of_isUnheard unheard] at found reached
      rw [List.filter_cons_of_neg (by simpa using unheard), Deployment.encounters,
        List.filter_cons_of_neg (by simpa using unheard), Deployment.meet_of_isUnheard unheard]
      refine ⟨found, reached.trans ?_⟩
      rw [Deployment.after, Deployment.after, List.foldl_cons, Deployment.meet_of_isUnheard unheard]
    · rw [List.filter_cons_of_pos (by simpa using unheard), Deployment.encounters,
        Deployment.encounters, List.filter_cons_of_pos (by simpa using unheard), found]
      exact ⟨rfl, reached⟩

/-- Requests without the key have no effect. They, and no others, are turned
away as unauthorized. Each of them is answered alike in every state of the
manager, at any time and with any source, changes nothing of the manager and
moves no counter and no gauge. So with all of them taken out of a history,
everything else that happens finds the same manager and the same source, and
the history leads to the same end. -/
theorem Admin.serve_unauthenticated (settings : AdminSettings) :
    (∀ request manager source now, (serve settings manager source now request).answer.status = 401 ↔
      LacksKey request settings.apiKey) ∧
    (∀ request, LacksKey request settings.apiKey → ∀ manager source now,
      let step := serve settings manager source now request
      step.answer = ⟨401, none, request.identifier?⟩ ∧ step.manager = manager ∧ step.events = []) ∧
    ∀ (start : Deployment) (history : List Incident),
      let heard := history.filter (¬ ·.IsUnheard settings)
      start.encounters settings heard =
          (start.encounters settings history).filter (¬ ·.1.IsUnheard settings) ∧
        start.after settings heard = start.after settings history := by
  refine ⟨fun _ _ _ _ => status_serve_eq_iff, ?_, ?_⟩
  · intro request lacks manager source now
    rw [serve_of_lacksKey lacks]
    exact ⟨rfl, rfl, rfl⟩
  · intro start history
    exact start.encounters_filter settings history

/-- A read with a wrong key in the first of its headers. -/
def guessedRequest : Request where
  method := "GET"
  target := "/admin/status"
  headers := [("AUTHORIZATION", "Bearer guess"), ("Authorization", "Bearer secret")]

theorem guessedRequest_unauthenticated :
    let settings : AdminSettings := { apiKey := "secret" }
    let serve := Admin.serve settings (Manager.new .lenient) (.ok {}) 0
    let keyed := { guessedRequest with headers := guessedRequest.headers.drop 1 }
    (serve keyed).manager.generation = 1 ∧
      Admin.LacksKey guessedRequest settings.apiKey ∧ (serve guessedRequest).answer.status = 401 ∧
      (serve guessedRequest).manager = Manager.new .lenient ∧ (serve guessedRequest).events = [] := by
  intro settings serve keyed
  have lacks : Admin.LacksKey guessedRequest settings.apiKey := by decide
  obtain ⟨answer, manager, events⟩ :=
    (Admin.serve_unauthenticated settings).2.1 guessedRequest lacks (Manager.new .lenient) (.ok {}) 0
  have built : (serve keyed).manager.generation = 1 := by decide +kernel
  exact ⟨built, lacks, congrArg (·.status) answer, manager, events⟩

end SiteRouting
