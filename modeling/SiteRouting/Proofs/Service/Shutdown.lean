import Mathlib
import SiteRouting.Shutdown

namespace SiteRouting

def Shutdown.run (shutdown : Shutdown) (steps : List ShutdownStep) : Shutdown :=
  steps.foldl (fun current step => (current.step step).1) shutdown

/-- A task that has seen some steps is done: there was a trigger among
them, and later a poll. -/
abbrev TaskDone (seen : List ShutdownStep) : Prop :=
  [ShutdownStep.trigger, .poll].Sublist seen

/-- The tasks that wait after a run, the oldest one first, each shown by
the steps since it began. -/
def tasksAfter : List ShutdownStep → List (List ShutdownStep)
  | [] => []
  | step :: rest =>
    if step = .wait ∧ ¬ TaskDone rest then rest :: tasksAfter rest else tasksAfter rest

/-- The tasks that wait after one more step. They all see it, but a poll ends
those that have seen a trigger. -/
def tasksThen (tasks : List (List ShutdownStep)) (step : ShutdownStep) : List (List ShutdownStep) :=
  (tasks.filter fun seen => ¬ (step = .poll ∧ .trigger ∈ seen)).map (· ++ [step]) ++
    if step = .wait then [[]] else []

/-- A task that began after a number of messages has seen some steps since. -/
structure Shutdown.Saw (shutdown : Shutdown) (since : Nat) (seen : List ShutdownStep) : Prop where
  since_le : since ≤ shutdown.sent
  triggered : since < shutdown.sent ↔ .trigger ∈ seen

theorem Shutdown.isReady_iff {shutdown : Shutdown} {since : Nat} :
    shutdown.isReady since = true ↔ since < shutdown.sent := by
  unfold Shutdown.isReady Shutdown.receipt?
  split
  · rename_i early
    simpa using early
  · rename_i late
    split <;> simpa using late

theorem Shutdown.poll_eq (shutdown : Shutdown) :
    shutdown.poll =
      ({ shutdown with waiting := shutdown.waiting.filter (!shutdown.isReady ·) },
        (shutdown.waiting.filter shutdown.isReady).length) := by
  rw [Shutdown.poll, List.partition_eq_filter_filter]
  rfl

theorem isSuffix_of_mem_tasksAfter {steps seen : List ShutdownStep} (task : seen ∈ tasksAfter steps) :
    seen <:+ steps := by
  induction steps with
  | nil => cases task
  | cons first rest ih =>
    have later (task : seen ∈ tasksAfter rest) : seen <:+ first :: rest :=
      (ih task).trans (List.suffix_cons first rest)
    unfold tasksAfter at task
    split at task
    · rcases List.mem_cons.mp task with rfl | task
      · exact List.suffix_cons first seen
      · exact later task
    · exact later task

/-- A task is done if it was done before, or if it is polled now and
has seen a trigger. -/
theorem taskDone_concat {seen : List ShutdownStep} {step : ShutdownStep} :
    TaskDone (seen ++ [step]) ↔ TaskDone seen ∨ step = .poll ∧ .trigger ∈ seen := by
  have backward (seen : List ShutdownStep) :
      TaskDone seen ↔ [ShutdownStep.poll, .trigger].Sublist seen.reverse := by
    rw [TaskDone, ← List.reverse_sublist]
    rfl
  rw [backward, backward, List.reverse_concat', List.cons_sublist_cons', List.singleton_sublist,
    List.mem_reverse, eq_comm]

theorem tasksAfter_concat (steps : List ShutdownStep) (step : ShutdownStep) :
    tasksAfter (steps ++ [step]) = tasksThen (tasksAfter steps) step := by
  induction steps with
  | nil => simp [tasksAfter, tasksThen]
  | cons first rest ih =>
    simp only [List.cons_append, tasksAfter, ih, taskDone_concat]
    by_cases waits : first = .wait ∧ ¬ TaskDone rest
    · rw [if_pos waits]
      by_cases ends : step = .poll ∧ .trigger ∈ rest
      · rw [if_neg fun pending => pending.2 (Or.inr ends), tasksThen, tasksThen,
          List.filter_cons_of_neg (by simp [ends])]
      · have pending : ¬ (TaskDone rest ∨ step = .poll ∧ .trigger ∈ rest) := by
          rintro (done | now)
          · exact waits.2 done
          · exact ends now
        rw [if_pos ⟨waits.1, pending⟩, tasksThen, tasksThen,
          List.filter_cons_of_pos (by simpa using not_and_or.mp ends)]
        rfl
    · have done : first = .wait → TaskDone rest := by simpa using waits
      rw [if_neg waits, if_neg]
      rintro ⟨isWait, pending⟩
      exact pending (Or.inl (done isWait))

section Saw

variable {shutdown after : Shutdown} {since : Nat} {seen : List ShutdownStep}
  {tasks : List (List ShutdownStep)}

/-- A step that sends nothing leaves a task as it was, if it is no trigger. -/
theorem Shutdown.Saw.quiet (saw : shutdown.Saw since seen) {step : ShutdownStep}
    (sent : after.sent = shutdown.sent) (other : step ≠ .trigger) : after.Saw since (seen ++ [step]) := by
  refine ⟨sent ▸ saw.since_le, ?_⟩
  rw [sent, saw.triggered, List.mem_append, List.mem_singleton]
  exact (or_iff_left other.symm).symm

theorem Shutdown.Saw.sent (saw : shutdown.Saw since seen) (sent : after.sent = shutdown.sent + 1) :
    after.Saw since (seen ++ [.trigger]) := by
  have before := saw.since_le
  refine ⟨by omega, iff_of_true (by omega) ?_⟩
  exact List.mem_append_right seen List.mem_cons_self

theorem Shutdown.saw_of_unpolled (saw : List.Forall₂ shutdown.Saw shutdown.waiting tasks)
    {step : ShutdownStep} (unpolled : step ≠ .poll)
    (told : ∀ since seen, shutdown.Saw since seen → after.Saw since (seen ++ [step])) :
    List.Forall₂ after.Saw shutdown.waiting
      ((tasks.filter fun seen => ¬ (step = .poll ∧ .trigger ∈ seen)).map (· ++ [step])) := by
  have kept : (tasks.filter fun seen => ¬ (step = .poll ∧ .trigger ∈ seen)) = tasks :=
    List.filter_eq_self.mpr (by simp [unpolled])
  rw [kept, List.forall₂_map_right_iff]
  exact saw.imp told

theorem Shutdown.saw_poll (saw : List.Forall₂ shutdown.Saw shutdown.waiting tasks) :
    List.Forall₂ shutdown.poll.1.Saw shutdown.poll.1.waiting (tasksThen tasks .poll) := by
  have agree : ∀ since seen, shutdown.Saw since seen →
      ((!shutdown.isReady since) = true ↔
        decide (¬ (ShutdownStep.poll = .poll ∧ .trigger ∈ seen)) = true) := by
    intro since seen saw
    simp [← saw.triggered, ← Shutdown.isReady_iff]
  rw [tasksThen, if_neg (by simp), List.append_nil, Shutdown.poll_eq, List.forall₂_map_right_iff]
  exact (List.rel_filter agree saw).imp fun _ _ saw => saw.quiet rfl (by simp)

/-- A trigger reaches every task that waits; it is not sent only if
there is none. -/
theorem Shutdown.saw_trigger (saw : List.Forall₂ shutdown.Saw shutdown.waiting tasks) :
    List.Forall₂ shutdown.trigger.Saw shutdown.trigger.waiting (tasksThen tasks .trigger) := by
  rw [tasksThen, if_neg (by simp), List.append_nil]
  by_cases alone : shutdown.listeners = 0
  · have nobody : shutdown.waiting = [] := by
      have none_waits : shutdown.waiting.length = 0 := by
        rw [Shutdown.listeners] at alone
        omega
      exact List.length_eq_zero_iff.mp none_waits
    rw [nobody, List.forall₂_nil_left_iff] at saw
    simp [Shutdown.trigger, alone, nobody, saw]
  · have sends : shutdown.trigger = { shutdown with sent := shutdown.sent + 1 } := if_neg alone
    rw [sends]
    exact Shutdown.saw_of_unpolled saw (by simp) fun _ _ saw => saw.sent rfl

theorem Shutdown.saw_step (saw : List.Forall₂ shutdown.Saw shutdown.waiting tasks)
    (step : ShutdownStep) :
    List.Forall₂ (shutdown.step step).1.Saw (shutdown.step step).1.waiting (tasksThen tasks step) := by
  cases step with
  | subscribe | unsubscribe =>
    rw [tasksThen, if_neg (by simp), List.append_nil]
    exact Shutdown.saw_of_unpolled saw (by simp) fun _ _ saw => saw.quiet rfl (by simp)
  | wait =>
    have others : List.Forall₂ shutdown.wait.Saw shutdown.waiting _ :=
      Shutdown.saw_of_unpolled saw (by simp) fun _ _ saw =>
        saw.quiet rfl (show ShutdownStep.wait ≠ .trigger by simp)
    have own : shutdown.wait.Saw shutdown.sent [] := ⟨le_rfl, by simp [Shutdown.wait]⟩
    exact List.rel_append others (.cons own .nil)
  | trigger => exact Shutdown.saw_trigger saw
  | poll => exact Shutdown.saw_poll saw

end Saw

/-- After a run the tasks that wait have seen just the steps since they began. -/
theorem Shutdown.run_saw (steps : List ShutdownStep) :
    List.Forall₂ (({} : Shutdown).run steps).Saw (({} : Shutdown).run steps).waiting
      (tasksAfter steps) := by
  induction steps using List.reverseRecOn with
  | nil => exact .nil
  | append_singleton steps step ih =>
    have last : ({} : Shutdown).run (steps ++ [step]) = ((({} : Shutdown).run steps).step step).1 :=
      List.foldl_concat ..
    rw [last, tasksAfter_concat]
    exact Shutdown.saw_step ih step

/-- After any run a task that waits is ready exactly if there was a trigger
since it began, whatever was sent before, however many messages overtook each
other in the channel and whoever else listens. Triggers that came earlier are
lost on it, so a task that begins late waits for another one. So a poll lets
go on just those tasks, and none at all before the first trigger. -/
theorem Shutdown.run_tells (steps : List ShutdownStep) :
    let reached := ({} : Shutdown).run steps
    List.Forall₂ (fun since seen => reached.isReady since = true ↔ .trigger ∈ seen) reached.waiting
        (tasksAfter steps) ∧
      reached.poll.2 = (tasksAfter steps).countP (.trigger ∈ ·) ∧
      reached.poll.1.waiting.length = (tasksAfter steps).countP (.trigger ∉ ·) ∧
      (.trigger ∉ steps → reached.poll.2 = 0) := by
  intro reached
  have tells : List.Forall₂ (fun since seen => reached.isReady since = true ↔ .trigger ∈ seen)
      reached.waiting (tasksAfter steps) :=
    (Shutdown.run_saw steps).imp fun _ _ saw => Shutdown.isReady_iff.trans saw.triggered
  have ready : reached.poll.2 = (tasksAfter steps).countP (.trigger ∈ ·) := by
    rw [Shutdown.poll_eq, List.countP_eq_length_filter]
    exact (List.rel_filter (fun _ _ agree => by simpa using agree) tells).length_eq
  refine ⟨tells, ready, ?_, ?_⟩
  · rw [Shutdown.poll_eq, List.countP_eq_length_filter]
    exact (List.rel_filter (fun _ _ agree => by simp [← agree]) tells).length_eq
  · intro untriggered
    rw [ready, List.countP_eq_zero]
    intro seen task
    have told := (isSuffix_of_mem_tasksAfter task).subset
    simpa using fun triggered => untriggered (told triggered)

/-- A task that begins to wait after the trigger is not told of it. -/
theorem Shutdown.late_task_not_told :
    let late := ({} : Shutdown).run [.trigger, .wait]
    late.poll.2 = 0 ∧ late.poll.1.waiting.length = 1 := by
  decide

end SiteRouting
