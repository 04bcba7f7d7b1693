import Mathlib
import SiteRouting.Proofs.Manager.Operation
import SiteRouting.Service

namespace SiteRouting

/-- What can happen next to a service. Changes of the file, what the watcher
hands on and hangups may overtake each other in any way. -/
inductive Service.Step : Service → Service → Prop where
  | written (service : Service) (document : String) : Service.Step service (service.write document)
  /-- The watcher may be told of one change more than once. -/
  | retold (service : Service) :
      Service.Step service { service with undelivered := service.undelivered + 1 }
  | delivered (service : Service) (pending : 0 < service.undelivered) :
      Service.Step service service.deliver
  | received (service : Service) (waiting : service.channel ≠ []) : Service.Step service service.receive
  | hungUp (service : Service) : Service.Step service service.hangup
  | served (service : Service) : Service.Step service service.read.1

abbrev Service.Reaches : Service → Service → Prop :=
  Relation.ReflTransGen Service.Step

/-- A manager is about to build from its source, or the build that it
attempted last was one of the configuration. -/
def Manager.Reflects (manager : Manager) (config : Configuration) : Prop :=
  manager.stale = true ∨ ∀ generation registry, config.build manager.policy generation = .ok registry →
    ∃ served, manager.current = some served ∧ config.build manager.policy served.generation = .ok served

/-- What a service keeps true. As long as the watcher has to be told of a
change, nothing is known of what it has handed on; after that the file is
what it handed on last, or what the manager reflects. -/
structure Service.Follows (service : Service) (policy : BuildPolicy) : Prop where
  policy : service.manager.policy = policy
  unpushed : service.manager.stale = true → service.manager.pushed = none
  reflects : service.undelivered = 0 → service.channel = [] → ∀ config, service.source = .ok config →
    service.manager.Reflects config
  last : service.undelivered = 0 → ∀ config, service.source = .ok config →
    ∀ handed, service.channel.getLast? = some handed → handed = config

section Rebuild

variable {manager : Manager} {config : Configuration} {source : Source}

theorem Manager.rebuild_policy (manager : Manager) (source : Source) :
    (manager.rebuild source).manager.policy = manager.policy := by
  unfold Manager.rebuild
  split
  · rfl
  · dsimp only
    split <;> rfl

theorem Manager.rebuild_reflects (loads : manager.loaded source = .ok config) :
    (manager.rebuild source).manager.stale = false ∧
      (manager.rebuild source).manager.Reflects config := by
  unfold Manager.rebuild
  rw [loads]
  dsimp only
  cases built : config.build manager.policy (manager.generation + 1) with
  | error issues =>
    refine ⟨rfl, Or.inr fun generation registry accepted => ?_⟩
    cases built.symm.trans (Configuration.build_renumbered accepted (manager.generation + 1))
  | ok registry =>
    refine ⟨rfl, Or.inr fun _ _ _ => ⟨registry, rfl, ?_⟩⟩
    rw [Configuration.build_generation built]
    exact built

/-- A manager is stale after a rebuild only if its source failed, which it
asks only when no configuration was handed in. -/
theorem Manager.rebuild_unpushed (unpushed : (manager.rebuild source).manager.stale = true) :
    (manager.rebuild source).manager.pushed = none := by
  cases loads : manager.loaded source with
  | error cause =>
    have none_handed : manager.pushed = none := by
      unfold Manager.loaded at loads
      split at loads
      · cases loads
      · assumption
    unfold Manager.rebuild
    rw [loads]
    exact none_handed
  | ok config =>
    rw [(Manager.rebuild_reflects loads).1] at unpushed
    cases unpushed

end Rebuild

section Step

variable {service : Service} {policy : BuildPolicy}

theorem reload_of_ok {file : Option String} {config : Configuration}
    (loads : Configuration.load file = .ok config) : reload file = [config] := by
  rw [reload, loads]

theorem Service.deliver_of_pending (pending : 0 < service.undelivered) :
    service.deliver = { service with
      undelivered := service.undelivered - 1
      channel := service.channel ++ reload service.file } := by
  rw [Service.deliver, if_neg (Nat.ne_of_gt pending)]

theorem Service.Follows.unfinished {after : Service} (policy_kept : after.manager.policy = policy)
    (unpushed : after.manager.stale = true → after.manager.pushed = none)
    (pending : 0 < after.undelivered) : after.Follows policy where
  policy := policy_kept
  unpushed := unpushed
  reflects none_pending := absurd none_pending (Nat.ne_of_gt pending)
  last none_pending := absurd none_pending (Nat.ne_of_gt pending)

/-- The watcher finds the file as it is when it is told of the last
change, and hands that on last. -/
theorem Service.Follows.deliver (follows : service.Follows policy) (pending : 0 < service.undelivered) :
    service.deliver.Follows policy := by
  rw [Service.deliver_of_pending pending]
  refine ⟨follows.policy, follows.unpushed, ?_, ?_⟩
  · intro _ empty config loads
    dsimp only at empty
    rw [reload_of_ok loads] at empty
    simp at empty
  · intro _ config loads handed isLast
    dsimp only at isLast
    rw [reload_of_ok loads, List.getLast?_concat] at isLast
    exact (Option.some.inj isLast).symm

/-- What is received last is the file, and then the manager reflects it. -/
theorem Service.Follows.receive (follows : service.Follows policy) (waiting : service.channel ≠ []) :
    service.receive.Follows policy := by
  obtain ⟨config, rest, channel⟩ := List.exists_cons_of_ne_nil waiting
  let handed : Manager := { service.manager with pushed := some config }
  have received : service.receive =
      { service with manager := (handed.rebuild (.ok config)).manager, channel := rest } := by
    rw [Service.receive, channel]
    rfl
  rw [received]
  refine ⟨?_, Manager.rebuild_unpushed, ?_, ?_⟩
  · exact (handed.rebuild_policy _).trans follows.policy
  · intro delivered empty file loads
    have isLast : service.channel.getLast? = some config := by
      rw [channel, (show rest = [] from empty)]
      rfl
    rw [← follows.last delivered file loads config isLast]
    exact (Manager.rebuild_reflects rfl).2
  · intro delivered file loads last isLast
    refine follows.last delivered file loads last ?_
    rw [channel, List.getLast?_cons, show rest.getLast? = some last from isLast]
    rfl

theorem Service.read_of_fresh (fresh : service.manager.stale = false) : service.read.1 = service := by
  rw [Service.read]
  dsimp only
  rw [Manager.registry_of_fresh fresh]

theorem Service.read_of_stale (stale : service.manager.stale = true) :
    service.read.1 =
      { service with manager := (service.manager.rebuild service.source).manager } := by
  rw [Service.read]
  dsimp only
  rw [Manager.registry_of_stale stale]

/-- A stale manager has been handed nothing, so it builds from the file. -/
theorem Service.Follows.loaded_of_stale (follows : service.Follows policy)
    (stale : service.manager.stale = true) :
    service.manager.loaded service.source = service.source := by
  rw [Manager.loaded, follows.unpushed stale]

theorem Service.Follows.read (follows : service.Follows policy) : service.read.1.Follows policy := by
  cases stale : service.manager.stale with
  | false =>
    rw [Service.read_of_fresh stale]
    exact follows
  | true =>
    rw [Service.read_of_stale stale]
    refine ⟨(Manager.rebuild_policy _ _).trans follows.policy, Manager.rebuild_unpushed, ?_,
      follows.last⟩
    intro _ _ config loads
    exact (Manager.rebuild_reflects ((follows.loaded_of_stale stale).trans loads)).2

theorem Service.Follows.read_fresh {config : Configuration} (follows : service.Follows policy)
    (loads : service.source = .ok config) : service.read.1.manager.stale = false := by
  cases stale : service.manager.stale with
  | false =>
    rw [Service.read_of_fresh stale]
    exact stale
  | true =>
    rw [Service.read_of_stale stale]
    exact (Manager.rebuild_reflects ((follows.loaded_of_stale stale).trans loads)).1

theorem Service.read_answer {registry : Registry}
    (current : service.read.1.manager.current = some registry) : service.read.2 = .ok registry := by
  have inService : (service.manager.registry service.source).manager.current = some registry := current
  refine (service.manager.registry_answer service.source).trans ?_
  rw [inService]

theorem Service.Follows.step {before after : Service} (follows : before.Follows policy)
    (step : Service.Step before after) : after.Follows policy := by
  cases step with
  | written document => exact .unfinished follows.policy follows.unpushed (Nat.succ_pos _)
  | retold => exact .unfinished follows.policy follows.unpushed (Nat.succ_pos _)
  | delivered pending => exact follows.deliver pending
  | received waiting => exact follows.receive waiting
  | hungUp => exact ⟨follows.policy, fun _ => rfl, fun _ _ _ _ => Or.inl rfl, follows.last⟩
  | served => exact follows.read

theorem Service.Follows.reaches {before after : Service} (follows : before.Follows policy)
    (reaches : Service.Reaches before after) : after.Follows policy := by
  induction reaches with
  | refl => exact follows
  | tail _ step ih => exact ih.step step

/-- A service that has started reflects the file that it has started on. -/
theorem Service.follows_start {file : Option String} (started : Service.start policy file = some service) :
    service.Follows policy := by
  unfold Service.start at started
  split at started
  · cases started
  rename_i config loads
  dsimp only at started
  split at started
  · cases started
  split at started
  · cases started
  cases started
  have loaded : (Manager.new policy).loaded (.ok config) = .ok config := rfl
  refine ⟨Manager.rebuild_policy _ _, Manager.rebuild_unpushed, ?_, ?_⟩
  · intro _ _ same isFile
    cases loads.symm.trans isFile
    exact (Manager.rebuild_reflects loaded).2
  · intro _ _ _ _ empty
    cases empty

end Step

/-- A service that has started serves the document in the file as soon as the
watcher has been told of every change and everything that it handed on has
been received, provided that the document loads and its build is accepted. It
does not matter which documents there were before, which of them failed, and
how changes, hangups and reads overtook each other. -/
theorem Service.read_of_settled {policy : BuildPolicy} {file : Option String} {start service : Service}
    {config : Configuration} {generation : Nat} {registry : Registry}
    (started : Service.start policy file = some start) (reaches : Service.Reaches start service)
    (delivered : service.undelivered = 0) (received : service.channel = [])
    (loads : Configuration.load service.file = .ok config)
    (builds : config.build policy generation = .ok registry) :
    ∃ served, service.read.2 = .ok served ∧ config.build policy served.generation = .ok served := by
  have before := (Service.follows_start started).reaches reaches
  have follows := before.read
  have fresh := before.read_fresh loads
  rcases follows.reflects delivered received config loads with stale | reflects
  · cases fresh.symm.trans stale
  · rw [follows.policy] at reflects
    obtain ⟨served, current, built⟩ := reflects generation registry builds
    exact ⟨served, Service.read_answer current, built⟩

def groupDocument (name : String) : String :=
  s!"[[host_groups]]\nname = \"{name}\"\n"

/-- A hangup has led to the newest document while the one before is
still on its way. -/
def Service.overtaken (service : Service) : Service :=
  ((service.write (groupDocument "old")).deliver.write (groupDocument "new")).hangup.read.1

theorem Service.reaches_overtaken (service : Service) : Service.Reaches service service.overtaken := by
  let written := service.write (groupDocument "old")
  have told : Service.Reaches service written.deliver :=
    .tail (.single (.written service _)) (.delivered written (Nat.succ_pos _))
  exact ((told.tail (.written _ (groupDocument "new"))).tail (.hungUp _)).tail (.served _)

theorem overtaken_settles :
    ∃ start service config registry served,
      Service.start .lenient (some "") = some start ∧ Service.Reaches start service ∧
      service.undelivered = 0 ∧ service.channel = [] ∧
      Configuration.load service.file = .ok config ∧ config.build .lenient 1 = .ok registry ∧
      registry.groupNames = ["new"] ∧
      service.read.2 = .ok served ∧ config.build .lenient served.generation = .ok served := by
  have shown : (Service.start .lenient (some "")).map (fun start =>
      let late := start.overtaken
      let told := late.receive.deliver
      !late.channel.isEmpty && late.receive.undelivered == 1 && !told.channel.isEmpty &&
        told.receive.undelivered == 0 && told.receive.channel.isEmpty &&
        told.receive.file == some (groupDocument "new")) = some true := by decide +kernel
  have parsed : (Configuration.load (some (groupDocument "new"))).toOption.bind (fun config =>
      (config.build .lenient 1).toOption.map (·.groupNames)) = some ["new"] := by decide +kernel
  obtain ⟨start, started, viewed⟩ := Option.map_eq_some_iff.mp shown
  simp only [Bool.and_eq_true, Bool.not_eq_true', beq_iff_eq, List.isEmpty_eq_false_iff,
    List.isEmpty_iff] at viewed
  obtain ⟨⟨⟨⟨⟨waiting, pending⟩, handed⟩, delivered⟩, received⟩, file⟩ := viewed
  have reaches : Service.Reaches start start.overtaken.receive.deliver.receive :=
    ((start.reaches_overtaken.tail (.received _ waiting)).tail
      (.delivered _ (pending ▸ Nat.one_pos))).tail (.received _ handed)
  cases loads : Configuration.load (some (groupDocument "new")) with
  | error cause =>
    rw [loads] at parsed
    cases parsed
  | ok config =>
    rw [loads] at parsed
    obtain ⟨registry, builds, groups⟩ := Configuration.build_of_view parsed
    rw [← file] at loads
    obtain ⟨served, answered, built⟩ :=
      Service.read_of_settled started reaches delivered received loads builds
    exact ⟨start, _, config, registry, served, started, reaches, delivered, received, loads, builds,
      groups, answered, built⟩

end SiteRouting
