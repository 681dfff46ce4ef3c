import ByteTap.Proofs.Engine.CallStep
import ByteTap.Proofs.Engine.WorkerStep
import Mathlib.Logic.Relation

/-!
# Runs of an engine

A run starts an engine and lets the threads take turns in any order.  Between two turns something
may arrive at the far end of the transport: `arrives` is the relation between the transport before
and after, and what is shown for every `arrives` holds whatever arrives.

* `Reachable.invariant`: what holds at the start and is kept by every step holds in every run;
* `run_invariant`: what the turns of a schedule keep holds after the schedule;
* `steps_run`: following a schedule is one such run.
-/

namespace ByteTap

/-- A turn of the worker, or of time. -/
def Label.byWorker : Label → Bool
  | worker | timer => true
  | _ => false

namespace Engine

variable {τ : Type} [Transport τ] {arrives : τ → τ → Prop} {e e' : Engine τ}

/-- One thread takes its turn, or something arrives. -/
inductive Step (arrives : τ → τ → Prop) (e : Engine τ) : Engine τ → Prop
  | turn {e' : Engine τ} (label : Label) (stepped : e.next label = some e') : Step arrives e e'
  | arrival (f : τ → τ) (allowed : arrives e.transport (f e.transport)) :
      Step arrives e (e.mapTransport f)

/-- Any number of steps. -/
abbrev Steps (arrives : τ → τ → Prop) : Engine τ → Engine τ → Prop :=
  Relation.ReflTransGen (Step arrives)

/-- The states of the engines that were started, in every run. -/
inductive Reachable (arrives : τ → τ → Prop) : Engine τ → Prop
  | started {e : Engine τ} (settings : Settings) (transport : τ) (consumer : Option Consumer)
      (spawned : spawn settings transport consumer = .ok e) : Reachable arrives e
  | step {e e' : Engine τ} (before : Reachable arrives e) (stepped : Step arrives e e') :
      Reachable arrives e'

theorem WorkerStep.of_byWorker {label : Label} (alone : label.byWorker = true)
    (stepped : e.next label = some e') : WorkerStep e e' := by
  cases label with
  | worker => exact .of_work stepped
  | timer => exact .of_wakeFromBackoff stepped
  | _ => cases alone

/-- Every other turn is a caller's. -/
theorem CallStep.of_others {label : Label} (others : label.byWorker = false)
    (stepped : e.next label = some e') : CallStep e e' := by
  cases label with
  | enter request => cases stepped; exact .enter request
  | call i =>
    obtain ⟨call, place, stepped⟩ := next_call_eq_some stepped
    exact .of_stepCall place stepped
  | expire i => exact .of_expire stepped
  | stir i => exact .of_stir stepped
  | _ => cases others

theorem cases_of_turn {label : Label} (stepped : e.next label = some e') :
    WorkerStep e e' ∨ CallStep e e' := by
  cases alone : label.byWorker with
  | true => exact .inl (.of_byWorker alone stepped)
  | false => exact .inr (.of_others alone stepped)

/-- A step is one of the worker's, one of a caller's, or an arrival. -/
theorem Step.cases (step : Step arrives e e') :
    WorkerStep e e' ∨ CallStep e e' ∨
      ∃ transport, arrives e.transport transport ∧ e' = { e with transport } := by
  cases step with
  | arrival f allowed => exact .inr (.inr ⟨f e.transport, allowed, rfl⟩)
  | turn label stepped => exact (cases_of_turn stepped).imp_right .inl

/-- The worker wakes the calls at most. -/
theorem WorkerStep.move (step : WorkerStep e e') : CallsMove e e' := by
  intro i call place
  rcases step.calls_eq with same | woken
  · exact ⟨call, by rw [same, place], .stay call⟩
  · exact ⟨call.wake, by rw [woken, List.getElem?_map, place, Option.map_some], .wake call⟩

theorem Step.move (step : Step arrives e e') : CallsMove e e' := by
  rcases step.cases with step | step | ⟨transport, -, rfl⟩
  · exact step.move
  · exact step.move
  · exact fun i call place => ⟨call, place, .stay call⟩

theorem Reachable.steps (reachable : Reachable arrives e) (steps : Steps arrives e e') :
    Reachable arrives e' := by
  induction steps with
  | refl => exact reachable
  | tail _ stepped ih => exact .step ih stepped

theorem Step.settings_same (step : Step arrives e e') : e'.settings = e.settings := by
  rcases step.cases with worker | call | ⟨transport, -, rfl⟩
  · exact worker.settings_same
  · exact call.same_worker.settings
  · rfl

theorem Steps.settings_same (steps : Steps arrives e e') : e'.settings = e.settings := by
  induction steps with
  | refl => rfl
  | tail _ step ih => exact step.settings_same.trans ih

theorem run_cons {label : Label} (stepped : e.next label = some e') (later : List Label) :
    e.run (label :: later) = e'.run later := by
  simp [run, stepped]

/-- What the turns of a schedule keep holds after the schedule. -/
theorem run_invariant {Inv : Engine τ → Prop} {allowed : Label → Prop}
    (turn : ∀ {label : Label} {e e' : Engine τ}, allowed label → Inv e →
      e.next label = some e' → Inv e')
    {schedule : List Label} (fits : ∀ label ∈ schedule, allowed label) (inv : Inv e) :
    Inv (e.run schedule) := by
  induction schedule generalizing e with
  | nil => exact inv
  | cons label later ih =>
    have others := fun label' among => fits label' (List.mem_cons_of_mem label among)
    cases stepped : e.next label with
    | none =>
      have stays : e.run (label :: later) = e.run later := by simp [run, stepped]
      rw [stays]
      exact ih others inv
    | some e' =>
      rw [run_cons stepped]
      exact ih others (turn (fits label List.mem_cons_self) inv stepped)

/-- Following a schedule is a run in which nothing arrives. -/
theorem steps_run (e : Engine τ) (schedule : List Label) :
    Steps arrives e (e.run schedule) :=
  run_invariant (fun (_ : True) before stepped => before.tail (.turn _ stepped))
    (fun _ _ => trivial) .refl

theorem step_run {label : Label} (moves : (e.next label).isSome = true) :
    Step arrives e (e.run [label]) := by
  obtain ⟨e', stepped⟩ := Option.isSome_iff_exists.1 moves
  rw [run_cons stepped]
  exact .turn label stepped

/-- How an engine starts. -/
theorem eq_of_spawn {settings : Settings} {transport : τ} {consumer : Option Consumer}
    (spawned : spawn settings transport consumer = .ok e) :
    settings.defect? = none ∧ settings.capacity.toNat ≤ Buffer.largest ∧ e =
      { settings, transport
        label := Transport.label transport
        shared :=
          { buffer := Buffer.empty settings.capacity.toNat
            registration := consumer.map fun consumer => { number := 1, consumer }
            isOpen := Transport.isOpen transport }
        registrations := consumer.elim 0 fun _ => 1
        trace := [.spawned] } := by
  unfold spawn Settings.validate Buffer.allocate at spawned
  cases defect : settings.defect? with
  | some defect => simp [defect] at spawned
  | none =>
    rw [defect] at spawned
    by_cases large : Buffer.largest < settings.capacity.toNat
    · simp [large] at spawned
    · simp only [large, if_false, Except.ok.injEq] at spawned
      refine ⟨rfl, Nat.le_of_not_lt large, ?_⟩
      cases consumer <;> exact spawned.symm

/-- Valid settings start an engine, if there can be memory for its buffer. -/
theorem exists_spawn {settings : Settings} (valid : settings.validate = .ok ())
    (fits : settings.capacity.toNat ≤ Buffer.largest) (transport : τ)
    (consumer : Option Consumer) : ∃ e, spawn settings transport consumer = .ok e := by
  have allocated : Buffer.allocate settings.capacity.toNat = .ok (.empty settings.capacity.toNat) :=
    if_neg (Nat.not_lt.2 fits)
  unfold spawn
  rw [valid, allocated]
  exact ⟨_, rfl⟩

/-- How an engine starts, whoever is registered. -/
theorem spawn_eq_ok {settings : Settings} {transport : τ} {consumer : Option Consumer}
    (spawned : spawn settings transport consumer = .ok e) :
    settings.defect? = none ∧ settings.capacity.toNat ≤ Buffer.largest ∧
      ∃ registration registrations, e =
        { settings, transport
          label := Transport.label transport
          shared :=
            { buffer := Buffer.empty settings.capacity.toNat, registration
              isOpen := Transport.isOpen transport }
          registrations
          trace := [.spawned] } := by
  obtain ⟨valid, fits, same⟩ := eq_of_spawn spawned
  exact ⟨valid, fits, _, _, same⟩

theorem registered_of_spawn {settings : Settings} {transport : τ} {consumer : Option Consumer}
    (spawned : spawn settings transport consumer = .ok e) :
    e.shared.registration.map Registration.consumer = consumer := by
  obtain ⟨-, -, rfl⟩ := eq_of_spawn spawned
  cases consumer <;> rfl

/-- What holds of a started engine and is kept by every step holds in every run. -/
theorem Reachable.invariant {Inv : Engine τ → Prop}
    (started : ∀ {settings : Settings} {transport : τ} {consumer : Option Consumer}
      {e : Engine τ}, spawn settings transport consumer = .ok e → Inv e)
    (worker : ∀ {e e' : Engine τ}, Inv e → WorkerStep e e' → Inv e')
    (call : ∀ {e e' : Engine τ}, Inv e → CallStep e e' → Inv e')
    (arrival : ∀ {e : Engine τ} {transport : τ}, Inv e → arrives e.transport transport →
      Inv { e with transport })
    (reachable : Reachable arrives e) : Inv e := by
  induction reachable with
  | started settings transport consumer spawned => exact started spawned
  | step _ stepped ih =>
    rcases stepped.cases with step | step | ⟨transport, allowed, rfl⟩
    · exact worker ih step
    · exact call ih step
    · exact arrival ih allowed

end Engine

end ByteTap
