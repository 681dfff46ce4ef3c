import ByteTap.Proofs.Engine.Lifecycle
import ByteTap.Proofs.Engine.Wake

/-!
# What a thread comes to by itself

Some things come about however the threads are scheduled, as long as one of them has its turns now
and then.  `Within` says so with a bound on the turns of that thread: whatever the others do before
each of them, the thread has a step, and it reaches the goal within that many of its own.

* `within_of_countdown`: a number that the others leave alone and each own step brings down;
* `OthersStep.of_awake`, `OthersStep.call_stays`: what the others leave alone;
* `Step.origin`: every call was there before, or has just been made;
* `returns_within`: once the worker is gone, every call that is not parked returns by itself.
-/

namespace ByteTap

namespace Call

/-- In how many of its own steps a call returns once the worker is gone.  A parked call has none. -/
def stepsLeft : Call → Nat
  | announcingStop => 3
  | closing | permittingStop | consuming _ | resetting => 2
  | joining | permittingSpace _ | installing _ | uninstalling => 1
  | waiting _ | woken .. | expired _ => 1
  | parked .. | returned _ => 0

end Call

namespace Engine

variable {τ : Type} [Transport τ] {arrives : τ → τ → Prop} {label : Label}
  {goal : Engine τ → Prop} {e e' : Engine τ} {i n : Nat}

/-! ## Goals within reach of one thread -/

/-- However the others go on, the thread of the label reaches the goal within that many steps of its
own: the goal is reached already, or the thread has a step and reaches it within one step less. -/
def Within (arrives : τ → τ → Prop) (label : Label) (goal : Engine τ → Prop) :
    Nat → Engine τ → Prop
  | 0, e => goal e
  | n + 1, e => goal e ∨ ∀ later, Relation.ReflTransGen (OthersStep arrives label) e later →
      ∃ e', later.next label = some e' ∧ Within arrives label goal n e'

/-- A countdown to the goal that the others do not disturb. -/
theorem within_of_countdown (due : Nat → Engine τ → Prop)
    (reached : ∀ {e : Engine τ}, due 0 e → goal e)
    (stays : ∀ {n : Nat} {e e' : Engine τ}, due n e → OthersStep arrives label e e' → due n e')
    (turn : ∀ {n : Nat} {e : Engine τ}, due (n + 1) e →
      ∃ e', e.next label = some e' ∧ ∃ m, m ≤ n ∧ due m e')
    {m : Nat} (left : due m e) (enough : m ≤ n) : Within arrives label goal n e := by
  induction n generalizing e m with
  | zero =>
    obtain rfl : m = 0 := by omega
    exact reached left
  | succ n ih =>
    cases m with
    | zero => exact .inl (reached left)
    | succ m =>
      refine .inr ?_
      intro later others
      have still : due (m + 1) later := by
        induction others with
        | refl => exact left
        | tail _ step before => exact stays before step
      obtain ⟨e', stepped, m', fewer, left'⟩ := turn still
      exact ⟨e', stepped, ih left' (by omega)⟩

/-! ## What the others leave alone -/

theorem OthersStep.step (step : OthersStep arrives label e e') : Step arrives e e' := by
  cases step with
  | turn other differs stepped => exact .turn other stepped
  | arrival f allowed => exact .arrival f allowed

/-- Unless the worker waits after a failed read, everything but its own steps is done by callers, or
arrives. -/
theorem OthersStep.of_awake (step : OthersStep arrives .worker e e')
    (awake : ∀ delay room full, e.stage ≠ .backingOff delay room full) :
    CallStep e e' ∨ ∃ transport, arrives e.transport transport ∧ e' = { e with transport } := by
  cases step with
  | arrival f allowed => exact .inr ⟨_, allowed, rfl⟩
  | turn other differs stepped =>
    cases other with
    | worker => exact absurd rfl differs
    | timer =>
      obtain ⟨delay, room, full, place, -⟩ := wakeFromBackoff_eq_some stepped
      exact absurd place (awake delay room full)
    | _ => exact .inl (.of_others rfl stepped)

/-- A call that is not parked stays where it is until its own turn. -/
theorem OthersStep.call_stays {call : Call} (place : e.calls[i]? = some call)
    (awake : call.isParked = false) (step : OthersStep arrives (.call i) e e') :
    e'.calls[i]? = some call := by
  cases step with
  | arrival f allowed => exact place
  | turn other differs stepped =>
    rcases next_call_at place stepped with own | rfl | stays | wakes
    · exact absurd own differs
    · obtain ⟨seen, parked, -⟩ := next_expire_eq_some stepped
      cases place.symm.trans parked
      cases awake
    · exact stays
    · cases call with
      | parked timed seen => cases awake
      | _ => exact wakes

/-! ## Where a call comes from -/

omit [Transport τ] in
theorem CallStep.enters_or_keeps (step : CallStep e e') :
    (∃ request, e'.calls = e.calls ++ [Call.ofRequest request]) ∨
      e'.calls.length = e.calls.length := by
  cases step
  case enter request => exact .inl ⟨request, rfl⟩
  all_goals exact .inr (by simp)

omit [Transport τ] in
theorem CallsMove.origin {call' : Call} (moves : CallsMove e e') (place : e'.calls[i]? = some call')
    (inside : i < e.calls.length) : ∃ call, e.calls[i]? = some call ∧ CallMove e e' call call' := by
  obtain ⟨call, here⟩ : ∃ call, e.calls[i]? = some call := ⟨_, List.getElem?_eq_getElem inside⟩
  obtain ⟨call'', there, move⟩ := moves here
  obtain rfl : call' = call'' := Option.some.inj (place.symm.trans there)
  exact ⟨call, here, move⟩

omit [Transport τ] in
/-- Every call was there before, and has moved as it may, or it has just been made. -/
theorem CallStep.origin {call' : Call} (step : CallStep e e') (place : e'.calls[i]? = some call') :
    (∃ call, e.calls[i]? = some call ∧ CallMove e e' call call') ∨
      ∃ request, call' = Call.ofRequest request := by
  have inside' : i < e'.calls.length := (List.getElem?_eq_some_iff.1 place).1
  rcases step.enters_or_keeps with ⟨request, entered⟩ | same
  · by_cases inside : i < e.calls.length
    · exact .inl (step.move.origin place inside)
    · rw [entered, List.getElem?_append_right (by omega), List.getElem?_singleton] at place
      split at place
      · exact .inr ⟨request, (Option.some.inj place).symm⟩
      · cases place
  · exact .inl (step.move.origin place (same ▸ inside'))

theorem WorkerStep.origin {call' : Call} (step : WorkerStep e e')
    (place : e'.calls[i]? = some call') :
    ∃ call, e.calls[i]? = some call ∧ CallMove e e' call call' := by
  have inside' : i < e'.calls.length := (List.getElem?_eq_some_iff.1 place).1
  refine step.move.origin place ?_
  rcases step.calls_eq with same | woken
  · rwa [same] at inside'
  · rwa [woken, List.length_map] at inside'

theorem Step.origin {call' : Call} (step : Step arrives e e') (place : e'.calls[i]? = some call') :
    (∃ call, e.calls[i]? = some call ∧ CallMove e e' call call') ∨
      ∃ request, call' = Call.ofRequest request := by
  rcases step.cases with worker | call | ⟨transport, -, rfl⟩
  · exact .inl (worker.origin place)
  · exact call.origin place
  · exact .inl ⟨call', place, .stay call'⟩

/-! ## Calls on a closed engine -/

theorem waitReason_of_stopped {s : Shared} (stopped : s.phase ≠ .running) (seen : Nat) :
    ∃ outcome, waitReason s seen = some outcome :=
  Option.ne_none_iff_exists'.1 (waitReason_ne_none_iff.2 (.inr (.inl stopped)))

theorem waitOn_of_stopped {s : Shared} (stopped : s.phase ≠ .running) (timed : Bool) (seen : Nat) :
    ∃ outcome, waitOn s timed seen = .returned (.outcome outcome) := by
  obtain ⟨outcome, reason⟩ := waitReason_of_stopped stopped seen
  refine ⟨outcome, ?_⟩
  unfold waitOn
  rw [reason]

/-- Nobody is parked once the worker is gone. -/
def NobodyParked (e : Engine τ) : Prop :=
  e.stage = .exited → ∀ call ∈ e.calls, call.isParked = false

/-- Before the worker goes, it wakes whoever sleeps. -/
theorem NobodyParked.worker (step : WorkerStep e e') : NobodyParked e' := by
  intro gone
  cases step
  case signalEnd => exact Call.not_isParked_of_mem_wake
  all_goals cases gone

omit [Transport τ] in
/-- And nobody goes to sleep after that. -/
theorem NobodyParked.call (stopped : e.stage = .exited → e.shared.phase ≠ .running)
    (awake : NobodyParked e) (step : CallStep e e') : NobodyParked e' := by
  intro gone
  rw [step.same_worker.stage] at gone
  have awake := awake gone
  have replaced {i : Nat} {new : Call} (here : new.isParked = false) :
      ∀ call ∈ e.calls.set i new, call.isParked = false := by
    intro call among
    rcases List.mem_or_eq_of_mem_set among with old | rfl
    · exact awake call old
    · exact here
  cases step
  case enter request =>
    intro call among
    rcases List.mem_append.1 among with old | new
    · exact awake call old
    · rw [List.mem_singleton.1 new]
      cases request <;> rfl
  -- The caller that has requested shutdown wakes all others, and goes on.
  case announceStop =>
    intro call among
    rcases List.mem_or_eq_of_mem_set among with woken | rfl
    · exact Call.not_isParked_of_mem_wake call woken
    · rfl
  case consume => exact replaced (by split <;> rfl)
  -- Waits find that the engine has stopped, and return.
  case beginWait timed place =>
    obtain ⟨outcome, returns⟩ := waitOn_of_stopped (stopped gone) timed e.shared.generation
    exact replaced (by rw [returns]; rfl)
  case resumeWait seen timed place =>
    obtain ⟨outcome, returns⟩ := waitOn_of_stopped (stopped gone) timed seen
    exact replaced (by rw [returns]; rfl)
  case stir call place => exact replaced call.isParked_wake
  all_goals exact replaced rfl

/-- Once the worker is gone, nobody sleeps. -/
theorem Reachable.nobodyParked (reachable : Reachable arrives e) : NobodyParked e := by
  induction reachable with
  | started settings transport consumer spawned =>
    obtain ⟨-, -, registration, registrations, rfl⟩ := spawn_eq_ok spawned
    rintro ⟨⟩
  | @step e e' before stepped ih =>
    have stopped (gone : e.stage = .exited) : e.shared.phase ≠ .running := by
      rw [before.placed.closed_iff.2 (by rw [gone]; rfl)]
      rintro ⟨⟩
    -- the worker wakes them all as it goes, and no call parks in a closed engine
    rcases stepped.cases with worker | call | ⟨transport, -, rfl⟩
    · exact .worker worker
    · exact ih.call stopped call
    · exact ih

/-- Once the worker is gone, a call that has not returned is one step nearer to that after each step
of its own. -/
theorem next_of_gone {call : Call} (gone : e.stage = .exited) (closed : e.shared.phase = .closed)
    (place : e.calls[i]? = some call) (left : call.stepsLeft = n + 1) :
    ∃ e' call', e.next (.call i) = some e' ∧ e'.stage = .exited ∧ e'.shared.phase = .closed ∧
      e'.calls[i]? = some call' ∧ call'.isParked = false ∧ call'.stepsLeft ≤ n := by
  have inside : i < e.calls.length := (List.getElem?_eq_some_iff.1 place).1
  have stopped : e.shared.phase ≠ .running := by
    rw [closed]
    rintro ⟨⟩
  have turn {e' : Engine τ} (step : e.stepCall i call = some e') : e.next (.call i) = some e' := by
    show (e.calls[i]?).bind (e.stepCall i) = some e'
    rw [place]
    exact step
  cases call with
  | closing =>
    refine ⟨e.place i .joining, .joining, turn ?_, gone, closed, getElem?_place place _, rfl, ?_⟩
    · simp [stepCall, closed]
    · cases left; exact Nat.le_refl 1
  | announcingStop =>
    refine ⟨_, .permittingStop, turn rfl, gone, closed, ?_, rfl, ?_⟩
    · exact List.getElem?_set_self (by simpa [wakeAll, note] using inside)
    · cases left; exact Nat.le_refl 2
  | permittingStop =>
    refine ⟨_, .joining, turn rfl, gone, closed, getElem?_place place _, rfl, ?_⟩
    cases left; exact Nat.le_refl 1
  | joining =>
    refine ⟨e.place i (.returned .done), _, turn ?_, gone, closed, getElem?_place place _, rfl,
      Nat.zero_le n⟩
    simp [stepCall, gone]
  | consuming count =>
    refine ⟨_, _, turn rfl, gone, closed, getElem?_place place _, ?_, ?_⟩
    · split <;> rfl
    · cases left
      split <;> simp [Call.stepsLeft]
  | resetting =>
    refine ⟨_, _, turn rfl, gone, closed, getElem?_place place _, rfl, ?_⟩
    cases left; exact Nat.le_refl 1
  | waiting timed =>
    obtain ⟨outcome, returns⟩ := waitOn_of_stopped stopped timed e.shared.generation
    refine ⟨_, _, turn rfl, gone, closed, getElem?_place place _, ?_, ?_⟩ <;> rw [returns]
    · rfl
    · exact Nat.zero_le n
  | woken timed seen =>
    obtain ⟨outcome, returns⟩ := waitOn_of_stopped stopped timed seen
    refine ⟨_, _, turn rfl, gone, closed, getElem?_place place _, ?_, ?_⟩ <;> rw [returns]
    · rfl
    · exact Nat.zero_le n
  | parked timed seen => cases left
  | returned answer => cases left
  | _ => exact ⟨_, _, turn rfl, gone, closed, getElem?_place place _, rfl, Nat.zero_le n⟩

/-- Once the worker is gone, every call returns by itself, in at most three steps. -/
theorem returns_within {call : Call} (reachable : Reachable arrives e)
    (gone : e.stage = .exited) (place : e.calls[i]? = some call) :
    Within arrives (.call i) (fun e => ∃ answer, e.calls[i]? = some (.returned answer))
      call.stepsLeft e := by
  have closed : e.shared.phase = .closed := reachable.placed.closed_iff.2 (by rw [gone]; rfl)
  have awake := reachable.nobodyParked gone call (List.mem_of_getElem? place)
  refine within_of_countdown
    (fun n e => e.stage = .exited ∧ e.shared.phase = .closed ∧
      ∃ call, e.calls[i]? = some call ∧ call.isParked = false ∧ call.stepsLeft = n)
    ?_ ?_ ?_ ⟨gone, closed, call, place, awake, rfl⟩ (Nat.le_refl _)
  · rintro e ⟨-, -, call, place, awake, none⟩
    cases call with
    | returned answer => exact ⟨answer, place⟩
    | parked timed seen => cases awake
    | _ => cases none
  · rintro n e e' ⟨gone, closed, call, place, awake, left⟩ step
    refine ⟨step.step.exited gone, ?_, call, step.call_stays place awake, awake, left⟩
    exact Phase.eq_closed_of_le (closed ▸ step.step.phase_le)
  · rintro n e ⟨gone, closed, call, place, awake, left⟩
    obtain ⟨e', call', stepped, gone', closed', place', awake', nearer⟩ :=
      next_of_gone gone closed place left
    exact ⟨e', stepped, _, nearer, gone', closed', call', place', awake', rfl⟩

end Engine

end ByteTap
