import ByteTap.Proofs.Engine.AfterStop
import ByteTap.Proofs.Engine.Wake

/-!
# What the outcome of a wait means

A wait notes the generation when it takes the lock for the first time, and looks for a reason to
return each time that it has the lock.  The generation is the number of reads that were finished
(`Reachable.countsFinished`), so what a wait returns says what has happened meanwhile:

* `Waited.step`: from its first turn on, a wait only parks, is woken, runs out of time or returns;
* `Grounds`: what it finds under the lock when it returns;
* `Eventless`: the turns of others that give no wait a reason to return;
* `wait_outcome_justified`: each outcome has its reason, and while there is none no turn makes a
  wait return.
-/

namespace ByteTap

/-- How many reads that delivered bytes were handled to the end.  A read whose consumer panicked was
not. -/
@[simp] def finishedReads : List Event → Nat
  | [] => 0
  | .called _ _ reply :: .received bytes _ _ :: older =>
      finishedReads older + (!bytes.isEmpty && reply.panic.isNone).toNat
  | .received bytes _ _ :: older => finishedReads older + (!bytes.isEmpty).toNat
  | _ :: older => finishedReads older

@[simp] theorem finishedReads_noted (notes : List String) (older : List Event) :
    finishedReads ((notes.map Event.noted).reverse ++ older) = finishedReads older :=
  eq_of_noted (fun _ _ => rfl) notes older

@[simp] theorem finishedReads_asked (asked : Bool) (older : List Event) :
    finishedReads ((if asked then [.stopAsked] else []) ++ older) = finishedReads older := by
  cases asked <;> rfl

theorem Call.eq_of_wake_eq {call call' : Call} (wakes : call.wake = call')
    (unwoken : ∀ timed seen, call' ≠ .woken timed seen) : call = call' := by
  cases call with
  | parked timed seen => exact absurd wakes.symm (unwoken timed seen)
  | _ => exact wakes

/-- The turn of a call at that place gives no wait a reason to return: the call releases bytes or
sees to the consumer, or it is a wait that was woken and looks again. -/
def Call.isEventless : Call → Bool
  | consuming _ | resetting | permittingSpace _ | installing _ | uninstalling | woken .. => true
  | _ => false

namespace Engine

variable {τ : Type} {e e' : Engine τ}

/-! ## Generations -/

/-- The generation is the number of reads that were finished. -/
def CountsFinished (e : Engine τ) : Prop := e.shared.generation = finishedReads e.trace

theorem CountsFinished.call (counts : CountsFinished e) (step : CallStep e e') :
    CountsFinished e' := by
  cases step <;> exact counts

/-- The generation moves with the reads that bring data, and with nothing else. -/
theorem CountsFinished.worker [Transport τ] (counts : CountsFinished e) (step : WorkerStep e e') :
    CountsFinished e' := by
  unfold CountsFinished at counts ⊢
  cases step
  -- A read with bytes is finished in the step that counts the generation up, unless its consumer
  -- panics; then neither happens.
  case completeUnheard place nonempty nobody =>
    simp [List.isEmpty_eq_false_iff.2 nonempty, counts]
  case completeHeard place nonempty heard replied returned =>
    simp [List.isEmpty_eq_false_iff.2 nonempty, returned, counts]
  case completePanicked place nonempty heard replied panicked =>
    simp [panicked, counts]
  all_goals simp [counts]

theorem Reachable.countsFinished [Transport τ] {arrives : τ → τ → Prop}
    (reachable : Reachable arrives e) : CountsFinished e := by
  refine reachable.invariant ?_ CountsFinished.worker CountsFinished.call ?_
  · intro settings transport consumer e spawned
    obtain ⟨-, -, registration, registrations, rfl⟩ := spawn_eq_ok spawned
    rfl
  · exact fun counts _ => counts

/-! ## Reasons to return -/

/-- What stands behind the outcome of a wait that saw the given generation first: what it finds
under the lock, or its deadline. -/
structure Grounds (s : Shared) (seen : Nat) (due : Prop) (outcome : WaitOutcome) : Prop where
  data : outcome = .dataReceived ↔ s.generation ≠ seen
  shutdown : outcome = .shutdown → s.phase ≠ .running
  disconnected : outcome = .disconnected → s.phase = .running ∧ s.isOpen = false
  timedOut : outcome = .timedOut → due

/-- What a wait finds with the lock in hand are grounds for its outcome. -/
theorem grounds_of_reason {s : Shared} {seen : Nat} {outcome : WaitOutcome} {due : Prop}
    (reason : waitReason s seen = some outcome) : Grounds s seen due outcome := by
  unfold waitReason at reason
  split at reason
  · next newer =>
    cases reason
    exact ⟨by simpa using newer, by rintro ⟨⟩, by rintro ⟨⟩, by rintro ⟨⟩⟩
  next same =>
  have same : s.generation = seen := by simpa using same
  split at reason
  · next stopped =>
    cases reason
    exact ⟨by simp [same], fun _ => by simpa using stopped, by rintro ⟨⟩, by rintro ⟨⟩⟩
  next running =>
  have running : s.phase = .running := by simpa using running
  split at reason
  · next gone =>
    cases reason
    exact ⟨by simp [same], by rintro ⟨⟩, fun _ => ⟨running, by simpa using gone⟩, by rintro ⟨⟩⟩
  · cases reason

/-- So is a deadline that has passed, unless data came first. -/
theorem grounds_of_due {s : Shared} {seen : Nat} {due : Prop} (passed : due) :
    Grounds s seen due (if s.generation != seen then .dataReceived else .timedOut) := by
  by_cases same : s.generation = seen
  · rw [if_neg (by simpa using same)]
    exact ⟨by simp [same], by rintro ⟨⟩, by rintro ⟨⟩, fun _ => passed⟩
  · rw [if_pos (by simpa using same)]
    exact ⟨by simp [same], by rintro ⟨⟩, by rintro ⟨⟩, by rintro ⟨⟩⟩

/-- A wait with the lock in hand returns for a reason only. -/
theorem grounds_of_waitOn {s : Shared} {timed : Bool} {seen : Nat} {due : Prop} {answer : Answer}
    (returned : waitOn s timed seen = .returned answer) :
    ∃ outcome, answer = .outcome outcome ∧ Grounds s seen due outcome := by
  obtain ⟨outcome, reason, rfl⟩ := waitOn_eq_returned returned
  exact ⟨outcome, rfl, grounds_of_reason reason⟩

/-! ## The way of a wait -/

section

variable [Transport τ] {arrives : τ → τ → Prop} {first locked : Engine τ} {i seen : Nat}
  {timed : Bool} {call : Call} {answer : Answer}

/-- The deadline of the call of that position has passed on the way from `first` to `e`. -/
def Overdue (arrives : τ → τ → Prop) (i : Nat) (first e : Engine τ) : Prop :=
  ∃ parked passed, Steps arrives first parked ∧ parked.next (.expire i) = some passed ∧
    Steps arrives passed e

/-- The call of that position has a deadline, which has passed. -/
structure Expired (arrives : τ → τ → Prop) (i : Nat) (timed : Bool) (first e : Engine τ) :
    Prop where
  timed : timed = true
  overdue : Overdue arrives i first e
  place : ∃ seen, e.calls[i]? = some (.expired seen)

/-- The call of that position waits for data: at `first` it was about to take the lock for the first
time, and it has not returned at `e`. -/
inductive Waits (arrives : τ → τ → Prop) (i : Nat) (timed : Bool) (first : Engine τ) :
    Engine τ → Prop
  | entering (place : first.calls[i]? = some (.waiting timed)) : Waits arrives i timed first first
  | going {locked e : Engine τ} (place : first.calls[i]? = some (.waiting timed))
      (entered : first.next (.call i) = some locked) (between : Steps arrives locked e)
      (unreturned : ∀ answer, e.calls[i]? ≠ some (.returned answer)) : Waits arrives i timed first e

/-- Where the call of a wait stands that saw that generation when it took the lock first. -/
inductive Waited (arrives : τ → τ → Prop) (i : Nat) (timed : Bool) (seen : Nat)
    (first e : Engine τ) : Call → Prop
  | parked : Waited arrives i timed seen first e (.parked timed seen)
  | woken : Waited arrives i timed seen first e (.woken timed seen)
  | expired (due : timed = true) (overdue : Overdue arrives i first e) :
      Waited arrives i timed seen first e (.expired seen)
  | returned (answer : Answer) : Waited arrives i timed seen first e (.returned answer)

theorem Waited.later (waited : Waited arrives i timed seen first e call)
    (steps : Steps arrives e e') : Waited arrives i timed seen first e' call := by
  cases waited with
  | parked => exact .parked
  | woken => exact .woken
  | returned answer => exact .returned answer
  | expired due overdue =>
    obtain ⟨parked, passed, before, passes, after⟩ := overdue
    exact .expired due ⟨parked, passed, before, passes, after.trans steps⟩

theorem Waited.wake (waited : Waited arrives i timed seen first e call) :
    Waited arrives i timed seen first e call.wake := by
  cases waited with
  | parked => exact .woken
  | woken => exact .woken
  | returned answer => exact .returned answer
  | expired due overdue => exact .expired due overdue

theorem waited_waitOn (s : Shared) :
    Waited arrives i timed seen first e (waitOn s timed seen) := by
  unfold waitOn
  split
  · exact .returned _
  · exact .parked

/-- At its own turn a wait looks for a reason to return. -/
theorem Waited.turn (waited : Waited arrives i timed seen first e call)
    (place : e.calls[i]? = some call) (stepped : e.next (.call i) = some e') :
    ∃ call', e' = e.place i call' ∧ Waited arrives i timed seen first e call' ∧
      ∀ answer, call' = .returned answer → ∃ outcome, answer = .outcome outcome ∧
        Grounds e.shared seen (Expired arrives i timed first e) outcome := by
  obtain ⟨here, same, stepped⟩ := next_call_eq_some stepped
  obtain rfl : call = here := Option.some.inj (place.symm.trans same)
  cases waited with
  | parked => cases stepped
  | returned answer => cases stepped
  | woken =>
    cases stepped
    exact ⟨_, rfl, waited_waitOn _, fun answer => grounds_of_waitOn⟩
  | expired due overdue =>
    cases stepped
    refine ⟨_, rfl, .returned _, ?_⟩
    rintro answer ⟨⟩
    exact ⟨_, rfl, grounds_of_due ⟨due, overdue, _, place⟩⟩

/-- A wait that has taken the lock goes on as a wait until it returns. -/
theorem Waited.step (waited : Waited arrives i timed seen first e call)
    (place : e.calls[i]? = some call) (before : Steps arrives first e) (step : Step arrives e e') :
    ∃ call', e'.calls[i]? = some call' ∧ Waited arrives i timed seen first e' call' := by
  have after : Steps arrives e e' := .single step
  cases step with
  | arrival f allowed => exact ⟨call, place, waited.later after⟩
  | turn label stepped =>
    rcases next_call_at place stepped with rfl | rfl | stays | wakes
    · -- it looks for a reason, and parks or returns
      obtain ⟨call', rfl, waited', -⟩ := waited.turn place stepped
      exact ⟨call', getElem?_place place call', waited'.later after⟩
    · -- its deadline passes
      obtain ⟨since, parked, rfl⟩ := next_expire_eq_some stepped
      obtain rfl : call = .parked true since := Option.some.inj (place.symm.trans parked)
      cases waited
      exact ⟨_, getElem?_place place _, .expired rfl ⟨e, _, before, stepped, .refl⟩⟩
    · exact ⟨call, stays, waited.later after⟩
    · exact ⟨call.wake, wakes, waited.wake.later after⟩

/-- A wait that has taken the lock is one as long as it has not returned. -/
theorem Waited.steps (waited : Waited arrives i timed seen first locked call)
    (place : locked.calls[i]? = some call) (before : Steps arrives first locked)
    (steps : Steps arrives locked e) :
    ∃ call', e.calls[i]? = some call' ∧ Waited arrives i timed seen first e call' := by
  induction steps with
  | refl => exact ⟨call, place, waited⟩
  | tail between step ih =>
    obtain ⟨call', place', waited'⟩ := ih
    exact waited'.step place' (before.trans between) step

theorem Waits.steps (waits : Waits arrives i timed first e) : Steps arrives first e := by
  cases waits with
  | entering place => exact .refl
  | going place entered between unreturned => exact .head (.turn (.call i) entered) between

theorem Waits.unreturned (waits : Waits arrives i timed first e) :
    ∀ answer, e.calls[i]? ≠ some (.returned answer) := by
  cases waits with
  | entering place =>
    intro answer returned
    cases place.symm.trans returned
  | going place entered between unreturned => exact unreturned

/-- With the lock in hand for the first time, a wait looks for a reason to return as later on. -/
theorem next_of_waiting (place : first.calls[i]? = some (.waiting timed))
    (entered : first.next (.call i) = some locked) :
    locked = first.place i (waitOn first.shared timed first.shared.generation) := by
  obtain ⟨here, same, stepped⟩ := next_call_eq_some entered
  cases place.symm.trans same
  cases stepped
  rfl

/-- A wait has still to take the lock, or it saw the generation when it did. -/
theorem Waits.waited (waits : Waits arrives i timed first e) :
    ∃ call, e.calls[i]? = some call ∧ (e = first ∧ call = .waiting timed ∨
      Waited arrives i timed first.shared.generation first e call) := by
  cases waits with
  | entering place => exact ⟨_, place, .inl ⟨rfl, rfl⟩⟩
  | going place entered between unreturned =>
    obtain rfl := next_of_waiting place entered
    obtain ⟨call, here, waited⟩ := Waited.steps (waited_waitOn first.shared)
      (getElem?_place place _) (.single (.turn (.call i) entered)) between
    exact ⟨call, here, .inr waited⟩

/-- Whenever a wait has the lock, it returns for a reason only. -/
theorem Waits.turn (waits : Waits arrives i timed first e)
    (stepped : e.next (.call i) = some e') :
    ∃ call', e' = e.place i call' ∧ ∀ answer, call' = .returned answer →
      ∃ outcome, answer = .outcome outcome ∧
        Grounds e.shared first.shared.generation (Expired arrives i timed first e) outcome := by
  obtain ⟨call, place, ⟨rfl, rfl⟩ | waited⟩ := waits.waited
  · exact ⟨_, next_of_waiting place stepped, fun answer => grounds_of_waitOn⟩
  · obtain ⟨call', moved, -, returns⟩ := waited.turn place stepped
    exact ⟨call', moved, returns⟩

/-! ## Outcomes -/

/-- What stands behind the outcome of a wait that took the lock first at `first` and returned in the
step from `e` to `e'`. -/
structure Justified (arrives : τ → τ → Prop) (i : Nat) (timed : Bool) (first e e' : Engine τ)
    (outcome : WaitOutcome) : Prop where
  /-- It returned by itself: no step of another thread makes it return. -/
  own : e.next (.call i) = some e'
  data : outcome = .dataReceived ↔ finishedReads first.trace < finishedReads e'.trace
  shutdown : outcome = .shutdown → e'.shared.phase ≠ .running
  disconnected : outcome = .disconnected → e'.shared.phase = .running ∧ e'.shared.isOpen = false
  timedOut : outcome = .timedOut → Expired arrives i timed first e

/-- Nothing has happened since `first` for which the wait of that position returns. -/
structure Uneventful (i : Nat) (first e : Engine τ) : Prop where
  data : finishedReads e.trace = finishedReads first.trace
  running : e.shared.phase = .running
  isOpen : e.shared.isOpen = true
  early : ∀ seen, e.calls[i]? ≠ some (.expired seen)

/-- A turn that gives no wait a reason to return. -/
inductive Eventless (e : Engine τ) : Label → Prop
  | zeroByteRead {room : Nat} (place : e.stage = .completing room (.ok []))
      (unasked : e.stopRequested = false) : Eventless e .worker
  | recoverableFailure {room : Nat} {cause : IoFailure}
      (place : e.stage = .completing room (.error cause)) (unasked : e.stopRequested = false)
      (isOpen : Transport.isOpen e.transport = true) : Eventless e .worker
  | stalling (place : e.stage.stalls = true) : Eventless e .worker
  | calling {j : Nat} {call : Call} (place : e.calls[j]? = some call)
      (eventless : call.isEventless = true) : Eventless e (.call j)
  | stirring (j : Nat) : Eventless e (.stir j)

/-- The step in which a wait returns is its own. -/
theorem Waits.own (waits : Waits arrives i timed first e) (step : Step arrives e e')
    (returned : e'.calls[i]? = some (.returned answer)) : e.next (.call i) = some e' := by
  have unreturned := waits.unreturned answer
  obtain ⟨call, place, -⟩ := waits.waited
  cases step with
  | arrival f allowed => exact absurd returned unreturned
  | turn label stepped =>
    rcases next_call_at place stepped with rfl | rfl | stays | wakes
    · exact stepped
    · obtain ⟨seen, -, rfl⟩ := next_expire_eq_some stepped
      cases (getElem?_place place _).symm.trans returned
    · cases Option.some.inj (stays.symm.trans returned)
      exact absurd place unreturned
    · have same : call = .returned answer :=
        Call.eq_of_wake_eq (Option.some.inj (wakes.symm.trans returned)) (by rintro _ _ ⟨⟩)
      exact absurd (same ▸ place) unreturned

/-- A wait compares generations, which count the finished reads. -/
theorem Waits.newer_iff (reachable : Reachable arrives first)
    (waits : Waits arrives i timed first e) :
    e.shared.generation ≠ first.shared.generation ↔
      finishedReads first.trace < finishedReads e.trace := by
  have began : first.shared.generation = finishedReads first.trace := reachable.countsFinished
  have now : e.shared.generation = finishedReads e.trace :=
    (reachable.steps waits.steps).countsFinished
  have grown := waits.steps.generation_le
  omega

/-- When it returns, it has grounds for its outcome. -/
theorem Waits.justified (reachable : Reachable arrives first)
    (waits : Waits arrives i timed first e) (step : Step arrives e e')
    (returned : e'.calls[i]? = some (.returned answer)) :
    ∃ outcome, answer = .outcome outcome ∧ Justified arrives i timed first e e' outcome := by
  have own := waits.own step returned
  obtain ⟨call, place, -⟩ := waits.waited
  obtain ⟨call', rfl, returns⟩ := waits.turn own
  obtain ⟨outcome, rfl, grounds⟩ := returns answer
    (Option.some.inj ((getElem?_place place call').symm.trans returned))
  exact ⟨outcome, rfl, own, grounds.data.trans (waits.newer_iff reachable), grounds.shutdown,
    grounds.disconnected, grounds.timedOut⟩

/-! ## While nothing happens -/

/-- While nothing has happened, no step makes it return. -/
theorem Uneventful.unreturned (uneventful : Uneventful i first e)
    (reachable : Reachable arrives first) (waits : Waits arrives i timed first e)
    (step : Step arrives e e') : e'.calls[i]? ≠ some (.returned answer) := by
  intro returned
  obtain ⟨outcome, rfl, own, data, shutdown, disconnected, timedOut⟩ :=
    waits.justified reachable step returned
  obtain ⟨call', rfl, -⟩ := waits.turn own
  cases outcome with
  | dataReceived =>
    have more : finishedReads first.trace < finishedReads e.trace := data.1 rfl
    have same := uneventful.data
    omega
  | shutdown => exact shutdown rfl uneventful.running
  | disconnected =>
    have gone : e.shared.isOpen = false := (disconnected rfl).2
    rw [uneventful.isOpen] at gone
    cases gone
  | timedOut =>
    obtain ⟨seen, place⟩ := (timedOut rfl).place
    exact uneventful.early seen place

/-- Nothing that a wait returns for is different afterwards. -/
structure SameReasons (e e' : Engine τ) : Prop where
  data : finishedReads e'.trace = finishedReads e.trace
  phase : e'.shared.phase = e.shared.phase
  isOpen : e.shared.isOpen = true → e'.shared.isOpen = true

theorem WorkerStep.sameReasons_of_stalls (place : e.stage.stalls = true) (step : WorkerStep e e') :
    SameReasons e e' := by
  cases step
  case recordFull => exact ⟨rfl, rfl, id⟩
  case reportFull => exact ⟨rfl, rfl, id⟩
  case stallCut => exact ⟨rfl, rfl, id⟩
  case stallWoken => exact ⟨rfl, rfl, id⟩
  case recheckFull => exact ⟨rfl, rfl, id⟩
  case recheckFree => exact ⟨rfl, rfl, id⟩
  all_goals
    rw [‹e.stage = _›] at place
    cases place

omit [Transport τ] in
theorem stepCall_sameReasons {j : Nat} (eventless : call.isEventless = true)
    (stepped : e.stepCall j call = some e') : SameReasons e e' := by
  cases call with
  | consuming | resetting | permittingSpace | installing | uninstalling | woken =>
    cases stepped
    exact ⟨rfl, rfl, id⟩
  | _ => cases eventless

/-- An eventless turn gives no wait a reason to return. -/
theorem Eventless.sameReasons {label : Label} (eventless : Eventless e label)
    (stepped : e.next label = some e') : SameReasons e e' := by
  cases eventless with
  | @zeroByteRead room place unasked =>
    have completed : e.work = some (e.complete room (.ok [])) := by simp only [work, place]
    cases completed.symm.trans stepped
    show SameReasons e (conclude _ room none)
    rw [conclude_eq]
    refine ⟨rfl, ?_, id⟩
    show e.shared.phase.heed e.stopRequested = e.shared.phase
    rw [unasked]
    rfl
  | @recoverableFailure room cause place unasked isOpen =>
    have completed : e.work = some (e.complete room (.error cause)) := by simp only [work, place]
    cases completed.symm.trans stepped
    show SameReasons e (conclude _ room (some cause))
    rw [conclude_eq]
    refine ⟨rfl, ?_, fun _ => isOpen⟩
    show e.shared.phase.heed e.stopRequested = e.shared.phase
    rw [unasked]
    rfl
  | stalling place => exact (WorkerStep.of_work stepped).sameReasons_of_stalls place
  | calling place eventless =>
    obtain ⟨call, same, turned⟩ := next_call_eq_some stepped
    obtain rfl := Option.some.inj (place.symm.trans same)
    exact stepCall_sameReasons eventless turned
  | stirring j =>
    obtain ⟨call, place, stirred⟩ := Option.bind_eq_some_iff.1 stepped
    cases stirred
    exact ⟨rfl, rfl, id⟩

/-- No wait runs out of time in an eventless turn. -/
theorem Eventless.early {label : Label} (eventless : Eventless e label)
    (waits : Waits arrives i timed first e) (early : ∀ seen, e.calls[i]? ≠ some (.expired seen))
    (stepped : e.next label = some e') : ∀ seen, e'.calls[i]? ≠ some (.expired seen) := by
  intro since expired
  obtain ⟨call, place, waited⟩ := waits.waited
  rcases next_call_at place stepped with rfl | rfl | stays | wakes
  · -- of the turns of a wait only that of one that was woken is eventless, and it parks or returns
    cases eventless with
    | calling here eventless =>
      obtain rfl := Option.some.inj (place.symm.trans here)
      rcases waited with ⟨-, rfl⟩ | waited
      · cases eventless
      cases waited with
      | woken =>
        obtain ⟨call, same, turned⟩ := next_call_eq_some stepped
        cases place.symm.trans same
        cases turned
        have passed := Option.some.inj ((getElem?_place place _).symm.trans expired)
        unfold waitOn at passed
        split at passed <;> cases passed
      | _ => cases eventless
  · cases eventless
  · exact early since ((Option.some.inj (stays.symm.trans expired)) ▸ place)
  · have same : call = .expired since :=
      Call.eq_of_wake_eq (Option.some.inj (wakes.symm.trans expired)) (by rintro _ _ ⟨⟩)
    exact early since (same ▸ place)

theorem Eventless.uneventful {label : Label} (eventless : Eventless e label)
    (waits : Waits arrives i timed first e) (uneventful : Uneventful i first e)
    (stepped : e.next label = some e') : Uneventful i first e' := by
  obtain ⟨finished, phase, stays⟩ := eventless.sameReasons stepped
  obtain ⟨data, running, isOpen, early⟩ := uneventful
  exact ⟨finished.trans data, phase.trans running, stays isOpen,
    eventless.early waits early stepped⟩

/-- Whoever else waits, and whatever is read, released, registered, requested and woken meanwhile:
a wait returns in a step of its own, and its outcome says what has happened since it took the lock
first.  While none of this has happened, no step at all makes it return, and reads without bytes,
recoverable failures, stalls, bytes that are released, consumers that are registered and spurious
wake-ups are none of this. -/
theorem wait_outcome_justified (reachable : Reachable arrives first)
    (waits : Waits arrives i timed first e) (step : Step arrives e e') :
    (∀ answer, e'.calls[i]? = some (.returned answer) → ∃ outcome, answer = .outcome outcome ∧
      Justified arrives i timed first e e' outcome) ∧
    (Uneventful i first e → (∀ answer, e'.calls[i]? ≠ some (.returned answer)) ∧
      ∀ label, Eventless e label → e.next label = some e' → Uneventful i first e') := by
  refine ⟨fun answer returned => waits.justified reachable step returned, fun uneventful => ?_⟩
  refine ⟨fun answer => uneventful.unreturned reachable waits step, ?_⟩
  exact fun label eventless stepped => eventless.uneventful waits uneventful stepped

end

/-- A wait that is woken for no reason parks again, through bytes that a caller releases, a read
without bytes and one that fails.  It returns once data have come, although shutdown is requested
before it has the lock. -/
theorem wait_outcome_justified_of_late_data :
    ∃ start first e e' : Engine Script,
      spawn { capacity := 4 } {} none = .ok start ∧
      first = start.run [.worker, .worker, .worker, .enter (.wait true)] ∧
      e = ((first.run [.call 0]).mapTransport
        (·.push [.zero, .failure .timedOut, .data [1]])).run ([.stir 0, .call 0, .enter .reset,
          .call 1, .call 1] ++ List.replicate 8 .worker ++ .timer :: List.replicate 3 .worker ++
          [.enter .close, .call 2]) ∧
      Waits Script.Pushed 0 true first e ∧ e.shared.phase = .stopping ∧
      Step Script.Pushed e e' ∧ e'.calls[0]? = some (.returned (.outcome .dataReceived)) ∧
      (∀ answer, e'.calls[0]? = some (.returned answer) → ∃ outcome, answer = .outcome outcome ∧
        Justified Script.Pushed 0 true first e e' outcome) ∧
      (Uneventful 0 first e → (∀ answer, e'.calls[0]? ≠ some (.returned answer)) ∧
        ∀ label, Eventless e label → e.next label = some e' → Uneventful 0 first e') := by
  have started : Reachable Script.Pushed _ := .started { capacity := 4 } {} none rfl
  have first := started.steps (steps_run _ [.worker, .worker, .worker, .enter (.wait true)])
  refine ⟨_, _, _, _, rfl, rfl, rfl, ?waits, rfl, .turn (.call 0) rfl, rfl,
    wait_outcome_justified first ?waits (.turn (.call 0) rfl)⟩
  refine .going rfl rfl (.head (.arrival _ ⟨_, rfl⟩) (steps_run _ _)) ?_
  rintro answer ⟨⟩

end Engine

end ByteTap
