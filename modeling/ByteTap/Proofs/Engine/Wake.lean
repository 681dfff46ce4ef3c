import ByteTap.Proofs.Engine.Stall

/-!
# No wake-up of a waiting caller is lost

A caller that waits for data parks under the lock, and only while it has no reason to return.
A reason comes up later in one of two ways: in a section that wakes the parked callers before it
lets go of the lock, or on a way that ends in a wake-up.  There are three such ways: that of the
caller who has requested shutdown, and those of the worker through the loss of the transport and
out of its loop.  `Stage.toSignal?` counts the worker's steps on them.

* `Reachable.served`: a parked caller with a reason has somebody on one of these ways;
* `WakesWithin`: whatever the others do, whoever is on such a way gets to its end.
-/

namespace ByteTap

namespace Call

/-- A call that waits for a wake-up. -/
def isParked : Call → Bool
  | parked .. => true
  | _ => false

theorem isParked_wake (call : Call) : call.wake.isParked = false := by
  cases call <;> rfl

theorem not_isParked_of_mem_wake {calls : List Call} :
    ∀ call ∈ calls.map wake, call.isParked = false := by
  intro call among
  obtain ⟨asleep, -, rfl⟩ := List.mem_map.1 among
  exact isParked_wake asleep

end Call

namespace Stage

/-- In how many of its own steps the worker wakes the parked callers, if it is on its way through
the loss of the transport or out of the loop. -/
def toSignal? (lost : Bool) : Stage → Option Nat
  | settling _ handled =>
      if !handled.running then some 6 else if handled.failed && lost then some 3 else none
  | reportingFailure _ _ handled =>
      if !handled.running then some 7 else if handled.failed && lost then some 4 else none
  | reportingLoss => some 2
  | signallingLoss => some 1
  | closing => some 5
  | reportingClose _ => some 4
  | markingShut => some 3
  | unwinding _ => some 3
  | finishing => some 2
  | signallingEnd => some 1
  | _ => none

theorem toSignal?_pos {lost : Bool} {stage : Stage} {n : Nat}
    (way : stage.toSignal? lost = some n) : 0 < n := by
  unfold toSignal? at way
  split at way <;> (try split at way) <;> (try split at way) <;> cases way <;> decide

end Stage

namespace Engine

variable {τ : Type} [Transport τ] {arrives : τ → τ → Prop} {e e' : Engine τ}

/-- In how many of its own steps the worker wakes the parked callers. -/
def toSignal? (e : Engine τ) : Option Nat := e.stage.toSignal? (!Transport.isOpen e.transport)

/-! ## A way that ends in a wake-up -/

/-- Each step of the worker on its way wakes the parked callers or brings it nearer to that. -/
theorem WorkerStep.signals_or_nears {n : Nat} (step : WorkerStep e e')
    (way : e.toSignal? = some n) :
    e'.calls = e.calls.map Call.wake ∨ ∃ m, m < n ∧ e'.toSignal? = some m := by
  unfold toSignal? at way ⊢
  cases step
  case signalLoss => exact .inl rfl
  case signalEnd => exact .inl rfl
  case reportFailure handled place =>
    rw [place] at way
    refine .inr ?_
    cases running : handled.running <;> simp_all [Stage.toSignal?] <;> omega
  all_goals
    have place := ‹e.stage = _›
    rw [place] at way
    simp_all [Stage.toSignal?]
    try omega

/-- On its way the worker never rests. -/
theorem work_of_toSignal {n : Nat} (way : e.toSignal? = some n) :
    ∃ e', e.next .worker = some e' := by
  cases step : e.next .worker with
  | some e' => exact ⟨e', rfl⟩
  | none =>
    unfold toSignal? at way
    rcases work_eq_none_iff.1 step with ⟨place, -, -⟩ | ⟨place, -⟩ | ⟨place, -, -⟩ |
      ⟨place, -⟩ | place <;> (rw [place] at way; cases way)

/-- A step of any thread but that of the label, or an arrival. -/
inductive OthersStep (arrives : τ → τ → Prop) (label : Label) (e : Engine τ) : Engine τ → Prop
  | turn {e' : Engine τ} (other : Label) (differs : other ≠ label)
      (stepped : e.next other = some e') : OthersStep arrives label e e'
  | arrival (f : τ → τ) (allowed : arrives e.transport (f e.transport)) :
      OthersStep arrives label e (e.mapTransport f)

/-- However the others go on, the thread of the label always has a step, and it wakes every parked
caller within that many steps of its own. -/
def WakesWithin (arrives : τ → τ → Prop) (label : Label) : Nat → Engine τ → Prop
  | 0, _ => False
  | n + 1, e => ∀ later, Relation.ReflTransGen (OthersStep arrives label) e later →
      ∃ e', later.next label = some e' ∧
        ((∀ call ∈ e'.calls, call.isParked = false) ∨ WakesWithin arrives label n e')

/-- Nobody takes the worker off its way. -/
theorem OthersStep.toSignal
    (keeps : ∀ transport transport' : τ, arrives transport transport' →
      Transport.isOpen transport' = Transport.isOpen transport)
    {n : Nat} (way : e.toSignal? = some n) (step : OthersStep arrives .worker e e') :
    e'.toSignal? = some n := by
  unfold toSignal? at way ⊢
  cases step with
  | arrival f allowed =>
    show e.stage.toSignal? (!Transport.isOpen (f e.transport)) = some n
    rw [keeps _ _ allowed, way]
  | turn other differs stepped =>
    have callers (step : CallStep e e') : e'.stage.toSignal? (!Transport.isOpen e'.transport) =
        some n := by
      rw [step.same_worker.stage, step.same_worker.transport, way]
    cases other with
    | worker => exact absurd rfl differs
    | timer =>
      obtain ⟨delay, room, full, place, -⟩ := wakeFromBackoff_eq_some stepped
      rw [place] at way
      cases way
    | _ => exact callers (.of_others rfl stepped)

/-- On its way the worker counts its steps down to the wake-up, whatever the others do. -/
theorem wakesWithin_of_toSignal
    (keeps : ∀ transport transport' : τ, arrives transport transport' →
      Transport.isOpen transport' = Transport.isOpen transport)
    {n m : Nat} (way : e.toSignal? = some m) (enough : m ≤ n) :
    WakesWithin arrives .worker n e := by
  induction n generalizing e m with
  | zero =>
    have := Stage.toSignal?_pos way
    omega
  | succ n ih =>
    intro later others
    have way' : later.toSignal? = some m := by
      induction others with
      | refl => exact way
      | tail _ step before => exact step.toSignal keeps before
    obtain ⟨e', stepped⟩ := work_of_toSignal way'
    refine ⟨e', stepped, ?_⟩
    rcases (WorkerStep.of_work stepped).signals_or_nears way' with woken | ⟨nearer, less, way''⟩
    · left
      rw [woken]
      exact Call.not_isParked_of_mem_wake
    · right
      exact ih way'' (by omega)

omit [Transport τ] in
/-- A step of one call changes the place of that call, and wakes others at most. -/
theorem stepCall_calls {i : Nat} {call : Call} (step : e.stepCall i call = some e') :
    ∃ call', e'.calls = e.calls.set i call' ∨ e'.calls = (e.calls.map Call.wake).set i call' := by
  cases call with
  | closing =>
    dsimp only [stepCall] at step
    split at step <;> (cases step; exact ⟨_, .inl rfl⟩)
  | announcingStop => cases step; exact ⟨_, .inr rfl⟩
  | joining =>
    dsimp only [stepCall] at step
    split at step <;> cases step
    exact ⟨_, .inl rfl⟩
  | parked timed seen => cases step
  | returned answer => cases step
  | _ => cases step; exact ⟨_, .inl rfl⟩

/-- Where nobody makes a call, there are as many calls as before. -/
theorem calls_length_of_turn {label : Label} (others : ∀ request, label ≠ .enter request)
    (stepped : e.next label = some e') : e'.calls.length = e.calls.length := by
  cases label with
  | worker => exact (WorkerStep.of_work stepped).calls_length
  | timer => exact (WorkerStep.of_wakeFromBackoff stepped).calls_length
  | enter request => exact absurd rfl (others request)
  | call i =>
    obtain ⟨call, -, stepped⟩ := next_call_eq_some stepped
    obtain ⟨call', moved | woken⟩ := stepCall_calls stepped
    · rw [moved, List.length_set]
    · rw [woken, List.length_set, List.length_map]
  | expire i =>
    obtain ⟨seen, -, rfl⟩ := next_expire_eq_some stepped
    exact List.length_set
  | stir i =>
    obtain ⟨call, -, stepped⟩ := Option.bind_eq_some_iff.1 stepped
    cases stepped
    exact List.length_set

/-- A turn moves the call of a position only if it is the turn of that call; every other turn wakes
it at most. -/
theorem next_call_at {label : Label} {i : Nat} {call : Call} (place : e.calls[i]? = some call)
    (stepped : e.next label = some e') :
    label = .call i ∨ label = .expire i ∨
      e'.calls[i]? = some call ∨ e'.calls[i]? = some call.wake := by
  have inside : i < e.calls.length := (List.getElem?_eq_some_iff.1 place).1
  have woken : (e.calls.map Call.wake)[i]? = some call.wake := by
    rw [List.getElem?_map, place]
    rfl
  have workers (step : WorkerStep e e') :
      e'.calls[i]? = some call ∨ e'.calls[i]? = some call.wake := by
    rcases step.calls_eq with same | wake
    · exact .inl (by rw [same, place])
    · exact .inr (by rw [wake, woken])
  cases label with
  | worker => exact .inr (.inr (workers (.of_work stepped)))
  | timer => exact .inr (.inr (workers (.of_wakeFromBackoff stepped)))
  | enter request =>
    cases stepped
    exact .inr (.inr (.inl ((List.getElem?_append_left inside).trans place)))
  | call j =>
    by_cases same : j = i
    · exact .inl (congrArg Label.call same)
    · obtain ⟨other, -, stepped⟩ := next_call_eq_some stepped
      obtain ⟨other', stays | wakes⟩ := stepCall_calls stepped
      · exact .inr (.inr (.inl (by rw [stays, List.getElem?_set_ne same, place])))
      · exact .inr (.inr (.inr (by rw [wakes, List.getElem?_set_ne same, woken])))
  | expire j =>
    by_cases same : j = i
    · exact .inr (.inl (congrArg Label.expire same))
    · obtain ⟨other, -, stepped⟩ := Option.bind_eq_some_iff.1 stepped
      obtain ⟨other', -, placed⟩ := Option.bind_eq_some_iff.1 stepped
      cases placed
      exact .inr (.inr (.inl ((List.getElem?_set_ne same).trans place)))
  | stir j =>
    obtain ⟨other, here, stepped⟩ := Option.bind_eq_some_iff.1 stepped
    cases stepped
    by_cases same : j = i
    · subst same
      obtain rfl : call = other := Option.some.inj (place.symm.trans here)
      exact .inr (.inr (.inr (List.getElem?_set_self inside)))
    · exact .inr (.inr (.inl ((List.getElem?_set_ne same).trans place)))

/-- The caller who has requested shutdown stays where it is while the others go on. -/
theorem OthersStep.announcingStop {i : Nat} (place : e.calls[i]? = some .announcingStop)
    (step : OthersStep arrives (.call i) e e') : e'.calls[i]? = some .announcingStop := by
  cases step with
  | arrival f allowed => exact place
  | turn other differs stepped =>
    rcases next_call_at place stepped with own | rfl | stays | wakes
    · exact absurd own differs
    · obtain ⟨seen, parked, -⟩ := next_expire_eq_some stepped
      cases place.symm.trans parked
    · exact stays
    · exact wakes

/-- A caller that has requested shutdown wakes the parked ones in its next step. -/
theorem wakesWithin_of_announcingStop {i : Nat} (place : e.calls[i]? = some .announcingStop) :
    WakesWithin arrives (.call i) 1 e := by
  intro later others
  have here : later.calls[i]? = some .announcingStop := by
    induction others with
    | refl => exact place
    | tail _ step before => exact step.announcingStop before
  refine ⟨(later.note .shutdownRequested).wakeAll.place i .permittingStop, ?_, .inl ?_⟩
  · simp [next, here, stepCall]
  · intro call among
    rcases List.mem_or_eq_of_mem_set among with woken | rfl
    · exact Call.not_isParked_of_mem_wake call woken
    · rfl

/-! ## Who gives a reason wakes -/

omit [Transport τ] in
theorem waitReason_ne_none_iff {s : Shared} {seen : Nat} :
    waitReason s seen ≠ none ↔ s.generation ≠ seen ∨ s.phase ≠ .running ∨ s.isOpen = false := by
  unfold waitReason
  by_cases newer : s.generation = seen <;> by_cases running : s.phase = .running <;>
    cases s.isOpen <;> simp [newer, running]

theorem waitOn_eq_parked {s : Shared} {timed timed' : Bool} {seen seen' : Nat}
    (parks : waitOn s timed seen = .parked timed' seen') : waitReason s seen' = none := by
  unfold waitOn at parks
  split at parks
  · cases parks
  · next nothing => cases parks; exact nothing

theorem waitOn_eq_returned {s : Shared} {timed : Bool} {seen : Nat} {answer : Answer}
    (returned : waitOn s timed seen = .returned answer) :
    ∃ outcome, waitReason s seen = some outcome ∧ answer = .outcome outcome := by
  unfold waitOn at returned
  split at returned
  · next outcome reason => cases returned; exact ⟨outcome, reason, rfl⟩
  · cases returned

/-- Somebody is on a way that ends in a wake-up. -/
def OwesWake (e : Engine τ) : Prop :=
  (∃ i : Nat, e.calls[i]? = some .announcingStop) ∨ ∃ n, e.toSignal? = some n

/-- A parked caller with a reason to return will be woken. -/
def Served (e : Engine τ) : Prop :=
  ∀ (i : Nat) (timed : Bool) (seen : Nat), e.calls[i]? = some (.parked timed seen) →
    waitReason e.shared seen ≠ none → e.OwesWake

/-- Right after a wake-up nobody is parked. -/
theorem served_of_wake {calls : List Call} (woken : e.calls = calls.map Call.wake) : Served e := by
  intro i timed seen parked
  have among : Call.parked timed seen ∈ calls.map Call.wake :=
    woken ▸ List.mem_of_getElem? parked
  cases Call.not_isParked_of_mem_wake _ among

omit [Transport τ] in
/-- A consumer's request to stop that takes effect wakes the parked callers. -/
theorem wakeIf_or_heed (e : Engine τ) :
    Call.wakeIf (e.stopRequested && e.shared.phase == .running) e.calls = e.calls.map Call.wake ∨
      e.shared.phase.heed e.stopRequested = e.shared.phase := by
  unfold Call.wakeIf Phase.heed
  split
  · exact .inl rfl
  · exact .inr rfl

/-- A step of the worker that gives a reason to return either wakes the parked callers at once or
is on a way that ends in a wake-up. -/
theorem WorkerStep.wakes_or_owes_or_keeps (step : WorkerStep e e') :
    e'.calls = e.calls.map Call.wake ∨ (∃ n, e'.toSignal? = some n) ∨
      ∀ seen, waitReason e'.shared seen ≠ none → waitReason e.shared seen ≠ none := by
  cases step
  case completeFailed room cause place =>
    rcases wakeIf_or_heed e with woken | heed
    · exact .inl woken
    rw [heed]
    right
    by_cases running : e.shared.phase = .running
    · cases isOpen : Transport.isOpen e.transport with
      | false => exact .inl ⟨4, by simp [toSignal?, Stage.toSignal?, running, isOpen]⟩
      | true =>
        -- an open transport is no reason to return
        right
        intro seen reason
        rcases waitReason_ne_none_iff.1 reason with newer | stopped | shut
        · exact waitReason_ne_none_iff.2 (.inl newer)
        · exact absurd running stopped
        · exact absurd shut (by simp)
    · exact .inl ⟨7, by simp [toSignal?, Stage.toSignal?, running]⟩
  case completeEmpty room place =>
    rcases wakeIf_or_heed e with woken | heed
    · exact .inl woken
    rw [heed]
    exact .inr (.inr fun _ => id)
  case markShut => exact .inr (.inl ⟨2, rfl⟩)
  case finish => exact .inr (.inl ⟨1, rfl⟩)
  all_goals first
    | exact .inl rfl
    | exact .inr (.inr fun _ => id)

/-- A worker that gives a reason to return is on its way to wake those who wait for one. -/
theorem Served.worker (served : Served e) (step : WorkerStep e e') : Served e' := by
  rcases step.wakes_or_owes_or_keeps with woken | way | keeps
  · exact served_of_wake woken
  · exact fun _ _ _ _ _ => .inr way
  · rcases step.calls_eq with same | woken
    · intro i timed seen parked reason
      -- the reason is an old one, and whoever owed the wake-up for it is a step nearer
      rcases served i timed seen (same ▸ parked) (keeps seen reason) with owed | ⟨n, way⟩
      · exact .inl (same ▸ owed)
      · rcases step.signals_or_nears way with woken | ⟨m, -, way'⟩
        · exact served_of_wake woken i timed seen parked reason
        · exact .inr ⟨m, way'⟩
    · exact served_of_wake woken

/-- One call moves on, and neither gives a reason nor parks with one. -/
theorem Served.set {i : Nat} {old new : Call} (served : Served e)
    (place : e.calls[i]? = some old) (calls : e'.calls = e.calls.set i new)
    (worker : SameWorker e e')
    (keeps : ∀ seen, waitReason e'.shared seen ≠ none → waitReason e.shared seen ≠ none)
    (stays : old = .announcingStop → new = .announcingStop)
    (unparked : ∀ timed seen, new = .parked timed seen → waitReason e.shared seen = none) :
    Served e' := by
  intro j timed seen parked reason
  rw [calls] at parked
  have inside : i < e.calls.length := (List.getElem?_eq_some_iff.1 place).1
  have before : e.OwesWake := by
    -- the parked call may be the very one that has moved
    by_cases same : i = j
    · subst same
      rw [List.getElem?_set_self inside] at parked
      exact absurd (unparked timed seen (Option.some.inj parked)) (keeps seen reason)
    · rw [List.getElem?_set_ne same] at parked
      exact served j timed seen parked (keeps seen reason)
  rcases before with ⟨k, owes⟩ | ⟨n, way⟩
  · refine .inl ⟨k, ?_⟩
    rw [calls]
    by_cases same : i = k
    · subst same
      rw [List.getElem?_set_self inside, stays (Option.some.inj (place.symm.trans owes))]
    · rw [List.getElem?_set_ne same, owes]
  · refine .inr ⟨n, ?_⟩
    unfold toSignal?
    rw [worker.stage, worker.transport]
    exact way

/-- A caller that gives a reason to return wakes those who wait for one, and none parks with it. -/
theorem Served.call (served : Served e) (step : CallStep e e') : Served e' := by
  have worker := step.same_worker
  cases step with
  | enter request =>
    intro j timed seen parked reason
    have old : e.calls[j]? = some (.parked timed seen) := by
      by_cases inside : j < e.calls.length
      · rwa [List.getElem?_append_left inside] at parked
      · rw [List.getElem?_append_right (by omega), List.getElem?_singleton] at parked
        split at parked <;> cases request <;> cases parked
    rcases served j timed seen old reason with ⟨k, owes⟩ | way
    · exact .inl ⟨k, (List.getElem?_append_left (List.getElem?_eq_some_iff.1 owes).1).trans owes⟩
    · exact .inr way
  | @requestStop i place running =>
    -- whoever requests shutdown wakes the parked callers next
    have inside : i < e.calls.length := (List.getElem?_eq_some_iff.1 place).1
    exact fun _ _ _ _ _ => .inl ⟨i, List.getElem?_set_self inside⟩
  | announceStop place =>
    intro j timed seen parked
    have awake : (Call.parked timed seen).isParked = false := by
      rcases List.mem_or_eq_of_mem_set (List.mem_of_getElem? parked) with woken | same
      · exact Call.not_isParked_of_mem_wake _ woken
      · cases same
    cases awake
  | consume place =>
    refine served.set place rfl worker (fun _ => id) (by rintro ⟨⟩) ?_
    intro timed seen parks
    split at parks <;> cases parks
  | beginWait place =>
    exact served.set place rfl worker (fun _ => id) (by rintro ⟨⟩)
      fun timed seen parks => waitOn_eq_parked parks
  | resumeWait place =>
    exact served.set place rfl worker (fun _ => id) (by rintro ⟨⟩)
      fun timed seen parks => waitOn_eq_parked parks
  | stir place =>
    refine served.set place rfl worker (fun _ => id) (by rintro rfl; rfl) ?_
    intro timed seen parks
    have awake := Call.isParked_wake ‹Call›
    rw [parks] at awake
    cases awake
  | _ =>
    exact served.set ‹_› rfl worker (fun _ => id) (by rintro ⟨⟩) (by rintro _ _ ⟨⟩)

theorem Reachable.served
    (keeps : ∀ transport transport' : τ, arrives transport transport' →
      Transport.isOpen transport' = Transport.isOpen transport)
    (reachable : Reachable arrives e) : Served e := by
  refine reachable.invariant ?_ Served.worker Served.call ?_
  · intro settings transport consumer e spawned
    obtain ⟨-, -, registration, registrations, rfl⟩ := spawn_eq_ok spawned
    intro i timed seen parked
    cases parked
  · intro e transport served arrived i timed seen parked reason
    rcases served i timed seen parked reason with owed | ⟨n, way⟩
    · exact .inl owed
    · refine .inr ⟨n, ?_⟩
      show e.stage.toSignal? (!Transport.isOpen transport) = some n
      rw [keeps e.transport transport arrived]
      exact way

/-- A caller that is parked although it has a reason to return is woken: the caller who has
requested shutdown is about to do it, or the worker is on its way through the loss of the transport
or out of its loop, and nothing that the others do keeps that thread from it. -/
theorem no_lost_wake_up
    (keeps : ∀ transport transport' : τ, arrives transport transport' →
      Transport.isOpen transport' = Transport.isOpen transport)
    (reachable : Reachable arrives e) {i : Nat} {timed : Bool} {seen : Nat}
    (parked : e.calls[i]? = some (.parked timed seen)) (reason : waitReason e.shared seen ≠ none) :
    (∃ j : Nat, e.calls[j]? = some .announcingStop ∧ WakesWithin arrives (.call j) 1 e) ∨
      ∃ n, e.stage.toSignal? (!Transport.isOpen e.transport) = some n ∧
        WakesWithin arrives .worker n e := by
  rcases reachable.served keeps i timed seen parked reason with ⟨j, place⟩ | ⟨n, way⟩
  · exact .inl ⟨j, place, wakesWithin_of_announcingStop place⟩
  · exact .inr ⟨n, way, wakesWithin_of_toSignal keeps way (Nat.le_refl n)⟩

/-- The read has failed and the transport is gone; shutdown is requested before the worker says
so, and the caller that waits was not woken yet. -/
theorem no_lost_wake_up_of_unreported_loss :
    ∃ start parked : Engine Script,
      spawn { capacity := 2 } {} none = .ok start ∧
      parked = ((start.run [.worker, .worker, .worker, .enter (.wait false), .call 0]).mapTransport
        (·.push [.disconnect])).run [.worker, .worker, .enter .close, .call 1] ∧
      parked.calls[0]? = some (.parked false 0) ∧
      waitReason parked.shared 0 = some .shutdown ∧ parked.shared.isOpen = false ∧
      ((∃ j : Nat, parked.calls[j]? = some .announcingStop ∧
          WakesWithin Script.Pushed (.call j) 1 parked) ∨
        ∃ n, parked.stage.toSignal? (!parked.transport.isOpen) = some n ∧
          WakesWithin Script.Pushed .worker n parked) := by
  have started : Reachable Script.Pushed _ := .started { capacity := 2 } {} none rfl
  have waiting := started.steps
    (steps_run _ [.worker, .worker, .worker, .enter (.wait false), .call 0])
  have pushed := Reachable.step waiting (.arrival (·.push [.disconnect]) ⟨_, rfl⟩)
  have parked := pushed.steps (steps_run _ [.worker, .worker, .enter .close, .call 1])
  exact ⟨_, _, rfl, rfl, rfl, rfl, rfl,
    no_lost_wake_up (fun _ _ => Script.Pushed.isOpen) parked (i := 0) rfl (by decide)⟩

end Engine

end ByteTap
