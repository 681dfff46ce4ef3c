import ByteTap.Proofs.Engine.Ledger
import ByteTap.Proofs.Engine.Shutdown

/-!
# What still happens after a request to stop

The worker looks at the phase when it arms a read and when it handles one, and issues it in
between.  So a caller who requests shutdown may find one read armed or in flight, and this one may
still be issued, handled and shown to the consumer; no other is armed, and nothing is dropped any
more (`Steps.winding`).  A consumer that asks for shutdown does so while a read is being handled.
That read is accounted like every other and its data are announced, and then the worker goes
straight to shutting the transport (`Steps.shutFirst`).
-/

namespace ByteTap

/-- The reads that were handled, with whatever result. -/
def Tally.handled (t : Tally) : Nat := t.readsCompleted + t.zeroByteReads + t.readErrors

namespace Stage

/-- How many reads the worker issues from here before it arms one. -/
@[simp] def readsLeft : Stage → Nat
  | reportingDrop _ | issuing _ => 1
  | _ => 0

/-- How many reads the worker handles from here before it arms one. -/
@[simp] def handlingsLeft : Stage → Nat
  | reportingDrop _ | issuing _ | reading _ | completing .. => 1
  | _ => 0

/-- At most one read was armed and has yet to be issued. -/
theorem readsLeft_le (stage : Stage) : stage.readsLeft ≤ 1 := by
  cases stage <;> simp

/-- At most one read was armed and has yet to be handled. -/
theorem handlingsLeft_le (stage : Stage) : stage.handlingsLeft ≤ 1 := by
  cases stage <;> simp

/-- The worker has decided to leave its loop, and shuts the transport next. -/
@[simp] def isDeparting : Stage → Bool
  | settling _ handled => !handled.running
  | closing => true
  | _ => false

theorem left_of_isDeparting {stage : Stage} (departing : stage.isDeparting = true) :
    stage.readsLeft = 0 ∧ stage.handlingsLeft = 0 := by
  cases stage <;> first | exact ⟨rfl, rfl⟩ | cases departing

end Stage

namespace Call

/-- The generation at which a wait that has not returned started. -/
@[simp] def waitsSince? : Call → Option Nat
  | parked _ seen | woken _ seen | expired seen => some seen
  | _ => none

theorem waitsSince?_wake (call : Call) : call.wake.waitsSince? = call.waitsSince? := by
  cases call <;> rfl

end Call

namespace Engine

variable {τ : Type} [Transport τ] {arrives : τ → τ → Prop} {e e' : Engine τ}

/-! ## No other read is armed -/

/-- From `e` to `e'` the worker uses up the reads that it had left, and drops nothing. -/
structure Winding (e e' : Engine τ) : Prop where
  issued : (issuedRooms e'.trace).length + e'.stage.readsLeft ≤
    (issuedRooms e.trace).length + e.stage.readsLeft
  handled : e'.shared.tally.handled + e'.stage.handlingsLeft ≤
    e.shared.tally.handled + e.stage.handlingsLeft
  delivered : (deliveries e'.trace).length + e'.stage.handlingsLeft ≤
    (deliveries e.trace).length + e.stage.handlingsLeft
  called : (invocations e'.trace).length + e'.stage.handlingsLeft ≤
    (invocations e.trace).length + e.stage.handlingsLeft
  discarded : discards e'.trace = discards e.trace

omit [Transport τ] in
theorem Winding.refl (e : Engine τ) : Winding e e :=
  ⟨Nat.le_refl _, Nat.le_refl _, Nat.le_refl _, Nat.le_refl _, rfl⟩

omit [Transport τ] in
theorem Winding.trans {e'' : Engine τ} (first : Winding e e') (second : Winding e' e'') :
    Winding e e'' := by
  obtain ⟨issued, handled, delivered, called, discarded⟩ := first
  obtain ⟨issued', handled', delivered', called', discarded'⟩ := second
  exact ⟨by omega, by omega, by omega, by omega, discarded'.trans discarded⟩

/-- Once the engine no longer runs, the worker arms nothing, and every read that it issues or
handles was left to it. -/
theorem WorkerStep.winding (stopped : e.shared.phase ≠ .running) (step : WorkerStep e e') :
    Winding e e' := by
  cases step
  -- A read is armed in a running engine only.
  case armRead running _ _ => exact absurd running stopped
  case armStall running _ _ _ => exact absurd running stopped
  case armDiscard running _ _ _ => exact absurd running stopped
  -- The read that was left to the worker is shown to the consumer now, whether that asks for
  -- shutdown or not.
  case completeHeard reply place _ _ _ _ =>
    constructor <;> cases reply.stops <;> simp [place, Tally.handled] <;> omega
  case completePanicked reply _ place _ _ _ _ =>
    constructor <;> cases reply.stops <;> simp [place, Tally.handled] <;> omega
  all_goals
    have place := ‹e.stage = _›
    constructor <;> simp [place, Tally.handled] <;> omega

omit [Transport τ] in
theorem CallStep.winding (step : CallStep e e') : Winding e e' := by
  cases step <;> constructor <;> simp [Tally.handled]

theorem Step.stays_stopped (stopped : e.shared.phase ≠ .running) (step : Step arrives e e') :
    e'.shared.phase ≠ .running := by
  intro running
  exact stopped (Phase.eq_running_of_le (running ▸ step.phase_le))

/-- However long a stopped engine goes on, it uses up what was left to the worker. -/
theorem Steps.winding (stopped : e.shared.phase ≠ .running) (steps : Steps arrives e e') :
    Winding e e' ∧ e'.shared.phase ≠ .running := by
  induction steps with
  | refl => exact ⟨.refl e, stopped⟩
  | tail _ step ih =>
    obtain ⟨before, still⟩ := ih
    refine ⟨before.trans ?_, step.stays_stopped still⟩
    rcases step.cases with worker | call | ⟨transport, -, rfl⟩
    · exact worker.winding still
    · exact call.winding
    · exact ⟨Nat.le_refl _, Nat.le_refl _, Nat.le_refl _, Nat.le_refl _, rfl⟩

/-- From `e` to `e'` the worker issues and handles that many reads at most, and drops nothing. -/
structure AtMostReads (most : Nat) (e e' : Engine τ) : Prop where
  issued : (issuedRooms e'.trace).length ≤ (issuedRooms e.trace).length + most
  handled : e'.shared.tally.handled ≤ e.shared.tally.handled + most
  delivered : (deliveries e'.trace).length ≤ (deliveries e.trace).length + most
  called : (invocations e'.trace).length ≤ (invocations e.trace).length + most
  discarded : discards e'.trace = discards e.trace

omit [Transport τ] in
theorem Winding.atMostReads {most : Nat} (winding : Winding e e')
    (reads : e.stage.readsLeft ≤ most) (handlings : e.stage.handlingsLeft ≤ most) :
    AtMostReads most e e' := by
  obtain ⟨issued, handled, delivered, called, discarded⟩ := winding
  exact ⟨by omega, by omega, by omega, by omega, discarded⟩

/-! ## Straight to the end -/

theorem WorkerStep.history (step : WorkerStep e e') : e.trace <:+ e'.trace := by
  have two (a b : Event) : e.trace <:+ a :: b :: e.trace :=
    (List.suffix_cons b e.trace).trans (List.suffix_cons a _)
  cases step
  case issueEnded => exact (List.suffix_append_of_suffix (two _ _)).trans (List.suffix_cons _ _)
  case issuePending => exact List.suffix_append_of_suffix (two _ _)
  case completeHeard => exact List.suffix_append_of_suffix (two _ _)
  case completePanicked => exact List.suffix_append_of_suffix (two _ _)
  all_goals simp

theorem Step.history (step : Step arrives e e') : e.trace <:+ e'.trace := by
  rcases step.cases with worker | call | ⟨transport, -, rfl⟩
  · exact worker.history
  · cases call <;> simp
  · exact List.suffix_refl _

/-- What happened on the worker's thread, newest first. -/
def workerTrace (e : Engine τ) : List Event := e.trace.filter (!·.byCaller)

omit [Transport τ] in
theorem workerTrace_shut {failure : Option IoFailure} {notes : List String}
    (history : e'.trace = .shut failure :: ((notes.map Event.noted).reverse ++ e.trace)) :
    e'.workerTrace = .shut failure :: ((notes.map Event.noted).reverse ++ e.workerTrace) := by
  have kept : (notes.map Event.noted).reverse.filter (!·.byCaller) =
      (notes.map Event.noted).reverse := by
    rw [List.filter_eq_self]
    intro event among
    obtain ⟨note, -, rfl⟩ := List.mem_map.1 (List.mem_reverse.1 among)
    rfl
  unfold workerTrace
  rw [history, List.filter_cons_of_pos rfl, List.filter_append, kept]

/-- A departing worker does nothing that shows before it shuts the transport. -/
theorem WorkerStep.departing (departing : e.stage.isDeparting = true) (step : WorkerStep e e') :
    (e'.stage.isDeparting = true ∧ e'.workerTrace = e.workerTrace) ∨
      ∃ (failure : Option IoFailure) (notes : List String),
        e'.workerTrace = .shut failure :: ((notes.map Event.noted).reverse ++ e.workerTrace) := by
  cases step
  case settleStopped => exact .inl ⟨rfl, rfl⟩
  case shut closing _ _ _ => exact .inr ⟨none, closing.notes, workerTrace_shut rfl⟩
  case shutFailed closing cause _ _ _ =>
    exact .inr ⟨some cause, closing.notes, workerTrace_shut rfl⟩
  all_goals
    have place := ‹e.stage = _›
    rw [place] at departing
    simp_all

/-- From `e` to `e'` the worker has done nothing, or it shut the transport before anything else. -/
def ShutFirst (e e' : Engine τ) : Prop :=
  (e'.stage.isDeparting = true ∧ e'.workerTrace = e.workerTrace) ∨
    ∃ (failure : Option IoFailure) (notes : List String),
      .shut failure :: ((notes.map Event.noted).reverse ++ e.workerTrace) <:+ e'.workerTrace

/-- Whatever the callers do meanwhile, a departing worker shuts the transport before anything
else. -/
theorem Steps.shutFirst (departing : e.stage.isDeparting = true) (steps : Steps arrives e e') :
    ShutFirst e e' := by
  induction steps with
  | refl => exact .inl ⟨departing, rfl⟩
  -- the worker shuts the transport in its second turn at the latest, and callers make no entry of
  -- its
  | tail _ step ih =>
    rcases ih with ⟨near, same⟩ | ⟨failure, notes, after⟩
    · rcases step.cases with worker | call | ⟨transport, -, rfl⟩
      · rcases worker.departing near with ⟨still, idle⟩ | ⟨failure, notes, shut⟩
        · exact .inl ⟨still, idle.trans same⟩
        · rw [same] at shut
          exact .inr ⟨failure, notes, shut ▸ List.suffix_refl _⟩
      · refine .inl ⟨?_, ?_⟩
        · rw [call.same_worker.stage]
          exact near
        · have quiet : Quiet arrives _ _ := call.quiet
          exact quiet.history.trans same
      · exact .inl ⟨near, same⟩
    · exact .inr ⟨failure, notes, after.trans (step.history.filter _)⟩

/-! ## Who waits hears of the data -/

/-- No wait started later than now. -/
def WaitsBegan (e : Engine τ) : Prop :=
  ∀ call ∈ e.calls, ∀ seen, call.waitsSince? = some seen → seen ≤ e.shared.generation

theorem WorkerStep.generation_le (step : WorkerStep e e') :
    e.shared.generation ≤ e'.shared.generation := by
  cases step <;> simp

omit [Transport τ] in
theorem CallStep.generation_same (step : CallStep e e') :
    e'.shared.generation = e.shared.generation := by
  cases step <;> rfl

theorem Step.generation_le (step : Step arrives e e') :
    e.shared.generation ≤ e'.shared.generation := by
  rcases step.cases with worker | call | ⟨transport, -, rfl⟩
  · exact worker.generation_le
  · exact Nat.le_of_eq call.generation_same.symm
  · exact Nat.le_refl _

theorem Steps.generation_le (steps : Steps arrives e e') :
    e.shared.generation ≤ e'.shared.generation := by
  induction steps with
  | refl => exact Nat.le_refl _
  | tail _ step ih => exact Nat.le_trans ih step.generation_le

/-- New data come after the start of every wait. -/
theorem WaitsBegan.worker (began : WaitsBegan e) (step : WorkerStep e e') : WaitsBegan e' := by
  intro call among seen since
  have later := step.generation_le
  rcases step.calls_eq with same | woken
  · have := began call (same ▸ among) seen since
    omega
  · rw [woken] at among
    obtain ⟨asleep, before, rfl⟩ := List.mem_map.1 among
    have := began asleep before seen (by rwa [Call.waitsSince?_wake] at since)
    omega

omit [Transport τ] in
/-- A wait that goes on after a step of a caller went on before, or has just started. -/
theorem CallStep.waits (step : CallStep e e') {call : Call} (among : call ∈ e'.calls) {seen : Nat}
    (since : call.waitsSince? = some seen) :
    seen = e.shared.generation ∨ ∃ old ∈ e.calls, old.waitsSince? = some seen := by
  have before : call ∈ e.calls →
      seen = e.shared.generation ∨ ∃ old ∈ e.calls, old.waitsSince? = some seen :=
    fun old => .inr ⟨call, old, since⟩
  have on (timed : Bool) (seen' : Nat) (parks : (waitOn e.shared timed seen').waitsSince? =
      some seen) : seen' = seen := by
    unfold waitOn at parks
    split at parks <;> cases parks
    rfl
  cases step
  case enter request =>
    rcases List.mem_append.1 among with old | new
    · exact before old
    · rw [List.mem_singleton.1 new] at since
      cases request <;> cases since
  case announceStop =>
    rcases List.mem_or_eq_of_mem_set among with woken | rfl
    · obtain ⟨asleep, old, rfl⟩ := List.mem_map.1 woken
      exact .inr ⟨asleep, old, by rwa [Call.waitsSince?_wake] at since⟩
    · cases since
  case consume =>
    rcases List.mem_or_eq_of_mem_set among with old | rfl
    · exact before old
    · split at since <;> cases since
  -- a wait that goes on to sleep starts now, or keeps the generation that it had seen
  case beginWait =>
    rcases List.mem_or_eq_of_mem_set among with old | rfl
    · exact before old
    · exact .inl (on _ _ since).symm
  case resumeWait timed place =>
    rcases List.mem_or_eq_of_mem_set among with old | rfl
    · exact before old
    · exact .inr ⟨_, List.mem_of_getElem? place, by rw [← on _ _ since]; rfl⟩
  case expire seen' place =>
    rcases List.mem_or_eq_of_mem_set among with old | rfl
    · exact before old
    · exact .inr ⟨_, List.mem_of_getElem? place, since⟩
  case stir place =>
    rcases List.mem_or_eq_of_mem_set among with old | rfl
    · exact before old
    · exact .inr ⟨_, List.mem_of_getElem? place, by rwa [Call.waitsSince?_wake] at since⟩
  all_goals
    rcases List.mem_or_eq_of_mem_set among with old | rfl
    · exact before old
    · cases since

omit [Transport τ] in
theorem WaitsBegan.call (began : WaitsBegan e) (step : CallStep e e') : WaitsBegan e' := by
  intro call among seen since
  rw [step.generation_same]
  rcases step.waits among since with now | ⟨old, before, since'⟩
  · omega
  · exact began old before seen since'

theorem Reachable.waitsBegan (reachable : Reachable arrives e) : WaitsBegan e := by
  refine reachable.invariant ?_ WaitsBegan.worker WaitsBegan.call ?_
  · intro settings transport consumer e spawned
    obtain ⟨-, -, registration, registrations, rfl⟩ := spawn_eq_ok spawned
    intro call among
    cases among
  · exact fun began _ => began

/-- A call that was waiting when data came: it has returned and says so, or it is awake and will
find that the generation is no longer the one it saw. -/
inductive HearsOfData (seen : Nat) : Call → Prop
  | woken (timed : Bool) : HearsOfData seen (.woken timed seen)
  | expired : HearsOfData seen (.expired seen)
  | returned : HearsOfData seen (.returned (.outcome .dataReceived))

/-- A wait that is woken hears of data, since it was under way. -/
theorem HearsOfData.wake {call : Call} {seen : Nat} (since : call.waitsSince? = some seen) :
    HearsOfData seen call.wake := by
  cases call with
  | parked timed seen' => cases since; exact .woken timed
  | woken timed seen' => cases since; exact .woken timed
  | expired seen' => cases since; exact .expired
  | _ => cases since

omit [Transport τ] in
/-- Once it is awake and data have come, a wait goes on only to say so. -/
theorem HearsOfData.move {call call' : Call} {seen : Nat} (hears : HearsOfData seen call)
    (newer : e.shared.generation ≠ seen) (move : CallMove e e' call call') :
    HearsOfData seen call' := by
  have reason : waitReason e.shared seen = some .dataReceived := by
    unfold waitReason
    rw [if_pos (by simpa using newer)]
  cases move
  case wake => cases hears <;> constructor
  -- an awake caller looks at the generation before anything else
  case resumeWait timed seen' =>
    cases hears
    unfold waitOn
    rw [reason]
    exact .returned
  case endWait seen' =>
    cases hears
    rw [if_pos (by simpa using newer)]
    exact .returned
  all_goals first | exact hears | cases hears

/-- A wait that data have overtaken hears of them, whatever the others do. -/
theorem Steps.hearsOfData {i : Nat} {call : Call} {seen : Nat} (place : e.calls[i]? = some call)
    (hears : HearsOfData seen call) (newer : seen < e.shared.generation)
    (steps : Steps arrives e e') :
    ∃ call', e'.calls[i]? = some call' ∧ HearsOfData seen call' := by
  have kept : (∃ call', e'.calls[i]? = some call' ∧ HearsOfData seen call') ∧
      seen < e'.shared.generation := by
    induction steps with
    | refl => exact ⟨⟨call, place, hears⟩, newer⟩
    | tail _ step ih =>
      obtain ⟨⟨call', place', hears'⟩, newer'⟩ := ih
      obtain ⟨call'', place'', move⟩ := step.move place'
      exact ⟨⟨call'', place'', hears'.move (by omega) move⟩,
        Nat.lt_of_lt_of_le newer' step.generation_le⟩
  exact kept.1

/-! ## A request to stop -/

/-- The worker is about to hand a read to a consumer that asks for shutdown and returns. -/
structure StopsWhenShown (e : Engine τ) (room : Nat) (bytes : Bytes) (reply : Reply) : Prop where
  place : e.stage = .completing room (.ok bytes)
  nonempty : bytes ≠ []
  replied : ∃ registration, e.shared.registration = some registration ∧
    registration.consumer.reply ((e.shared.buffer.extend bytes).filled :: registration.history) =
      reply
  stops : reply.stops = true
  returned : reply.panic = none

/-- A read was handed to a consumer that returned: its bytes are in the buffer, what the consumer
is done with is not, and all of it is counted. -/
structure Accounted (e e' : Engine τ) (bytes : Bytes) (reply : Reply) : Prop where
  content : e'.shared.buffer.filled = (e.shared.buffer.extend bytes).filled.drop reply.amount
  tally : e'.shared.tally =
    { e.shared.tally with
      readsCompleted := e.shared.tally.readsCompleted + 1
      bytesReceived := e.shared.tally.bytesReceived + (e.shared.buffer.accepted bytes).length
      callbacksInvoked := e.shared.tally.callbacksInvoked + 1
      bytesReleased := e.shared.tally.bytesReleased
        + min reply.amount (e.shared.buffer.extend bytes).filled.length }
  generation : e'.shared.generation = e.shared.generation + 1

/-- What such a read leaves behind. -/
theorem StopsWhenShown.step {room : Nat} {bytes : Bytes} {reply : Reply}
    (asks : StopsWhenShown e room bytes reply) (step : WorkerStep e e') :
    Accounted e e' bytes reply ∧ e'.calls = e.calls.map Call.wake ∧
      e'.shared.phase ≠ .running ∧ e'.stage.isDeparting = true := by
  obtain ⟨place, nonempty, ⟨registration, heard, replied⟩, stops, returned⟩ := asks
  have heeds (asked : Bool) : e.shared.phase.heed (asked || reply.stops) ≠ .running := by
    rw [stops, Bool.or_true]
    exact Phase.heed_asked_ne_running _
  cases step
  case completeHeard place' _ heard' replied' returned' =>
    cases place.symm.trans place'
    cases heard.symm.trans heard'
    cases replied.symm.trans replied'
    refine ⟨⟨Buffer.filled_consume _ _, ?_, rfl⟩, rfl, heeds _, ?_⟩
    · rw [Buffer.length_filled]
      rfl
    · simpa using heeds e.stopRequested
  -- the other ways to handle a read have no bytes, no consumer, or a panic
  case completeEmpty place' =>
    cases place.symm.trans place'
    exact absurd rfl nonempty
  case completeUnheard place' _ nobody => exact absurd (heard.symm.trans nobody) (by simp)
  case completePanicked place' _ heard' replied' panicked =>
    cases place.symm.trans place'
    cases heard.symm.trans heard'
    cases replied.symm.trans replied'
    exact absurd (returned.symm.trans panicked) (by simp)
  all_goals cases place.symm.trans ‹e.stage = _›

/-- After a caller has requested shutdown, the worker issues one more read at most and handles one
more at most, and drops nothing.  If a consumer asks for shutdown and returns, then the read that it
was shown is the last one: it is accounted like every other, whoever waits hears of its data, and
the worker goes straight to shutting the transport. -/
theorem after_stop_request (reachable : Reachable arrives e) :
    (e.shared.phase ≠ .running → ∀ e', Steps arrives e e' → AtMostReads 1 e e') ∧
    (∀ room bytes reply, StopsWhenShown e room bytes reply →
      ∃ e', e.next .worker = some e' ∧ Accounted e e' bytes reply ∧
        ∀ later, Steps arrives e' later → AtMostReads 0 e' later ∧ ShutFirst e' later ∧
          ∀ (i : Nat) (call : Call) (seen : Nat), e.calls[i]? = some call →
            call.waitsSince? = some seen →
            ∃ call', later.calls[i]? = some call' ∧ HearsOfData seen call') := by
  refine ⟨?_, ?_⟩
  · intro stopped e' steps
    exact (steps.winding stopped).1.atMostReads e.stage.readsLeft_le e.stage.handlingsLeft_le
  · intro room bytes reply asks
    have stepped : e.next .worker = some (e.complete room (.ok bytes)) := by
      simp only [next, work, asks.place]
    obtain ⟨accounted, woken, stopped, departing⟩ := asks.step (.of_work stepped)
    refine ⟨_, stepped, accounted, ?_⟩
    intro later steps
    obtain ⟨noRead, noHandling⟩ := Stage.left_of_isDeparting departing
    refine ⟨?_, steps.shutFirst departing, ?_⟩
    · exact (steps.winding stopped).1.atMostReads (by omega) (by omega)
    · -- the waiter has seen an older generation, and the read has started a new one
      intro i call seen place since
      have began := reachable.waitsBegan call (List.mem_of_getElem? place) seen since
      have awake : (e.complete room (.ok bytes)).calls[i]? = some call.wake := by
        rw [woken, List.getElem?_map, place, Option.map_some]
      have newer := accounted.generation
      exact steps.hearsOfData awake (.wake since) (by omega)

/-- A caller requests shutdown while a read is in hand, another one waits, and the consumer that is
shown the read asks for shutdown as well. -/
theorem after_stop_request_of_late_read :
    ∃ start asked shown ended : Engine Script,
      spawn { capacity := 4 } { steps := [.data [7], .data [8]] }
        (some (Consumer.all.stoppingAt 1)) = .ok start ∧
      asked = start.run [.worker, .enter (.wait false), .call 0, .worker, .worker, .enter .close,
        .call 1] ∧
      asked.shared.phase = .stopping ∧
      StopsWhenShown asked 4 [7] { amount := 1, stops := true } ∧
      asked.next .worker = some shown ∧
      Accounted asked shown [7] { amount := 1, stops := true } ∧
      ended = shown.run [.call 1, .call 1, .worker, .worker, .worker, .worker, .worker, .call 0,
        .call 1] ∧
      AtMostReads 1 asked ended ∧ AtMostReads 0 shown ended ∧ ShutFirst shown ended ∧
      ended.answers = [some (.outcome .dataReceived), some .done] := by
  have started : Reachable (fun _ _ : Script => False) _ := .started { capacity := 4 }
    { steps := [.data [7], .data [8]] } (some (Consumer.all.stoppingAt 1)) rfl
  have asked := started.steps (steps_run _ [.worker, .enter (.wait false), .call 0, .worker,
    .worker, .enter .close, .call 1])
  obtain ⟨further, last⟩ := after_stop_request asked
  obtain ⟨shown, stepped, accounted, later⟩ := last 4 [7] { amount := 1, stops := true }
    ⟨rfl, by decide, ⟨_, rfl, rfl⟩, rfl, rfl⟩
  cases stepped
  obtain ⟨noMore, straight, -⟩ := later _ (steps_run _ [.call 1, .call 1, .worker, .worker, .worker,
    .worker, .worker, .call 0, .call 1])
  refine ⟨_, _, _, _, rfl, rfl, rfl, ⟨rfl, by decide, ⟨_, rfl, rfl⟩, rfl, rfl⟩, rfl, accounted, rfl,
    ?_, noMore, straight, rfl⟩
  exact further (by decide) _ (.head (.turn .worker rfl) (steps_run _ _))

end Engine

end ByteTap
