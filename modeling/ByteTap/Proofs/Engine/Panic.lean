import ByteTap.Proofs.Engine.AfterStop
import ByteTap.Proofs.Engine.Progress
import ByteTap.Proofs.Engine.Reports
import ByteTap.Proofs.Engine.Stream
import ByteTap.Proofs.Engine.Wait

/-!
# A consumer that panics

The consumer is called in the middle of the delivery of a read, with the lock in hand.  If it
panics, the bytes are in the buffer and were counted, and the rest of the delivery is left out: the
call is not counted, nothing is released, and nobody is told of data (`Interrupted`).  The worker
unwinds from there.  It gives the transport up without shutting it, reports the panic, and closes
the engine.

* `Panics.interrupted`: where the panic leaves the delivery;
* `Aftermath.step`, `Steps.aftermath`: from then on callers release bytes, and the worker does
  nothing but report the panic;
* `CallMove.knowsOfData`: nobody hears of data who did not know of them before;
* `panic_leaves_closed_engine`: the engine that is left is closed and consistent.
-/

namespace ByteTap

namespace Stage

/-- What the worker has done since a consumer panicked, when it stands at that place. -/
@[simp] def sincePanic? (payload : Payload) : Stage → Option (List Event)
  | unwinding payload' => if payload' = payload then some [] else none
  | finishing | signallingEnd | exited => some [.reported (.workerPanicked payload.reason)]
  | _ => none

/-- Since the panic the worker has reported it, or it is about to. -/
theorem of_sincePanic? {payload : Payload} {stage : Stage} {done : List Event}
    (since : stage.sincePanic? payload = some done) :
    stage = unwinding payload ∧ done = [] ∨
      (∀ payload', stage ≠ unwinding payload') ∧
        done = [.reported (.workerPanicked payload.reason)] := by
  cases stage with
  | unwinding payload' =>
    have unreported : (if payload' = payload then some [] else none) = some done := since
    split at unreported
    · next same => exact .inl ⟨by rw [same], (Option.some.inj unreported).symm⟩
    · cases unreported
  | finishing | signallingEnd | exited =>
    cases since
    exact .inr ⟨by rintro _ ⟨⟩, rfl⟩
  | _ => cases since

/-- In how many of its own steps the worker is gone after a panic. -/
@[simp] def toEnd? : Stage → Option Nat
  | unwinding _ => some 3
  | finishing => some 2
  | signallingEnd => some 1
  | exited => some 0
  | _ => none

end Stage

/-- The call has heard of data before the generation came to that, or it waits since before then.  A
call that releases bytes never answers with the outcome of a wait. -/
@[simp] def Call.knowsOfData (generation : Nat) : Call → Bool
  | parked _ seen | woken _ seen | expired seen => seen != generation
  | permittingSpace answer | returned answer => answer == .outcome .dataReceived
  | _ => false

/-- What is reported of a panic: its text, if it carries one. -/
def Payload.ReportedAs (payload : Payload) (reason : String) : Prop :=
  payload = .text reason ∨ payload = .other ∧ reason = "unknown panic payload"

theorem Payload.reportedAs_reason (payload : Payload) : payload.ReportedAs payload.reason := by
  cases payload with
  | text message => exact .inl rfl
  | other => exact .inr ⟨rfl, rfl⟩

/-- The history of a read that a consumer was shown. -/
theorem invocations_called (asked : Bool) (number : Nat) (shown : Bytes) (reply : Reply)
    (bytes accepted : Bytes) (occupied : Nat) (older : List Event) :
    invocations ((if asked then [.stopAsked] else []) ++
        .called number shown reply :: .received bytes accepted occupied :: older) =
      ⟨.received bytes accepted occupied :: older, shown, reply⟩ :: invocations older := by
  cases asked <;> rfl

namespace Engine

variable {τ : Type} [Transport τ] {arrives : τ → τ → Prop} {e e' later : Engine τ}
  {shown : Bytes} {payload : Payload}

/-! ## In the middle of a delivery -/

omit [Transport τ] in
/-- In the step from `e` to `e'` a consumer was called, was shown that, and panicked with that. -/
def Panics (e e' : Engine τ) (shown : Bytes) (payload : Payload) : Prop :=
  ∃ older reply, invocations e'.trace = ⟨older, shown, reply⟩ :: invocations e.trace ∧
    reply.panic = some payload

/-- Where a panic leaves the delivery of a read: the bytes are in the buffer and counted, and
whatever follows the call of the consumer was left out. -/
structure Interrupted (e e' : Engine τ) (shown : Bytes) (payload : Payload) : Prop where
  place : e'.stage = .unwinding payload
  content : e'.shared.buffer.filled = shown
  delivery : ∃ room bytes, e.stage = .completing room (.ok bytes) ∧ bytes ≠ [] ∧
    shown = e.shared.buffer.filled ++ e.shared.buffer.accepted bytes ∧
    (Transport.Bounded τ → e.shared.buffer.accepted bytes = bytes) ∧
    e'.shared.tally =
      { e.shared.tally with
        readsCompleted := e.shared.tally.readsCompleted + 1
        bytesReceived :=
          e.shared.tally.bytesReceived + (e.shared.buffer.accepted bytes).length }
  generation : e'.shared.generation = e.shared.generation
  phase : e'.shared.phase = e.shared.phase
  calls : e'.calls = e.calls
  faults : e'.faults = e.faults

/-- A consumer is called in the section that handles a read, and nowhere else. -/
theorem Panics.interrupted (panics : Panics e e' shown payload) (reachable : Reachable arrives e)
    (step : Step arrives e e') : Interrupted e e' shown payload := by
  obtain ⟨older, reply, called, panicked⟩ := panics
  have silent (same : invocations e'.trace = invocations e.trace) :
      Interrupted e e' shown payload := by
    rw [same] at called
    cases List.cons_ne_self _ _ called.symm
  rcases step.cases with worker | call | ⟨transport, -, rfl⟩
  · cases worker
    case completeHeard room bytes registration reply' place nonempty heard replied returned =>
      cases (invocations_called ..).symm.trans called
      cases returned.symm.trans panicked
    case completePanicked room bytes registration reply' payload' place nonempty heard replied
        panicked' =>
      cases (invocations_called ..).symm.trans called
      cases panicked'.symm.trans panicked
      refine ⟨rfl, rfl, ⟨room, bytes, place, nonempty, ?_, ?_, rfl⟩, rfl, rfl, rfl, ?_⟩
      · exact Buffer.filled_extend _ _
      · intro bounded
        exact Buffer.accepted_of_length_le ((reachable.streamKept bounded).room.fits place)
      · unfold faults
        cases reply.stops <;> rfl
    all_goals exact silent (by simp)
  · exact silent (by cases call <;> rfl)
  · exact silent rfl

/-- No panic was reported before: it is the last report of a run. -/
theorem Interrupted.unreported (interrupted : Interrupted e e' shown payload)
    (reachable : Reachable arrives e) (reason : String) :
    Fault.workerPanicked reason ∉ e.faults := by
  obtain ⟨room, bytes, place, -⟩ := interrupted.delivery
  have inLoop : InLoop e.label e.settings.capacity.toNat (reports e.trace) := by
    have reported := reachable.reported
    unfold Reported at reported
    rwa [place] at reported
  intro among
  cases inLoop _ (List.mem_reverse.1 among)

/-! ## Ever after -/

/-- What has happened from `e` on, where a consumer has just panicked, until `later`: the worker has
reported the panic or is about to, and whatever bytes have left the buffer were released by
callers. -/
structure Aftermath (payload : Payload) (e later : Engine τ) : Prop where
  worker : ∃ done, later.stage.sincePanic? payload = some done ∧
    later.workerTrace = done ++ e.workerTrace
  released : ∃ count, Released e later count
  tally : later.shared.tally =
    { e.shared.tally with bytesReleased := later.shared.tally.bytesReleased }
  generation : later.shared.generation = e.shared.generation

omit [Transport τ] in
theorem Aftermath.refl (place : e.stage = .unwinding payload) : Aftermath payload e e := by
  refine ⟨⟨[], ?_, rfl⟩, ⟨0, .refl e⟩, rfl, rfl⟩
  rw [place]
  exact if_pos rfl

omit [Transport τ] in
/-- After the panic bytes only leave the buffer. -/
theorem Aftermath.drained (aftermath : Aftermath payload e later) {next : Engine τ}
    (transfer : Transfer later next) : ∃ count, Released e next count := by
  obtain ⟨done, since, -⟩ := aftermath.worker
  obtain ⟨count, released⟩ := aftermath.released
  obtain ⟨more, further⟩ := transfer.released fun room bytes place => by
    rw [place] at since
    cases since
  exact ⟨count + more, released.trans further⟩

/-- After the panic the worker reports it once and goes. -/
theorem Aftermath.worker_step (aftermath : Aftermath payload e later) {next : Engine τ}
    (step : WorkerStep later next) : Aftermath payload e next := by
  have drained := aftermath.drained step.transfer
  obtain ⟨⟨done, since, history⟩, -, tally, generation⟩ := aftermath
  cases step
  -- It reports the panic, and then leaves no entry any more.
  case unwind payload' place =>
    rcases Stage.of_sincePanic? since with ⟨unwinding, rfl⟩ | ⟨past, -⟩
    · cases place.symm.trans unwinding
      refine ⟨⟨[.reported (.workerPanicked payload.reason)], rfl, ?_⟩, drained, tally, generation⟩
      exact congrArg (List.cons (Event.reported (.workerPanicked payload.reason))) history
    · exact absurd place (past payload')
  case finish place =>
    rw [place] at since
    exact ⟨⟨done, since, history⟩, drained, tally, generation⟩
  case signalEnd place =>
    rw [place] at since
    exact ⟨⟨done, since, history⟩, drained, tally, generation⟩
  all_goals
    have place := ‹later.stage = _›
    rw [place] at since
    cases since

omit [Transport τ] in
/-- Callers add nothing to the aftermath but what they release. -/
theorem Aftermath.call_step (aftermath : Aftermath payload e later) {next : Engine τ}
    (step : CallStep later next) : Aftermath payload e next := by
  have drained := aftermath.drained step.transfer
  have quiet : Quiet (fun _ _ : τ => False) later next := step.quiet
  obtain ⟨⟨done, since, history⟩, -, tally, generation⟩ := aftermath
  refine ⟨⟨done, ?_, quiet.history.trans history⟩, drained, ?_, ?_⟩
  · rw [step.same_worker.stage, since]
  · rw [quiet.tally, tally]
  · rw [step.generation_same, generation]

/-- Whatever happens after a panic, it is the aftermath of it. -/
theorem Steps.aftermath (place : e.stage = .unwinding payload) (steps : Steps arrives e later) :
    Aftermath payload e later := by
  induction steps with
  | refl => exact .refl place
  | tail _ step ih =>
    rcases step.cases with worker | call | ⟨transport, -, rfl⟩
    · exact ih.worker_step worker
    · exact ih.call_step call
    · obtain ⟨worker, ⟨count, content, counted, told, received, called⟩, tally, generation⟩ := ih
      exact ⟨worker, ⟨count, content, counted, told, received, called⟩, tally, generation⟩

omit [Transport τ] in
/-- Only the worker reports. -/
theorem faults_eq_of_workerTrace (e : Engine τ) :
    e.faults = (e.workerTrace.filterMap Event.fault?).reverse := by
  unfold workerTrace
  rw [filterMap_fault?_filter]
  rfl

omit [Transport τ] in
/-- The panic is the next report, or it was the last one. -/
theorem Aftermath.faults (aftermath : Aftermath payload e later) :
    later.faults = e.faults ∧ later.stage = .unwinding payload ∨
      later.faults = e.faults ++ [.workerPanicked payload.reason] := by
  obtain ⟨done, since, history⟩ := aftermath.worker
  have told : later.faults = e.faults ++ (done.filterMap Event.fault?).reverse := by
    rw [faults_eq_of_workerTrace, history, List.filterMap_append, List.reverse_append,
      ← faults_eq_of_workerTrace]
  rcases Stage.of_sincePanic? since with ⟨unwinding, rfl⟩ | ⟨-, rfl⟩
  · exact .inl ⟨told.trans (List.append_nil _), unwinding⟩
  · exact .inr told

omit [Transport τ] in
/-- The transport is not shut, neither before the panic nor after it. -/
theorem Aftermath.unshut (aftermath : Aftermath payload e later) (placed : Placed e)
    (place : e.stage = .unwinding payload) (failure : Option IoFailure) :
    Event.shut failure ∉ later.trace := by
  obtain ⟨done, since, history⟩ := aftermath.worker
  have departure := placed.departure
  rw [place] at departure
  obtain ⟨reads, before⟩ := departure
  intro among
  have done' : Event.shut failure ∈ later.workerTrace := List.mem_filter.2 ⟨among, rfl⟩
  rw [history, List.mem_append] at done'
  -- before the panic the worker was in its loop, and since then it has only reported
  rcases done' with newer | older
  · rcases Stage.of_sincePanic? since with ⟨-, rfl⟩ | ⟨-, rfl⟩
    · cases newer
    · cases List.mem_singleton.1 newer
  · have milestone : Milestone.shut ∈ milestones e.trace :=
      List.mem_filterMap.2 ⟨_, (List.mem_filter.1 older).1, rfl⟩
    rw [before] at milestone
    rcases List.mem_cons.1 milestone with shut | read
    · cases shut
    · cases List.eq_of_mem_replicate read

/-- The worker is on its way out, and nobody keeps it from getting there. -/
theorem gone_within (place : e.stage = .unwinding payload) :
    Within arrives .worker (fun e => e.stage = .exited) 3 e := by
  refine within_of_countdown (fun n e => e.stage.toEnd? = some n) ?_ ?_ ?_
    (m := 3) (by rw [place]; rfl) (Nat.le_refl 3)
  · intro e left
    cases stage : e.stage with
    | exited => rfl
    | _ => rw [stage] at left; cases left
  · intro n e e' left step
    have awake (delay : UInt64) (room : Nat) (full : Bool) :
        e.stage ≠ .backingOff delay room full := by
      intro backingOff
      rw [backingOff] at left
      cases left
    rcases step.of_awake awake with call | ⟨transport, -, rfl⟩
    · rw [call.same_worker.stage, left]
    · exact left
  · intro n e left
    have turn {e' : Engine τ} (step : e.work = some e') (nearer : e'.stage.toEnd? = some n) :
        ∃ e', e.next .worker = some e' ∧ ∃ m, m ≤ n ∧ e'.stage.toEnd? = some m :=
      ⟨e', step, n, Nat.le_refl n, nearer⟩
    cases stage : e.stage with
    | unwinding payload' =>
      rw [stage] at left
      cases left
      exact turn (by simp only [work, stage]; rfl) rfl
    | finishing =>
      rw [stage] at left
      cases left
      exact turn (by simp only [work, stage]; rfl) rfl
    | signallingEnd =>
      rw [stage] at left
      cases left
      exact turn (by simp only [work, stage]; rfl) rfl
    | _ => rw [stage] at left; cases left

/-! ## Nobody hears of data -/

theorem knowsOfData_waitOn {s : Shared} {timed : Bool} {seen : Nat}
    (knows : (waitOn s timed seen).knowsOfData s.generation = true) : seen ≠ s.generation := by
  unfold waitOn at knows
  split at knows
  · next outcome reason =>
    have grounds : Grounds s seen True outcome := grounds_of_reason reason
    have told : outcome = .dataReceived := by simpa using knows
    exact (grounds.data.1 told).symm
  · simpa using knows

omit [Transport τ] in
/-- A call that knows of data older than the present generation knew of them before. -/
theorem CallMove.knowsOfData {call call' : Call} (move : CallMove e e' call call')
    (knows : call'.knowsOfData e.shared.generation = true) :
    call.knowsOfData e.shared.generation = true := by
  cases move
  case wake => cases call <;> exact knows
  -- a wait that starts now has seen the present generation
  case beginWait => exact absurd rfl (knowsOfData_waitOn knows)
  case resumeWait => simpa using knowsOfData_waitOn knows
  case endWait seen =>
    show (seen != e.shared.generation) = true
    by_cases same : e.shared.generation = seen
    · rw [if_neg (by simpa using same)] at knows
      cases knows
    · simpa using Ne.symm same
  all_goals exact knows

/-- Whoever hears of data after a panic knew of them before. -/
theorem Steps.knowsOfData (place : e.stage = .unwinding payload) (steps : Steps arrives e later)
    {i : Nat} {call : Call} (there : later.calls[i]? = some call)
    (knows : call.knowsOfData e.shared.generation = true) :
    ∃ old, e.calls[i]? = some old ∧ old.knowsOfData e.shared.generation = true := by
  induction steps generalizing call with
  | refl => exact ⟨call, there, knows⟩
  | @tail middle last before step ih =>
    have aftermath := Steps.aftermath place before
    rcases step.origin there with ⟨call', here, move⟩ | ⟨request, rfl⟩
    · rw [← aftermath.generation] at knows
      exact ih here (aftermath.generation ▸ move.knowsOfData knows)
    · cases request <;> cases knows

/-! ## The engine that is left -/

/-- What is true ever after, `later`, of an engine whose consumer panicked in the step from `e` to
`e'`. -/
structure LeftByPanic (arrives : τ → τ → Prop) (payload : Payload) (e e' later : Engine τ) :
    Prop where
  aftermath : Aftermath payload e' later
  /-- The panic is reported once, and it is the last report. -/
  faults : later.faults = e.faults ∧ later.stage = .unwinding payload ∨
    later.faults = e.faults ++ [.workerPanicked payload.reason]
  unshut : ∀ failure, Event.shut failure ∉ later.trace
  /-- Whoever hears of data knew of them before the read whose delivery was interrupted. -/
  uninformed : ∀ i : Nat, later.calls[i]? = some (.returned (.outcome .dataReceived)) →
    ∃ call : Call, e.calls[i]? = some call ∧
      call.knowsOfData e.shared.generation = true
  closed : later.shared.phase = .closed → later.shared.isOpen = false ∧
    later.faults = e.faults ++ [.workerPanicked payload.reason] ∧
    ∀ (i : Nat) (timed : Bool), later.calls[i]? = some (.waiting timed) →
      later.next (.call i) = some (later.place i (.returned (.outcome .shutdown)))
  /-- Nobody is parked, and every call, those to close the engine too, returns by itself. -/
  gone : later.stage = .exited → later.shared.phase = .closed ∧
    (∀ call ∈ later.calls, call.isParked = false) ∧
    ∀ (i : Nat) (call : Call), later.calls[i]? = some call → Within arrives (.call i)
      (fun e => ∃ answer, e.calls[i]? = some (.returned answer)) call.stepsLeft later

/-- A wait that takes the lock first in an engine that is shut down returns at once. -/
theorem next_of_waiting_of_stopped {i : Nat} {timed : Bool}
    (stopped : e.shared.phase ≠ .running) (place : e.calls[i]? = some (.waiting timed)) :
    e.next (.call i) = some (e.place i (.returned (.outcome .shutdown))) := by
  have reason : waitReason e.shared e.shared.generation = some .shutdown := by
    unfold waitReason
    rw [if_neg (by simp), if_pos (by simpa using stopped)]
  have waits : waitOn e.shared timed e.shared.generation = .returned (.outcome .shutdown) := by
    unfold waitOn
    rw [reason]
  show (e.calls[i]?).bind (e.stepCall i) = _
  rw [place]
  exact congrArg (fun call => some (e.place i call)) waits

/-- A consumer that panics leaves a consistent closed engine, whatever was read, released, waited
for and requested before, also by the consumer in the same call.  The buffer holds what the consumer
was shown until callers release it; the read is counted, and neither the call nor any bytes that it
released; nobody hears of data.  The worker is gone in three more steps of its own.  It does not
shut the transport, and the panic is its last report. -/
theorem panic_leaves_closed_engine (reachable : Reachable arrives e) (step : Step arrives e e')
    (panics : Panics e e' shown payload) :
    Interrupted e e' shown payload ∧
    payload.ReportedAs payload.reason ∧ (∀ reason, Fault.workerPanicked reason ∉ e.faults) ∧
    Within arrives .worker (fun e => e.stage = .exited) 3 e' ∧
    ∀ later, Steps arrives e' later → LeftByPanic arrives payload e e' later := by
  have interrupted := panics.interrupted reachable step
  have place := interrupted.place
  have reachable' : Reachable arrives e' := .step reachable step
  refine ⟨interrupted, payload.reportedAs_reason, interrupted.unreported reachable,
    gone_within place, ?_⟩
  intro later steps
  have aftermath := steps.aftermath place
  have reachableLater := reachable'.steps steps
  have placed := reachableLater.placed
  have faults := aftermath.faults
  rw [interrupted.faults] at faults
  refine ⟨aftermath, faults, aftermath.unshut reachable'.placed place, ?_, ?_, ?_⟩
  · intro i there
    have known := steps.knowsOfData place there (by rfl)
    rwa [interrupted.calls, interrupted.generation] at known
  · intro closed
    refine ⟨placed.shut closed, ?_, ?_⟩
    · rcases faults with ⟨-, unwinding⟩ | reported
      · have isOver := placed.closed_iff.1 closed
        rw [unwinding] at isOver
        cases isOver
      · exact reported
    · intro i timed here
      exact next_of_waiting_of_stopped (by rw [closed]; rintro ⟨⟩) here
  · intro gone
    refine ⟨placed.closed_iff.2 (by rw [gone]; rfl), reachableLater.nobodyParked gone, ?_⟩
    intro i call here
    exact returns_within reachableLater gone here

/-- The consumer is done with a byte of the first read, and at the second asks for shutdown and
panics.  One caller waits since before the second read, and one closes the engine. -/
theorem panic_leaves_closed_engine_of_stopping_consumer :
    ∃ start e e' ended : Engine Script,
      spawn { capacity := 4 } { steps := [.data [1, 2], .data [3]] }
        (some (((Consumer.ofAmount fun _ => 1).stoppingAt 2).panickingAt 2 (.text "boom"))) =
          .ok start ∧
      e = start.run (List.replicate 5 .worker ++ [.enter (.wait false), .call 0] ++
        List.replicate 2 .worker) ∧
      Step Script.Pushed e e' ∧ Panics e e' [2, 3] (.text "boom") ∧
      Interrupted e e' [2, 3] (.text "boom") ∧
      ended = e'.run [.worker, .enter .close, .worker, .call 1, .worker, .call 1, .call 0] ∧
      LeftByPanic Script.Pushed (.text "boom") e e' ended ∧
      ended.shared.buffer.filled = [2, 3] ∧ ended.faults = [.workerPanicked "boom"] ∧
      ended.answers = [some (.outcome .shutdown), some .done] := by
  have started : Reachable Script.Pushed _ := .started { capacity := 4 }
    { steps := [.data [1, 2], .data [3]] }
    (some (((Consumer.ofAmount fun _ => 1).stoppingAt 2).panickingAt 2 (.text "boom"))) rfl
  have before := started.steps (steps_run _ (List.replicate 5 .worker ++
    [.enter (.wait false), .call 0] ++ List.replicate 2 .worker))
  obtain ⟨interrupted, -, -, -, ever⟩ := panic_leaves_closed_engine before (.turn .worker rfl)
    ⟨_, { amount := 1, stops := true, panic := some (.text "boom") }, rfl, rfl⟩
  exact ⟨_, _, _, _, rfl, rfl, .turn .worker rfl, ⟨_, _, rfl, rfl⟩, interrupted, rfl,
    ever _ (steps_run _ _), rfl, rfl, rfl⟩

end Engine

end ByteTap
