import ByteTap.Engine.Schedule

/-!
# What a step of the worker can do

`WorkerStep e e'` lists, place by place, everything that one step of the worker can make of the
engine `e`, the end of its wait after a failed read included.  Each case names its guards and the
fields that change; all other fields stay.

* `WorkerStep.of_work` and `WorkerStep.of_wakeFromBackoff`: the steps of the engine are among them;
* `work_eq_none_iff`: the worker has no step exactly where it is `Idle`.

What a worker's step preserves is shown from this list, and never by opening the step itself.
-/

namespace ByteTap

/-- The phase once a consumer's request to stop, if there is one, takes effect. -/
def Phase.heed (asked : Bool) (phase : Phase) : Phase :=
  if asked && phase == .running then .stopping else phase

/-- A signal that is given in some cases only, as the calls feel it. -/
def Call.wakeIf (signalled : Bool) (calls : List Call) : List Call :=
  if signalled then calls.map wake else calls

@[simp] theorem Call.map_wake_map_wake (calls : List Call) :
    (calls.map wake).map wake = calls.map wake := by
  have idempotent (call : Call) : call.wake.wake = call.wake := by cases call <;> rfl
  simp [idempotent]

theorem Call.wakeIf_map_wake (signalled : Bool) (calls : List Call) :
    wakeIf signalled (calls.map wake) = calls.map wake := by
  unfold wakeIf
  rw [map_wake_map_wake, ite_self]

theorem Call.wakeIf_eq (signalled : Bool) (calls : List Call) :
    wakeIf signalled calls = calls ∨ wakeIf signalled calls = calls.map wake := by
  cases signalled
  · exact .inl rfl
  · exact .inr rfl

namespace Engine

variable {τ : Type}

theorem applyStopRequest_of_asked {e : Engine τ} (asked : e.stopRequested = true)
    (running : e.shared.phase = .running) :
    e.applyStopRequest =
      { e with
        shared := { e.shared with phase := .stopping }
        calls := e.calls.map Call.wake } := by
  unfold applyStopRequest
  rw [if_pos (by simp [asked, running])]
  rfl

theorem applyStopRequest_of_unasked {e : Engine τ}
    (unasked : ¬ (e.stopRequested = true ∧ e.shared.phase = .running)) :
    e.applyStopRequest = e := by
  unfold applyStopRequest
  rw [if_neg (by simpa using unasked)]

/-- How the handling of a read ends: the consumer's request to stop takes effect, and the worker
keeps in mind what it finds under the lock. -/
theorem conclude_eq (e : Engine τ) (room : Nat) (cause : Option IoFailure) :
    e.conclude room cause =
      { e with
        shared := { e.shared with phase := e.shared.phase.heed e.stopRequested }
        calls := Call.wakeIf (e.stopRequested && e.shared.phase == .running) e.calls
        stage :=
          let handled : Handled :=
            ⟨e.shared.phase.heed e.stopRequested == .running, cause.isSome, e.shared.buffer.isFull⟩
          match cause with
          | some cause => .reportingFailure room cause handled
          | none => .settling room handled } := by
  have applied : e.applyStopRequest =
      { e with
        shared := { e.shared with phase := e.shared.phase.heed e.stopRequested }
        calls := Call.wakeIf (e.stopRequested && e.shared.phase == .running) e.calls } := by
    unfold applyStopRequest Phase.heed Call.wakeIf
    split <;> rfl
  unfold conclude
  rw [applied]
  cases cause <;> rfl

/-- The end of a handled read that delivered bytes. -/
theorem conclude_announceData (e : Engine τ) (room : Nat) :
    e.announceData.conclude room none =
      { e with
        shared :=
          { e.shared with
            phase := e.shared.phase.heed e.stopRequested
            generation := e.shared.generation + 1 }
        calls := e.calls.map Call.wake
        stage := .settling room
          ⟨e.shared.phase.heed e.stopRequested == .running, false, e.shared.buffer.isFull⟩ } := by
  rw [conclude_eq]
  simp only [announceData, modify, wakeAll, Call.wakeIf_map_wake, Option.isSome_none]

/-- The consumer was called and replied, and neither returned nor panicked yet. -/
def consulted (e : Engine τ) (registration : Registration) (reply : Reply) : Engine τ :=
  { e with
    shared :=
      { e.shared with
        registration := some
          { registration with history := e.shared.buffer.filled :: registration.history } }
    stopRequested := e.stopRequested || reply.stops
    shutdownPermit := e.shutdownPermit || reply.stops
    trace := (if reply.stops then [.stopAsked] else []) ++
      .called registration.number e.shared.buffer.filled reply :: e.trace }

theorem consult_of_returned {e : Engine τ} {registration : Registration} {reply : Reply}
    (heard : e.shared.registration = some registration)
    (replied : registration.consumer.reply (e.shared.buffer.filled :: registration.history) =
      reply)
    (returned : reply.panic = none) :
    e.consult = ((e.consulted registration reply).releaseFront reply.amount, none) := by
  unfold consult
  rw [heard]
  dsimp only
  rw [replied, returned]
  cases stops : reply.stops <;> simp [consulted, stops, askStop, modify, note]

theorem consult_of_panicked {e : Engine τ} {registration : Registration} {reply : Reply}
    {payload : Payload} (heard : e.shared.registration = some registration)
    (replied : registration.consumer.reply (e.shared.buffer.filled :: registration.history) =
      reply)
    (panicked : reply.panic = some payload) :
    e.consult = (e.consulted registration reply, some payload) := by
  unfold consult
  rw [heard]
  dsimp only
  rw [replied, panicked]
  cases stops : reply.stops <;> simp [consulted, stops, askStop, modify, note]

/-- What one step of the worker can make of an engine. -/
inductive WorkerStep [Transport τ] (e : Engine τ) : Engine τ → Prop
  | start (place : e.stage = .starting) :
      WorkerStep e { e with stage := .arming, trace := .started :: e.trace }
  -- Arming a read, under the lock.
  | armStopped (place : e.stage = .arming) (stopped : e.shared.phase ≠ .running) :
      WorkerStep e { e with stage := .closing }
  | armAsked (place : e.stage = .arming) (running : e.shared.phase = .running)
      (asked : e.stopRequested = true) :
      WorkerStep e
        { e with
          shared := { e.shared with phase := .stopping }
          calls := e.calls.map Call.wake
          stage := .closing }
  | armRead (place : e.stage = .arming) (running : e.shared.phase = .running)
      (unasked : e.stopRequested = false) (free : e.shared.buffer.isFull = false) :
      WorkerStep e
        { e with exhaustionReported := false, stage := .issuing e.shared.buffer.spare }
  | armStall (place : e.stage = .arming) (running : e.shared.phase = .running)
      (unasked : e.stopRequested = false) (full : e.shared.buffer.isFull = true)
      (policy : e.settings.policy = .stall) :
      WorkerStep e { e with stage := .issuing 0 }
  | armDiscard (place : e.stage = .arming) (running : e.shared.phase = .running)
      (unasked : e.stopRequested = false) (full : e.shared.buffer.isFull = true)
      (policy : e.settings.policy = .discard) :
      WorkerStep e
        { e with
          shared :=
            { e.shared with
              buffer := e.shared.buffer.reset
              tally :=
                { e.shared.tally with
                  exhaustionEvents := e.shared.tally.exhaustionEvents + 1
                  bytesReleased := e.shared.tally.bytesReleased + e.shared.buffer.occupied } }
          stage := .reportingDrop e.shared.buffer.reset.spare
          trace := .discarded e.shared.buffer.occupied :: e.trace }
  | reportDrop {room : Nat} (place : e.stage = .reportingDrop room) :
      WorkerStep e
        { e with
          stage := .issuing room
          trace := .reported (.bufferExhausted e.settings.capacity.toNat) :: e.trace }
  -- The read itself.
  | issueCut {room : Nat} (place : e.stage = .issuing room) (permit : e.shutdownPermit = true) :
      WorkerStep e
        { e with shutdownPermit := false, stage := .closing, trace := .armed room :: e.trace }
  | issueEnded {room : Nat} {polled : Polled τ} {result : Except IoFailure Bytes}
      (place : e.stage = .issuing room) (unpermitted : e.shutdownPermit = false)
      (poll : Transport.startRead e.transport room = polled)
      (ended : polled.result = some result) :
      WorkerStep e
        { e with
          transport := polled.transport
          stage := .completing room result
          trace := .ended result ::
            ((polled.notes.map Event.noted).reverse ++ .issued room :: .armed room :: e.trace) }
  | issuePending {room : Nat} {polled : Polled τ}
      (place : e.stage = .issuing room) (unpermitted : e.shutdownPermit = false)
      (poll : Transport.startRead e.transport room = polled) (pending : polled.result = none) :
      WorkerStep e
        { e with
          transport := polled.transport
          stage := .reading room
          trace := (polled.notes.map Event.noted).reverse ++ .issued room :: .armed room ::
            e.trace }
  | readCut {room : Nat} (place : e.stage = .reading room) (permit : e.shutdownPermit = true) :
      WorkerStep e
        { e with
          shutdownPermit := false
          transport := Transport.abandon e.transport
          stage := .closing
          trace := .abandoned :: e.trace }
  | readEnded {room : Nat} {polled : Polled τ} {result : Except IoFailure Bytes}
      (place : e.stage = .reading room) (unpermitted : e.shutdownPermit = false)
      (poll : Transport.poll e.transport room = polled) (ended : polled.result = some result) :
      WorkerStep e
        { e with
          transport := polled.transport
          stage := .completing room result
          trace := .ended result :: ((polled.notes.map Event.noted).reverse ++ e.trace) }
  -- Handling the read that has ended, under the lock.
  | completeFailed {room : Nat} {cause : IoFailure}
      (place : e.stage = .completing room (.error cause)) :
      WorkerStep e
        { e with
          shared :=
            { e.shared with
              phase := e.shared.phase.heed e.stopRequested
              isOpen := Transport.isOpen e.transport
              tally := { e.shared.tally with readErrors := e.shared.tally.readErrors + 1 } }
          calls := Call.wakeIf (e.stopRequested && e.shared.phase == .running) e.calls
          stage := .reportingFailure room cause
            ⟨e.shared.phase.heed e.stopRequested == .running, true, e.shared.buffer.isFull⟩ }
  | completeEmpty {room : Nat} (place : e.stage = .completing room (.ok [])) :
      WorkerStep e
        { e with
          shared :=
            { e.shared with
              phase := e.shared.phase.heed e.stopRequested
              tally := { e.shared.tally with zeroByteReads := e.shared.tally.zeroByteReads + 1 } }
          calls := Call.wakeIf (e.stopRequested && e.shared.phase == .running) e.calls
          stage := .settling room
            ⟨e.shared.phase.heed e.stopRequested == .running, false, e.shared.buffer.isFull⟩ }
  | completeUnheard {room : Nat} {bytes : Bytes} (place : e.stage = .completing room (.ok bytes))
      (nonempty : bytes ≠ []) (nobody : e.shared.registration = none) :
      WorkerStep e
        { e with
          shared :=
            { e.shared with
              buffer := e.shared.buffer.extend bytes
              phase := e.shared.phase.heed e.stopRequested
              generation := e.shared.generation + 1
              tally :=
                { e.shared.tally with
                  readsCompleted := e.shared.tally.readsCompleted + 1
                  bytesReceived :=
                    e.shared.tally.bytesReceived + (e.shared.buffer.accepted bytes).length } }
          calls := e.calls.map Call.wake
          stage := .settling room
            ⟨e.shared.phase.heed e.stopRequested == .running, false,
              (e.shared.buffer.extend bytes).isFull⟩
          trace := .received bytes (e.shared.buffer.accepted bytes)
            (e.shared.buffer.extend bytes).occupied :: e.trace }
  | completeHeard {room : Nat} {bytes : Bytes} {registration : Registration} {reply : Reply}
      (place : e.stage = .completing room (.ok bytes)) (nonempty : bytes ≠ [])
      (heard : e.shared.registration = some registration)
      (replied : registration.consumer.reply
        ((e.shared.buffer.extend bytes).filled :: registration.history) = reply)
      (returned : reply.panic = none) :
      WorkerStep e
        { e with
          shared :=
            { e.shared with
              buffer := (e.shared.buffer.extend bytes).consume reply.amount
              phase := e.shared.phase.heed (e.stopRequested || reply.stops)
              registration := some
                { registration with
                  history := (e.shared.buffer.extend bytes).filled :: registration.history }
              generation := e.shared.generation + 1
              tally :=
                { e.shared.tally with
                  readsCompleted := e.shared.tally.readsCompleted + 1
                  bytesReceived :=
                    e.shared.tally.bytesReceived + (e.shared.buffer.accepted bytes).length
                  callbacksInvoked := e.shared.tally.callbacksInvoked + 1
                  bytesReleased := e.shared.tally.bytesReleased
                    + (e.shared.buffer.extend bytes).released reply.amount } }
          stopRequested := e.stopRequested || reply.stops
          shutdownPermit := e.shutdownPermit || reply.stops
          calls := e.calls.map Call.wake
          stage := .settling room
            ⟨e.shared.phase.heed (e.stopRequested || reply.stops) == .running, false,
              ((e.shared.buffer.extend bytes).consume reply.amount).isFull⟩
          trace := (if reply.stops then [.stopAsked] else []) ++
            .called registration.number (e.shared.buffer.extend bytes).filled reply ::
            .received bytes (e.shared.buffer.accepted bytes)
              (e.shared.buffer.extend bytes).occupied :: e.trace }
  | completePanicked {room : Nat} {bytes : Bytes} {registration : Registration} {reply : Reply}
      {payload : Payload}
      (place : e.stage = .completing room (.ok bytes)) (nonempty : bytes ≠ [])
      (heard : e.shared.registration = some registration)
      (replied : registration.consumer.reply
        ((e.shared.buffer.extend bytes).filled :: registration.history) = reply)
      (panicked : reply.panic = some payload) :
      WorkerStep e
        { e with
          shared :=
            { e.shared with
              buffer := e.shared.buffer.extend bytes
              registration := some
                { registration with
                  history := (e.shared.buffer.extend bytes).filled :: registration.history }
              tally :=
                { e.shared.tally with
                  readsCompleted := e.shared.tally.readsCompleted + 1
                  bytesReceived :=
                    e.shared.tally.bytesReceived + (e.shared.buffer.accepted bytes).length } }
          stopRequested := e.stopRequested || reply.stops
          shutdownPermit := e.shutdownPermit || reply.stops
          stage := .unwinding payload
          trace := (if reply.stops then [.stopAsked] else []) ++
            .called registration.number (e.shared.buffer.extend bytes).filled reply ::
            .received bytes (e.shared.buffer.accepted bytes)
              (e.shared.buffer.extend bytes).occupied :: e.trace }
  -- What follows the read.
  | reportFailure {room : Nat} {cause : IoFailure} {handled : Handled}
      (place : e.stage = .reportingFailure room cause handled) :
      WorkerStep e
        { e with
          stage := .settling room handled
          trace := .reported (.readFailed e.label cause) :: e.trace }
  | settleStopped {room : Nat} {handled : Handled} (place : e.stage = .settling room handled)
      (stopped : handled.running = false) :
      WorkerStep e { e with stage := .closing }
  | settleFailed {room : Nat} {handled : Handled} (place : e.stage = .settling room handled)
      (running : handled.running = true) (failed : handled.failed = true)
      (isOpen : Transport.isOpen e.transport = true) :
      WorkerStep e
        { e with
          failures := e.failures + 1
          stage := .backingOff (e.settings.backoff (e.failures + 1)) room handled.full }
  | settleLost {room : Nat} {handled : Handled} (place : e.stage = .settling room handled)
      (running : handled.running = true) (failed : handled.failed = true)
      (lost : Transport.isOpen e.transport = false) :
      WorkerStep e { e with failures := e.failures + 1, stage := .reportingLoss }
  | settleRearm {room : Nat} {handled : Handled} (place : e.stage = .settling room handled)
      (running : handled.running = true) (unfailed : handled.failed = false)
      (onward : ¬ (room = 0 ∧ handled.full = true ∧ e.settings.policy = .stall)) :
      WorkerStep e { e with failures := 0, stage := .arming }
  | settleStall {room : Nat} {handled : Handled} (place : e.stage = .settling room handled)
      (running : handled.running = true) (unfailed : handled.failed = false)
      (empty : room = 0) (full : handled.full = true) (policy : e.settings.policy = .stall)
      (reported : e.exhaustionReported = true) :
      WorkerStep e { e with failures := 0, stage := .stalled }
  | settleFull {room : Nat} {handled : Handled} (place : e.stage = .settling room handled)
      (running : handled.running = true) (unfailed : handled.failed = false)
      (empty : room = 0) (full : handled.full = true) (policy : e.settings.policy = .stall)
      (unreported : e.exhaustionReported = false) :
      WorkerStep e
        { e with failures := 0, exhaustionReported := true, stage := .recordingFull }
  -- The wait after a failed read.
  | backoffCut {delay : UInt64} {room : Nat} {full : Bool}
      (place : e.stage = .backingOff delay room full) (permit : e.shutdownPermit = true) :
      WorkerStep e { e with shutdownPermit := false, stage := .closing }
  | backoffRearm {delay : UInt64} {room : Nat} {full : Bool}
      (place : e.stage = .backingOff delay room full)
      (onward : ¬ (room = 0 ∧ full = true ∧ e.settings.policy = .stall)) :
      WorkerStep e { e with stage := .arming, trace := .waited delay :: e.trace }
  | backoffStall {delay : UInt64} {room : Nat} {full : Bool}
      (place : e.stage = .backingOff delay room full)
      (empty : room = 0) (isFull : full = true) (policy : e.settings.policy = .stall)
      (reported : e.exhaustionReported = true) :
      WorkerStep e { e with stage := .stalled, trace := .waited delay :: e.trace }
  | backoffFull {delay : UInt64} {room : Nat} {full : Bool}
      (place : e.stage = .backingOff delay room full)
      (empty : room = 0) (isFull : full = true) (policy : e.settings.policy = .stall)
      (unreported : e.exhaustionReported = false) :
      WorkerStep e
        { e with
          exhaustionReported := true
          stage := .recordingFull
          trace := .waited delay :: e.trace }
  -- The stall on a full buffer.
  | recordFull (place : e.stage = .recordingFull) :
      WorkerStep e
        { e with
          shared :=
            { e.shared with
              tally :=
                { e.shared.tally with
                  exhaustionEvents := e.shared.tally.exhaustionEvents + 1 } }
          stage := .reportingFull }
  | reportFull (place : e.stage = .reportingFull) :
      WorkerStep e
        { e with
          stage := .stalled
          trace := .reported (.bufferExhausted e.settings.capacity.toNat) :: e.trace }
  | stallCut (place : e.stage = .stalled) (permit : e.shutdownPermit = true) :
      WorkerStep e { e with shutdownPermit := false, stage := .closing }
  | stallWoken (place : e.stage = .stalled) (unpermitted : e.shutdownPermit = false)
      (permit : e.spacePermit = true) :
      WorkerStep e { e with spacePermit := false, stage := .rechecking }
  | recheckFull (place : e.stage = .rechecking) (full : e.shared.buffer.isFull = true) :
      WorkerStep e { e with stage := .stalled }
  | recheckFree (place : e.stage = .rechecking) (free : e.shared.buffer.isFull = false) :
      WorkerStep e { e with stage := .arming }
  -- The suspension after the transport went away.
  | reportLoss (place : e.stage = .reportingLoss) :
      WorkerStep e
        { e with stage := .signallingLoss, trace := .reported (.disconnected e.label) :: e.trace }
  | signalLoss (place : e.stage = .signallingLoss) :
      WorkerStep e { e with calls := e.calls.map Call.wake, stage := .suspended }
  | suspendCut (place : e.stage = .suspended) (permit : e.shutdownPermit = true) :
      WorkerStep e { e with shutdownPermit := false, stage := .closing }
  -- The way out.
  | shut {closing : Shut τ} (place : e.stage = .closing)
      (shut : Transport.shut e.transport = closing) (unfailed : closing.failure = none) :
      WorkerStep e
        { e with
          transport := closing.transport
          stage := .markingShut
          trace := .shut none :: ((closing.notes.map Event.noted).reverse ++ e.trace) }
  | shutFailed {closing : Shut τ} {cause : IoFailure} (place : e.stage = .closing)
      (shut : Transport.shut e.transport = closing) (failed : closing.failure = some cause) :
      WorkerStep e
        { e with
          transport := closing.transport
          stage := .reportingClose cause
          trace := .shut (some cause) :: ((closing.notes.map Event.noted).reverse ++ e.trace) }
  | reportClose {cause : IoFailure} (place : e.stage = .reportingClose cause) :
      WorkerStep e
        { e with
          stage := .markingShut
          trace := .reported (.closeFailed e.label cause) :: e.trace }
  | markShut (place : e.stage = .markingShut) :
      WorkerStep e
        { e with
          shared := { e.shared with isOpen := false }
          stage := .finishing
          trace := .stopped :: e.trace }
  | unwind {payload : Payload} (place : e.stage = .unwinding payload) :
      WorkerStep e
        { e with
          transport := Transport.release e.transport
          stage := .finishing
          trace := .reported (.workerPanicked payload.reason) :: e.trace }
  | finish (place : e.stage = .finishing) :
      WorkerStep e
        { e with
          shared := { e.shared with phase := .closed, isOpen := false }
          stage := .signallingEnd }
  | signalEnd (place : e.stage = .signallingEnd) :
      WorkerStep e { e with calls := e.calls.map Call.wake, stage := .exited }

/-! ## Every step is one of these -/

section

variable [Transport τ] {e e' : Engine τ}

/-- Before a read the worker heeds requests to stop, then looks for room. -/
theorem WorkerStep.of_arm (place : e.stage = .arming) : WorkerStep e e.arm := by
  by_cases asked : e.stopRequested = true ∧ e.shared.phase = .running
  · unfold arm
    rw [applyStopRequest_of_asked asked.1 asked.2]
    exact .armAsked place asked.2 asked.1
  · unfold arm
    rw [applyStopRequest_of_unasked asked]
    dsimp only
    split
    · next stopped => exact .armStopped place (by simpa using stopped)
    · next running =>
      have running : e.shared.phase = .running := by simpa using running
      have unasked : e.stopRequested = false := by simpa [running] using asked
      split
      · next free => exact .armRead place running unasked (by simpa using free)
      · next full =>
        have full : e.shared.buffer.isFull = true := by simpa using full
        split
        · next policy => exact .armStall place running unasked full policy
        · next policy => exact .armDiscard place running unasked full policy

/-- How a read is handled depends on what it came to, and on the consumer if it brought bytes. -/
theorem WorkerStep.of_complete {room : Nat} {result : Except IoFailure Bytes}
    (place : e.stage = .completing room result) : WorkerStep e (e.complete room result) := by
  rcases result with cause | bytes
  · show WorkerStep e (conclude _ room (some cause))
    rw [conclude_eq]
    exact .completeFailed place
  rcases bytes with _ | ⟨b, bs⟩
  · show WorkerStep e (conclude _ room none)
    rw [conclude_eq]
    exact .completeEmpty place
  have nonempty : b :: bs ≠ [] := List.cons_ne_nil b bs
  cases heard : e.shared.registration with
  | none =>
    have consulted : (e.receive (b :: bs)).consult = (e.receive (b :: bs), none) := by
      unfold consult
      rw [show (e.receive (b :: bs)).shared.registration = none from heard]
    have completed : e.complete room (.ok (b :: bs)) =
        (e.receive (b :: bs)).announceData.conclude room none := by
      simp only [complete, consulted]
    rw [completed, conclude_announceData]
    exact .completeUnheard place nonempty heard
  | some registration =>
    obtain ⟨reply, replied⟩ : ∃ reply, registration.consumer.reply
        ((e.shared.buffer.extend (b :: bs)).filled :: registration.history) = reply := ⟨_, rfl⟩
    cases outcome : reply.panic with
    | none =>
      have consulted := consult_of_returned (e := e.receive (b :: bs)) heard replied outcome
      have completed : e.complete room (.ok (b :: bs)) =
          (((e.receive (b :: bs)).consulted registration reply).releaseFront
            reply.amount).announceData.conclude room none := by
        simp only [complete, consulted]
      rw [completed, conclude_announceData]
      exact .completeHeard place nonempty heard replied outcome
    | some payload =>
      have consulted := consult_of_panicked (e := e.receive (b :: bs)) heard replied outcome
      have completed : e.complete room (.ok (b :: bs)) =
          ((e.receive (b :: bs)).consulted registration reply).goto (.unwinding payload) := by
        simp only [complete, consulted]
      rw [completed]
      exact .completePanicked place nonempty heard replied outcome

theorem WorkerStep.of_issue {room : Nat} (place : e.stage = .issuing room) :
    WorkerStep e (e.issue room) := by
  unfold issue
  dsimp only
  split
  · next permit => exact .issueCut place permit
  · next unpermitted =>
    have unpermitted : e.shutdownPermit = false := by simpa [note] using unpermitted
    unfold follow
    split
    · next result ended => exact .issueEnded place unpermitted rfl ended
    · next pending => exact .issuePending place unpermitted rfl pending

theorem WorkerStep.of_look {room : Nat} (place : e.stage = .reading room)
    (step : e.look room = some e') : WorkerStep e e' := by
  unfold look at step
  split at step
  · next permit =>
    cases step
    exact .readCut place permit
  · next unpermitted =>
    have unpermitted : e.shutdownPermit = false := by simpa using unpermitted
    dsimp only at step
    split at step
    · next isSome =>
      obtain ⟨result, ended⟩ := Option.isSome_iff_exists.1 isSome
      cases step
      unfold follow
      rw [ended]
      exact .readEnded place unpermitted rfl ended
    · cases step

theorem WorkerStep.of_settleRead {room : Nat} {handled : Handled}
    (place : e.stage = .settling room handled) : WorkerStep e (e.settleRead room handled) := by
  unfold settleRead
  split
  · next stopped => exact .settleStopped place (by simpa using stopped)
  next running =>
  have running : handled.running = true := by simpa using running
  split
  · next failed =>
    dsimp only
    split
    · next isOpen => exact .settleFailed place running failed isOpen
    · next lost => exact .settleLost place running failed (by simpa using lost)
  · next unfailed =>
    have unfailed : handled.failed = false := by simpa using unfailed
    unfold proceed
    split
    · next stall =>
      have stall : (room = 0 ∧ handled.full = true) ∧ e.settings.policy = .stall := by
        simpa using stall
      obtain ⟨⟨empty, full⟩, policy⟩ := stall
      split
      · next reported => exact .settleStall place running unfailed empty full policy reported
      · next unreported =>
        exact .settleFull place running unfailed empty full policy (by simpa using unreported)
    · next onward => exact .settleRearm place running unfailed (by simpa [and_assoc] using onward)

/-- Wherever the worker rests, it leaves with the permit. -/
theorem WorkerStep.of_leaveOnPermit
    (resting : (∃ delay room full, e.stage = .backingOff delay room full) ∨ e.stage = .stalled ∨
      e.stage = .suspended)
    (step : e.leaveOnPermit = some e') : WorkerStep e e' := by
  unfold leaveOnPermit at step
  split at step
  · next permit =>
    cases step
    rcases resting with ⟨delay, room, full, place⟩ | place | place
    · exact .backoffCut place permit
    · exact .stallCut place permit
    · exact .suspendCut place permit
  · cases step

theorem WorkerStep.of_shutTransport (place : e.stage = .closing) :
    WorkerStep e e.shutTransport := by
  obtain ⟨closing, shut⟩ : ∃ closing, Transport.shut e.transport = closing := ⟨_, rfl⟩
  unfold shutTransport
  rw [shut]
  dsimp only
  cases outcome : closing.failure with
  | none => exact .shut place shut outcome
  | some cause => exact .shutFailed place shut outcome

/-- Every step of the worker is one of the list. -/
theorem WorkerStep.of_work (step : e.work = some e') : WorkerStep e e' := by
  unfold work at step
  cases place : e.stage with
  | starting => rw [place] at step; cases step; exact .start place
  | arming => rw [place] at step; cases step; exact .of_arm place
  | reportingDrop room => rw [place] at step; cases step; exact .reportDrop place
  | issuing room => rw [place] at step; cases step; exact .of_issue place
  | reading room => rw [place] at step; exact .of_look place step
  | completing room result => rw [place] at step; cases step; exact .of_complete place
  | reportingFailure room cause handled =>
    rw [place] at step; cases step; exact .reportFailure place
  | settling room handled => rw [place] at step; cases step; exact .of_settleRead place
  | backingOff delay room full =>
    rw [place] at step
    exact .of_leaveOnPermit (.inl ⟨delay, room, full, place⟩) step
  | recordingFull => rw [place] at step; cases step; exact .recordFull place
  | reportingFull => rw [place] at step; cases step; exact .reportFull place
  | stalled =>
    rw [place] at step
    dsimp only at step
    split at step
    · exact .of_leaveOnPermit (.inr (.inl place)) step
    · next unpermitted =>
      split at step
      · next permit => cases step; exact .stallWoken place (by simpa using unpermitted) permit
      · cases step
  | rechecking =>
    rw [place] at step
    cases step
    split
    · next full => exact .recheckFull place full
    · next free => exact .recheckFree place (by simpa using free)
  | reportingLoss => rw [place] at step; cases step; exact .reportLoss place
  | signallingLoss => rw [place] at step; cases step; exact .signalLoss place
  | suspended => rw [place] at step; exact .of_leaveOnPermit (.inr (.inr place)) step
  | closing => rw [place] at step; cases step; exact .of_shutTransport place
  | reportingClose cause => rw [place] at step; cases step; exact .reportClose place
  | markingShut => rw [place] at step; cases step; exact .markShut place
  | unwinding payload => rw [place] at step; cases step; exact .unwind place
  | finishing => rw [place] at step; cases step; exact .finish place
  | signallingEnd => rw [place] at step; cases step; exact .signalEnd place
  | exited => rw [place] at step; cases step

omit [Transport τ] in
theorem wakeFromBackoff_eq_some (step : e.wakeFromBackoff = some e') :
    ∃ delay room full, e.stage = .backingOff delay room full ∧
      (e.note (.waited delay)).proceed room full = e' := by
  unfold wakeFromBackoff at step
  cases place : e.stage with
  | backingOff delay room full =>
    rw [place] at step
    exact ⟨delay, room, full, rfl, Option.some.inj step⟩
  | _ => simp [place] at step

/-- The end of the wait after a failed read is one of the list. -/
theorem WorkerStep.of_wakeFromBackoff (step : e.wakeFromBackoff = some e') : WorkerStep e e' := by
  obtain ⟨delay, room, full, place, rfl⟩ := wakeFromBackoff_eq_some step
  unfold proceed
  split
  · next stall =>
    have stall : (room = 0 ∧ full = true) ∧ e.settings.policy = .stall := by
      simpa [note] using stall
    obtain ⟨⟨empty, isFull⟩, policy⟩ := stall
    split
    · next reported => exact .backoffStall place empty isFull policy reported
    · next unreported =>
      exact .backoffFull place empty isFull policy (by simpa [note] using unreported)
  · next onward => exact .backoffRearm place (by simpa [and_assoc, note] using onward)

/-! ## What the worker leaves alone -/

/-- The worker wakes every parked call or none, and does nothing else to the calls. -/
theorem WorkerStep.calls_eq (step : WorkerStep e e') :
    e'.calls = e.calls ∨ e'.calls = e.calls.map Call.wake := by
  cases step
  case completeFailed => exact Call.wakeIf_eq _ _
  case completeEmpty => exact Call.wakeIf_eq _ _
  all_goals first | exact .inl rfl | exact .inr rfl

theorem WorkerStep.calls_length (step : WorkerStep e e') : e'.calls.length = e.calls.length := by
  rcases step.calls_eq with same | woken
  · rw [same]
  · rw [woken, List.length_map]

theorem WorkerStep.settings_same (step : WorkerStep e e') : e'.settings = e.settings := by
  cases step <;> rfl

/-- The worker never changes which consumer is registered. -/
theorem WorkerStep.consumer_same (step : WorkerStep e e') :
    e'.shared.registration.map Registration.consumer =
      e.shared.registration.map Registration.consumer := by
  cases step
  case completeHeard heard _ _ =>
    rw [heard]
    rfl
  case completePanicked heard _ _ =>
    rw [heard]
    rfl
  all_goals rfl

/-! ## Where the worker has no step -/

/-- The worker has no step: it is parked and nothing has happened for it, or it is gone. -/
inductive Idle (e : Engine τ) : Prop
  | reading {room : Nat} (place : e.stage = .reading room)
      (unpermitted : e.shutdownPermit = false)
      (pending : (Transport.poll e.transport room).result = none)
  | backingOff {delay : UInt64} {room : Nat} {full : Bool}
      (place : e.stage = .backingOff delay room full) (unpermitted : e.shutdownPermit = false)
  | stalled (place : e.stage = .stalled) (unpermitted : e.shutdownPermit = false)
      (spaceless : e.spacePermit = false)
  | suspended (place : e.stage = .suspended) (unpermitted : e.shutdownPermit = false)
  | exited (place : e.stage = .exited)

omit [Transport τ] in
theorem leaveOnPermit_eq_none_iff {e : Engine τ} :
    e.leaveOnPermit = none ↔ e.shutdownPermit = false := by
  unfold leaveOnPermit
  split <;> simp_all

theorem look_eq_none_iff {room : Nat} :
    e.look room = none ↔
      e.shutdownPermit = false ∧ (Transport.poll e.transport room).result = none := by
  unfold look
  dsimp only
  split
  · simp_all
  · cases result : (Transport.poll e.transport room).result <;> simp_all

/-- The places in which the worker has no step are those of an idle one. -/
theorem work_eq_none_iff : e.work = none ↔ Idle e := by
  constructor
  · intro rest
    unfold work at rest
    cases place : e.stage with
    | reading room =>
      rw [place] at rest
      obtain ⟨unpermitted, pending⟩ := look_eq_none_iff.1 rest
      exact .reading place unpermitted pending
    | backingOff delay room full =>
      rw [place] at rest
      exact .backingOff place (leaveOnPermit_eq_none_iff.1 rest)
    | stalled =>
      rw [place] at rest
      dsimp only at rest
      split at rest
      · next permit => rw [leaveOnPermit_eq_none_iff.1 rest] at permit; cases permit
      · next unpermitted =>
        exact .stalled place (by simpa using unpermitted) (by simpa using rest)
    | suspended =>
      rw [place] at rest
      exact .suspended place (leaveOnPermit_eq_none_iff.1 rest)
    | exited => exact .exited place
    | _ => simp [place] at rest
  · rintro (⟨place, unpermitted, pending⟩ | ⟨place, unpermitted⟩ |
      ⟨place, unpermitted, spaceless⟩ | ⟨place, unpermitted⟩ | place)
    · simp [work, place, look_eq_none_iff, unpermitted, pending]
    · simp [work, place, leaveOnPermit_eq_none_iff, unpermitted]
    · simp [work, place, unpermitted, spaceless]
    · simp [work, place, leaveOnPermit_eq_none_iff, unpermitted]
    · simp [work, place]

end

end Engine

end ByteTap
