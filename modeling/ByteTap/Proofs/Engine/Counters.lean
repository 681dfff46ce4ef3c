import ByteTap.Proofs.Engine.FullBuffer
import ByteTap.Proofs.Engine.Reports

/-!
# The counters, the probe and the reports

Three ledgers are kept of a run: the counters of the engine, the probe of the transport, and the
reports.  They are written at different places, so between two of these one of them is ahead; the
place of the worker tells which one.  Where the worker rests or is gone, none is.

* `Recorded`: failures and full buffers are counted before they are reported;
* `WorkerStep.counts_heard`: a call of a consumer is counted once it has returned;
* `Probed`: reads are noted by the probe before they are counted;
* `counters_agree`: where the three ledgers agree.
-/

namespace ByteTap

/-- The last read that was issued has not ended: it is still in flight, or it was dropped while it
was pending. -/
@[simp] def unanswered : List Event → Bool
  | [] => false
  | .issued _ :: _ | .abandoned :: _ => true
  | .ended _ :: _ => false
  | _ :: older => unanswered older

@[simp] theorem unanswered_noted (notes : List String) (older : List Event) :
    unanswered ((notes.map Event.noted).reverse ++ older) = unanswered older :=
  eq_of_noted (fun _ _ => rfl) notes older

@[simp] theorem unanswered_asked (asked : Bool) (older : List Event) :
    unanswered ((if asked then [.stopAsked] else []) ++ older) = unanswered older := by
  cases asked <;> rfl

namespace Fault

/-- The fault is that of a failed read. -/
@[simp] def isReadFailure : Fault → Bool
  | readFailed .. => true
  | _ => false

/-- The fault is that of a full buffer. -/
@[simp] def isExhaustion : Fault → Bool
  | bufferExhausted _ => true
  | _ => false

end Fault

namespace Stage

/-- The worker is parked inside a read. -/
@[simp] def isReading : Stage → Bool
  | reading _ => true
  | _ => false

/-- The read has ended and was not counted yet. -/
@[simp] def isCompleting : Stage → Bool
  | completing .. => true
  | _ => false

/-- The failed read was counted and not yet reported. -/
@[simp] def owesFailure : Stage → Bool
  | reportingFailure .. => true
  | _ => false

/-- The full buffer was counted and not yet reported. -/
@[simp] def owesExhaustion : Stage → Bool
  | reportingDrop _ | reportingFull => true
  | _ => false

end Stage

namespace Engine

section

variable {τ : Type} {e e' : Engine τ}

/-! ## Counters and reports -/

/-- The counters of failed reads and of full buffers are what was reported, and one more while the
worker is about to report what it has counted. -/
structure Recorded (e : Engine τ) : Prop where
  failures : e.shared.tally.readErrors =
    (reports e.trace).countP Fault.isReadFailure + e.stage.owesFailure.toNat
  exhaustions : e.shared.tally.exhaustionEvents =
    (reports e.trace).countP Fault.isExhaustion + e.stage.owesExhaustion.toNat

theorem Recorded.call (recorded : Recorded e) (step : CallStep e e') : Recorded e' := by
  obtain ⟨failures, exhaustions⟩ := recorded
  cases step <;> constructor <;> simp_all [Event.fault?]

section

variable [Transport τ] {arrives : τ → τ → Prop}

/-- Whatever the worker counts, it owes the report of it, and pays with its next turn. -/
theorem Recorded.worker (recorded : Recorded e) (step : WorkerStep e e') : Recorded e' := by
  obtain ⟨failures, exhaustions⟩ := recorded
  cases step
  all_goals
    have place := ‹e.stage = _›
    rw [place] at failures exhaustions
    constructor <;> simp_all [Event.fault?, List.countP_cons]

/-- In every reachable engine what was counted is reported, or about to be. -/
theorem Reachable.recorded (reachable : Reachable arrives e) : Recorded e := by
  refine reachable.invariant ?_ Recorded.worker Recorded.call ?_
  · intro settings transport consumer e spawned
    obtain ⟨-, -, registration, registrations, rfl⟩ := spawn_eq_ok spawned
    exact ⟨rfl, rfl⟩
  · exact fun recorded _ => ⟨recorded.failures, recorded.exhaustions⟩

end

/-! ## Calls of consumers -/

/-- What the registered consumer replies to the read at hand: the read has ended with bytes, and the
worker is about to handle it. -/
def replyAtHand? (e : Engine τ) : Option Reply :=
  match e.stage with
  | .completing _ (.ok (b :: bytes)) =>
      e.shared.registration.map fun registration =>
        registration.consumer.reply
          ((e.shared.buffer.extend (b :: bytes)).filled :: registration.history)
  | _ => none

/-- From `e` to `e'` a read with bytes was handled, a consumer was registered, and it returned. -/
def hears (e e' : Engine τ) : Bool :=
  e.replyAtHand?.any (·.panic.isNone) && !e'.stage.isCompleting

/-- How many reads with bytes were handled while a consumer was registered that returned. -/
def heardReads : List (Engine τ) → Nat
  | e' :: e :: older => heardReads (e :: older) + (e.hears e').toNat
  | _ => 0

theorem replyAtHand?_of_not_isCompleting (elsewhere : e.stage.isCompleting = false) :
    e.replyAtHand? = none := by
  unfold replyAtHand?
  cases place : e.stage <;> simp_all

theorem hears_of_stage (same : e'.stage = e.stage) : e.hears e' = false := by
  unfold hears
  rw [same]
  cases completing : e.stage.isCompleting with
  | true => simp
  | false => simp [replyAtHand?_of_not_isCompleting completing]

theorem replyAtHand?_of_unheard {room : Nat} {bytes : Bytes}
    (place : e.stage = .completing room (.ok bytes)) (nobody : e.shared.registration = none) :
    e.replyAtHand? = none := by
  unfold replyAtHand?
  rw [place]
  cases bytes with
  | nil => rfl
  | cons b bytes => rw [nobody]; rfl

theorem replyAtHand?_of_heard {room : Nat} {bytes : Bytes} {registration : Registration}
    {reply : Reply} (place : e.stage = .completing room (.ok bytes)) (nonempty : bytes ≠ [])
    (heard : e.shared.registration = some registration)
    (replied : registration.consumer.reply
      ((e.shared.buffer.extend bytes).filled :: registration.history) = reply) :
    e.replyAtHand? = some reply := by
  obtain ⟨b, rest, rfl⟩ := List.exists_cons_of_ne_nil nonempty
  unfold replyAtHand?
  rw [place, heard]
  exact congrArg some replied

section

variable [Transport τ] {arrives : τ → τ → Prop}

/-- A call of a consumer is counted in the step in which it returned. -/
theorem WorkerStep.counts_heard (step : WorkerStep e e') :
    e'.shared.tally.callbacksInvoked =
      e.shared.tally.callbacksInvoked + (e.hears e').toNat := by
  cases step
  case completeUnheard place nonempty nobody =>
    simp [hears, replyAtHand?_of_unheard place nobody]
  case completeHeard place nonempty heard replied returned =>
    simp [hears, replyAtHand?_of_heard place nonempty heard replied, returned]
  case completePanicked place nonempty heard replied panicked =>
    simp [hears, replyAtHand?_of_heard place nonempty heard replied, panicked]
  all_goals
    have place := ‹e.stage = _›
    simp [hears, replyAtHand?, place]

/-- The count of calls is the number of reads in the run that were shown to a consumer. -/
theorem Run.heard {older : List (Engine τ)} (run : Run arrives (e :: older)) :
    e.shared.tally.callbacksInvoked = heardReads (e :: older) := by
  refine run.invariant
    (motive := fun e older => e.shared.tally.callbacksInvoked = heardReads (e :: older)) ?_ ?_
  · intro settings transport consumer e spawned
    obtain ⟨-, -, registration, registrations, rfl⟩ := spawn_eq_ok spawned
    rfl
  · intro e e' older before counted stepped
    rw [heardReads, ← counted]
    rcases stepped.cases with worker | call | ⟨transport, -, rfl⟩
    · exact worker.counts_heard
    · rw [hears_of_stage call.same_worker.stage]
      cases call <;> rfl
    · have moved : e.hears { e with transport } = false := hears_of_stage rfl
      rw [moved]
      rfl

/-- A run that goes on began where it began. -/
theorem Run.steps {older : List (Engine τ)} (run : Run arrives (e :: older))
    (steps : Steps arrives e e') :
    ∃ newer, Run arrives (e' :: newer) ∧ (e' :: newer).getLast? = (e :: older).getLast? := by
  induction steps with
  | refl => exact ⟨older, run, rfl⟩
  | @tail middle e' _ stepped ih =>
    obtain ⟨newer, run, began⟩ := ih
    exact ⟨middle :: newer, .step run stepped, by rw [List.getLast?_cons_cons, began]⟩

end

end

/-! ## The probe -/

variable {start e e' : Engine Script} {older : List (Engine Script)} {first : Probe}

/-- What the probe has noted since it was as at first, given the place of the worker. -/
structure Probed (first : Probe) (e : Engine Script) : Prop where
  inFlight : e.transport.probe.inFlight = e.stage.isReading
  overlapping : e.transport.probe.overlapping = first.overlapping
  /-- A read that has started was counted, or it has ended and is counted next, or it has not
  ended. -/
  started : e.transport.probe.started = first.started + e.shared.tally.handled +
    (unanswered e.trace).toNat + e.stage.isCompleting.toNat
  reading : e.stage.isReading = true → unanswered e.trace = true
  /-- A read that was dropped while it was pending is the last one. -/
  answered : e.stage.isReading = false → e.stage.isLeaving = false → unanswered e.trace = false

/-- The transport's own record moves with the worker's reads. -/
theorem Probed.worker (probed : Probed first e) (step : WorkerStep e e') : Probed first e' := by
  obtain ⟨inFlight, overlapping, started, reading, answered⟩ := probed
  cases step
  -- A read starts where none is in flight.
  case issueEnded room polled result place unpermitted poll ended =>
    have probe := Script.probe_startRead e.transport room
    rw [poll, ended] at probe
    constructor <;> simp_all [Probe.started, Probe.begin, Probe.finish, Stage.isLeaving]
  case issuePending room polled place unpermitted poll pending =>
    have probe := Script.probe_startRead e.transport room
    rw [poll, pending] at probe
    constructor <;> simp_all [Probe.started, Probe.begin, Stage.isLeaving]
  -- The read in flight ends, or is dropped.
  case readEnded room polled result place unpermitted poll ended =>
    have probe := Script.probe_poll e.transport room
    rw [poll, ended] at probe
    constructor <;> simp_all [Probe.started, Probe.finish]
  case readCut room place permit =>
    constructor <;> simp_all [Probe.started, Probe.finish, Stage.isLeaving]
  case shut closing place shut unfailed =>
    subst shut
    constructor <;> simp_all [Probe.started, Stage.isLeaving]
  case shutFailed closing cause place shut failed =>
    subst shut
    constructor <;> simp_all [Probe.started, Stage.isLeaving]
  -- A read that has ended is counted, whatever its result; the other steps have to do with none.
  all_goals
    have place := ‹e.stage = _›
    constructor <;> simp_all [Tally.handled, Stage.isLeaving] <;> omega

theorem Probed.call (probed : Probed first e) (step : CallStep e e') : Probed first e' := by
  obtain ⟨inFlight, overlapping, started, reading, answered⟩ := probed
  cases step <;> exact ⟨inFlight, overlapping, started, reading, answered⟩

/-- In a run that began with an idle transport, its record tells of the worker's reads. -/
theorem Run.probed (run : Run Script.Pushed (e :: older))
    (began : (e :: older).getLast? = some start) (idle : start.transport.probe.inFlight = false) :
    Probed start.transport.probe e := by
  refine run.invariant (motive := fun e older => (e :: older).getLast? = some start →
    Probed start.transport.probe e) ?_ ?_ began
  · intro settings transport consumer e spawned only
    obtain rfl : e = start := Option.some.inj only
    obtain ⟨-, -, registration, registrations, rfl⟩ := spawn_eq_ok spawned
    exact ⟨idle, rfl, rfl, by rintro ⟨⟩, fun _ _ => rfl⟩
  · intro e e' older before probed stepped began
    have probed := probed began
    rcases stepped.cases with worker | call | ⟨transport, pushed, rfl⟩
    · exact probed.worker worker
    · exact probed.call call
    · obtain ⟨inFlight, overlapping, started, reading, answered⟩ := probed
      have probe := Script.Pushed.probe pushed
      rw [← probe] at inFlight overlapping started
      exact ⟨inFlight, overlapping, started, reading, answered⟩

/-! ## Counters only grow -/

end Engine

/-- No counter has gone back from one tally to the other. -/
structure Tally.Grown (older newer : Tally) : Prop where
  readsCompleted : older.readsCompleted ≤ newer.readsCompleted
  bytesReceived : older.bytesReceived ≤ newer.bytesReceived
  zeroByteReads : older.zeroByteReads ≤ newer.zeroByteReads
  readErrors : older.readErrors ≤ newer.readErrors
  callbacksInvoked : older.callbacksInvoked ≤ newer.callbacksInvoked
  exhaustionEvents : older.exhaustionEvents ≤ newer.exhaustionEvents
  bytesReleased : older.bytesReleased ≤ newer.bytesReleased

theorem Tally.Grown.refl (t : Tally) : t.Grown t := by
  constructor <;> exact Nat.le_refl _

theorem Tally.Grown.trans {first second third : Tally} (grown : first.Grown second)
    (grown' : second.Grown third) : first.Grown third := by
  obtain ⟨_, _, _, _, _, _, _⟩ := grown
  obtain ⟨_, _, _, _, _, _, _⟩ := grown'
  constructor <;> omega

/-- The probe has forgotten nothing that it had counted. -/
structure Probe.Grown (older newer : Probe) : Prop where
  started : older.started ≤ newer.started
  overlapping : older.overlapping ≤ newer.overlapping
  closes : older.closes ≤ newer.closes

theorem Probe.Grown.refl (p : Probe) : p.Grown p := by
  constructor <;> exact Nat.le_refl _

theorem Probe.Grown.trans {first second third : Probe} (grown : first.Grown second)
    (grown' : second.Grown third) : first.Grown third := by
  obtain ⟨_, _, _⟩ := grown
  obtain ⟨_, _, _⟩ := grown'
  constructor <;> omega

theorem Probe.grown_begin (p : Probe) (room : Nat) : p.Grown (p.begin room) := by
  refine ⟨Nat.le_succ _, ?_, Nat.le_refl _⟩
  show p.overlapping ≤ if p.inFlight then p.overlapping + 1 else p.overlapping
  split <;> omega

theorem Probe.grown_finish (p : Probe) : p.Grown p.finish := by
  constructor <;> exact Nat.le_refl _

namespace Engine

variable {start e e' : Engine Script} {older : List (Engine Script)}

theorem Step.tally_grown {τ : Type} [Transport τ] {arrives : τ → τ → Prop} {e e' : Engine τ}
    (step : Step arrives e e') : e.shared.tally.Grown e'.shared.tally := by
  rcases step.cases with worker | call | ⟨transport, -, rfl⟩
  · cases worker <;> constructor <;> simp
  · cases call <;> constructor <;> simp
  · exact .refl _

theorem WorkerStep.probe_grown (step : WorkerStep e e') :
    e.transport.probe.Grown e'.transport.probe := by
  cases step
  case issueEnded room polled result place unpermitted poll ended =>
    have probe := Script.probe_startRead e.transport room
    rw [poll, ended] at probe
    show e.transport.probe.Grown polled.transport.probe
    rw [probe]
    exact (Probe.grown_begin _ room).trans (Probe.grown_finish _)
  case issuePending room polled place unpermitted poll pending =>
    have probe := Script.probe_startRead e.transport room
    rw [poll, pending] at probe
    show e.transport.probe.Grown polled.transport.probe
    rw [probe]
    exact Probe.grown_begin _ room
  case readEnded room polled result place unpermitted poll ended =>
    have probe := Script.probe_poll e.transport room
    rw [poll, ended] at probe
    show e.transport.probe.Grown polled.transport.probe
    rw [probe]
    exact Probe.grown_finish _
  case readCut room place permit => exact Probe.grown_finish _
  case shut closing place shut unfailed =>
    subst shut
    exact ⟨Nat.le_refl _, Nat.le_refl _, Nat.le_succ _⟩
  case shutFailed closing cause place shut failed =>
    subst shut
    exact ⟨Nat.le_refl _, Nat.le_refl _, Nat.le_succ _⟩
  all_goals exact .refl _

/-- No counter has gone back, neither one of the engine nor one of the probe. -/
structure Grown (e e' : Engine Script) : Prop where
  tally : e.shared.tally.Grown e'.shared.tally
  probe : e.transport.probe.Grown e'.transport.probe

theorem Step.grown (step : Step Script.Pushed e e') : Grown e e' := by
  refine ⟨step.tally_grown, ?_⟩
  rcases step.cases with worker | call | ⟨transport, pushed, rfl⟩
  · exact worker.probe_grown
  · rw [call.same_worker.transport]
    exact .refl _
  · show e.transport.probe.Grown transport.probe
    rw [Script.Pushed.probe pushed]
    exact .refl _

/-- No counter is lower than at any state before. -/
theorem Run.grown (run : Run Script.Pushed (e :: older)) : ∀ before ∈ older, Grown before e := by
  refine run.invariant (motive := fun e older => ∀ before ∈ older, Grown before e) ?_ ?_
  · intro settings transport consumer e spawned before among
    cases among
  · intro e e' older run grown stepped before among
    have last := stepped.grown
    rcases List.mem_cons.1 among with rfl | among
    · exact last
    · have first := grown before among
      exact ⟨first.tally.trans last.tally, first.probe.trans last.probe⟩

/-! ## Where the ledgers agree -/

/-- The ledgers of a run from `start` to `e` that passed through the states `older` agree. -/
structure Agrees (start e : Engine Script) (older : List (Engine Script)) : Prop where
  started : e.transport.probe.started = start.transport.probe.started +
    (e.shared.tally.readsCompleted + e.shared.tally.zeroByteReads + e.shared.tally.readErrors) +
      (unanswered e.trace).toNat
  overlapping : e.transport.probe.overlapping = start.transport.probe.overlapping
  inFlight : e.transport.probe.inFlight = true ↔ ∃ room, e.stage = .reading room
  called : e.shared.tally.callbacksInvoked = heardReads (e :: older)
  failures : e.shared.tally.readErrors = e.faults.countP Fault.isReadFailure
  exhaustions : e.shared.tally.exhaustionEvents = e.faults.countP Fault.isExhaustion

/-- Whatever is read, released, registered and shut down: no counter ever goes back, and wherever
the worker is parked or gone, what the engine counted, what the probe of the transport noted since
the start, and what was reported agree. -/
theorem counters_agree (run : Run Script.Pushed (e :: older))
    (began : (e :: older).getLast? = some start) (idle : start.transport.probe.inFlight = false) :
    (e.stage.isPark = true ∨ e.stage = .exited → Agrees start e older) ∧
      ∀ before ∈ older, Grown before e := by
  refine ⟨fun rests => ?_, run.grown⟩
  obtain ⟨inFlight, overlapping, started, -, -⟩ := run.probed began idle
  obtain ⟨failures, exhaustions⟩ := run.reachable.recorded
  -- nothing is at hand that one of the ledgers has and another has not
  have nothing : e.stage.isCompleting = false ∧ e.stage.owesFailure = false ∧
      e.stage.owesExhaustion = false := by
    rcases rests with park | gone
    · cases place : e.stage <;> first | exact ⟨rfl, rfl, rfl⟩ | (rw [place] at park; cases park)
    · rw [gone]
      exact ⟨rfl, rfl, rfl⟩
  obtain ⟨completing, failing, exhausting⟩ := nothing
  rw [completing] at started
  rw [failing] at failures
  rw [exhausting] at exhaustions
  refine ⟨started, overlapping, ?_, run.heard, ?_, ?_⟩
  · rw [inFlight]
    cases e.stage <;> simp
  · rw [failures, faults, List.countP_reverse]
    rfl
  · rw [exhaustions, faults, List.countP_reverse]
    rfl

/-- A read with bytes that the consumer is shown, one without, one that fails, and one that is in
flight when the engine is shut down. -/
theorem counters_agree_of_cancelled_read :
    ∃ (start ended : Engine Script) (older : List (Engine Script)),
      spawn { capacity := 2 } { steps := [.data [1], .zero, .failure .timedOut] }
        (some Consumer.all) = .ok start ∧
      ended = start.run (List.replicate 14 .worker ++ .timer :: List.replicate 2 .worker ++
        .enter .close :: .call 0 :: .call 0 :: .call 0 :: List.replicate 5 .worker) ∧
      Run Script.Pushed (ended :: older) ∧ (ended :: older).getLast? = some start ∧
      ended.stage = .exited ∧ ended.transport.probe.started = 4 ∧
      unanswered ended.trace = true ∧ ended.shared.tally.callbacksInvoked = 1 ∧
      (ended.stage.isPark = true ∨ ended.stage = .exited → Agrees start ended older) ∧
      ∀ before ∈ older, Grown before ended := by
  have started : Run Script.Pushed [_] :=
    .started { capacity := 2 } { steps := [.data [1], .zero, .failure .timedOut] }
      (some Consumer.all) rfl
  obtain ⟨older, run, began⟩ := started.steps (steps_run _ (List.replicate 14 .worker ++ .timer ::
    List.replicate 2 .worker ++ .enter .close :: .call 0 :: .call 0 :: .call 0 ::
    List.replicate 5 .worker))
  exact ⟨_, _, older, rfl, rfl, run, began, rfl, rfl, rfl, rfl, counters_agree run began rfl⟩

end Engine

end ByteTap
