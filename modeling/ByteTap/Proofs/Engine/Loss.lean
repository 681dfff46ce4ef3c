import ByteTap.Proofs.Engine.Progress
import ByteTap.Proofs.Engine.Reports
import ByteTap.Proofs.Engine.Stall
import ByteTap.Proofs.Engine.Wait
import ByteTap.Proofs.Transport.Stream

/-!
# The loss of the transport

A read that fails while the engine is running may leave the transport closed.  The engine notes this
under the lock, and the worker reports it only after it has let go of the lock, so others come in
between.  From the handling of that read on the worker is on a way of its own that nobody takes it
off: it reports the read, reports the loss, and waits for shutdown.

* `Reachable.founded`: the worker leaves its loop through a permit only after a request to stop;
* `Lost`: where the worker stands once the loss was noticed, and how often it was reported by then;
* `LossWatched`: a running engine that is not open has noticed the loss;
* `disconnection_is_final`: what follows the loss, in every order of turns, and the report of it;
* `script_loss_is_final` and `stream_loss_is_final`: so it is for the transports in use.
-/

namespace ByteTap

/-- The fault is that the transport went away. -/
def Fault.isLoss : Fault → Bool
  | disconnected _ => true
  | _ => false

/-- How often it was reported that the transport went away. -/
@[simp] def lossesIn : List Event → Nat
  | [] => 0
  | .reported (.disconnected _) :: older => lossesIn older + 1
  | _ :: older => lossesIn older

@[simp] theorem lossesIn_noted (notes : List String) (older : List Event) :
    lossesIn ((notes.map Event.noted).reverse ++ older) = lossesIn older :=
  eq_of_noted (fun _ _ => rfl) notes older

@[simp] theorem lossesIn_asked (asked : Bool) (older : List Event) :
    lossesIn ((if asked then [.stopAsked] else []) ++ older) = lossesIn older := by
  cases asked <;> rfl

theorem countP_isLoss_reports (history : List Event) :
    (reports history).countP Fault.isLoss = lossesIn history := by
  induction history with
  | nil => rfl
  | cons event older ih =>
    cases event with
    | reported fault =>
      cases fault <;> simp [Event.fault?, List.countP_cons, Fault.isLoss, ih]
    | _ => simpa [Event.fault?] using ih

namespace Stage

/-- No read has failed since the transport was known to be open. -/
@[simp] def isLive : Stage → Bool
  | starting | arming | reportingDrop _ | issuing _ | reading _ | completing _ (.ok _)
  | backingOff .. | recordingFull | reportingFull | stalled | rechecking => true
  | settling _ handled | reportingFailure _ _ handled => !handled.failed
  | _ => false

/-- The worker is on its way out of the loop since shutdown was requested. -/
@[simp] def isStopping : Stage → Bool
  | settling _ handled | reportingFailure _ _ handled => !handled.running
  | closing | reportingClose _ | markingShut => true
  | _ => false

/-- How often the loss of the transport was reported once it was noticed, if the worker can stand at
that place then. -/
@[simp] def lossReports? : Stage → Option Nat
  | reportingFailure _ _ handled | settling _ handled =>
      if handled.running && handled.failed then some 0 else none
  | reportingLoss => some 0
  | signallingLoss | suspended | closing | reportingClose _ | markingShut | finishing
  | signallingEnd | exited => some 1
  | _ => none

/-- In how many of its own steps the worker reports the loss that was noticed. -/
@[simp] def toLossReport : Stage → Nat
  | reportingFailure .. => 3
  | settling .. => 2
  | reportingLoss => 1
  | _ => 0

end Stage

/-- The call reports that the transport went away, or is about to. -/
@[simp] def Call.saysLost : Call → Bool
  | permittingSpace answer | returned answer => answer == .outcome .disconnected
  | _ => false

namespace Engine

variable {τ : Type} [Transport τ] {arrives : τ → τ → Prop} {e e' later : Engine τ}

/-! ## Nobody leaves the loop of a running engine -/

theorem WorkerStep.was_running (step : WorkerStep e e') (running : e'.shared.phase = .running) :
    e.shared.phase = .running :=
  Phase.eq_running_of_le (running ▸ step.phase_le)

/-- Whatever leads the worker out of its loop in order was preceded by a request to stop. -/
structure Founded (e : Engine τ) : Prop where
  owed : e.OwesStop → e.shared.phase ≠ .running
  /-- A consumer that asks for shutdown and panics leaves a permit in a running engine. -/
  permit : e.shutdownPermit = true → e.shared.phase ≠ .running ∨ e.stopRequested = true
  stopping : e.stage.isStopping = true → e.shared.phase ≠ .running

/-- The worker leaves its loop through a permit or under the lock, and both times for a request to
stop. -/
theorem Founded.worker (founded : Founded e) (heeded : Heeded e) (step : WorkerStep e e') :
    Founded e' := by
  have stays (stopped : e.shared.phase ≠ .running) : e'.shared.phase ≠ .running :=
    fun running => stopped (step.was_running running)
  obtain ⟨owed, permit, stopping⟩ := founded
  -- A worker in its loop was not asked by its consumer, so the permit is a caller's.
  have cut (permitted : e.shutdownPermit = true) (staying : e.stage.isLeaving = false) :
      e.shared.phase ≠ .running := by
    rcases permit permitted with stopped | asked
    · exact stopped
    · cases (heeded.unasked staying).symm.trans asked
  refine ⟨?_, ?_, ?_⟩
  · rintro ⟨i, call', place, owes⟩
    obtain ⟨call, here, move⟩ := step.origin place
    rcases move.owesStop_before owes with owed' | stopped
    · exact stays (owed ⟨i, call, here, owed'⟩)
    · rw [stopped]
      rintro ⟨⟩
  · intro permitted
    cases step
    case completeHeard reply _ _ _ _ _ =>
      rcases Bool.or_eq_true_iff.1 permitted with before | asks
      · exact (permit before).imp stays fun asked => by simp [asked]
      · exact .inr (by simp [asks])
    case completePanicked reply _ _ _ _ _ _ =>
      rcases Bool.or_eq_true_iff.1 permitted with before | asks
      · exact (permit before).imp stays fun asked => by simp [asked]
      · exact .inr (by simp [asks])
    all_goals first
      | exact (permit permitted).imp stays id
      | cases permitted
  · intro stops
    cases step
    -- The ways out of the loop through a permit, and those under the lock.
    case issueCut place permitted => exact cut permitted (by rw [place]; rfl)
    case readCut place permitted => exact cut permitted (by rw [place]; rfl)
    case backoffCut place permitted => exact cut permitted (by rw [place]; rfl)
    case stallCut place permitted => exact cut permitted (by rw [place]; rfl)
    case suspendCut place permitted => exact cut permitted (by rw [place]; rfl)
    case armStopped place stopped => exact stopped
    case armAsked place running asked => exact nofun
    case settleStopped place stopped => exact stopping (by simp [place, stopped])
    case reportFailure place => exact stopping (by simpa [place] using stops)
    all_goals
      have place := ‹e.stage = _›
      rw [place] at stopping
      simp_all

omit [Transport τ] in
/-- A caller owes or leaves the permit only after it has requested shutdown. -/
theorem Founded.call (founded : Founded e) (step : CallStep e e') : Founded e' := by
  have stays (stopped : e.shared.phase ≠ .running) : e'.shared.phase ≠ .running :=
    fun running => stopped (Phase.eq_running_of_le (running ▸ step.phase_le))
  obtain ⟨owed, permit, stopping⟩ := founded
  refine ⟨?_, ?_, ?_⟩
  · rintro ⟨i, call', place, owes⟩
    rcases step.origin place with ⟨call, here, move⟩ | ⟨request, rfl⟩
    · rcases move.owesStop_before owes with owed' | stopped
      · exact stays (owed ⟨i, call, here, owed'⟩)
      · rw [stopped]
        rintro ⟨⟩
    · cases request <;> cases owes
  · intro permitted
    cases step
    case permitStop i place =>
      exact .inl (owed ⟨i, _, place, rfl⟩)
    all_goals exact (permit permitted).imp stays id
  · intro stops
    rw [step.same_worker.stage] at stops
    exact stays (stopping stops)

theorem Founded.started {settings : Settings} {transport : τ} {consumer : Option Consumer}
    (spawned : spawn settings transport consumer = .ok e) : Founded e := by
  obtain ⟨-, -, registration, registrations, rfl⟩ := spawn_eq_ok spawned
  refine ⟨?_, by rintro ⟨⟩, by rintro ⟨⟩⟩
  rintro ⟨i, call, place, owes⟩
  cases place

/-- In every reachable engine the worker's leaving is founded. -/
theorem Reachable.founded (reachable : Reachable arrives e) : Founded e := by
  induction reachable with
  | started settings transport consumer spawned => exact .started spawned
  | step before stepped ih =>
    rcases stepped.cases with worker | call | ⟨transport, -, rfl⟩
    · exact ih.worker before.heeded worker
    · exact ih.call call
    · exact ⟨ih.owed, ih.permit, ih.stopping⟩

/-! ## Once the loss was noticed -/

/-- The loss of the transport was noticed, and reported if the worker is that far. -/
structure Lost (e : Engine τ) : Prop where
  isOpen : e.shared.isOpen = false
  gone : e.stage.lossReports? = some 0 → Transport.isOpen e.transport = false
  reported : e.stage.lossReports? = some (lossesIn e.trace)

/-- The worker goes on to report the loss, and then stays away from the transport. -/
theorem Lost.worker (lost : Lost e) (step : WorkerStep e e') : Lost e' := by
  obtain ⟨isOpen, gone, reported⟩ := lost
  cases step
  case reportFailure handled place =>
    rw [place] at gone reported
    exact ⟨isOpen, gone, reported⟩
  case settleLost place running failed closed =>
    rw [place] at reported
    exact ⟨isOpen, fun _ => closed, by simpa [running, failed] using reported⟩
  -- a transport that is gone is not found open
  case settleFailed place running failed isOpen' =>
    rw [place] at gone
    exact absurd (isOpen'.symm.trans (gone (by simp [running, failed]))) (by decide)
  case reportLoss place =>
    rw [place] at reported
    have none := Option.some.inj reported
    exact ⟨isOpen, by simp, by simp [← none]⟩
  all_goals
    have place := ‹e.stage = _›
    rw [place] at gone reported
    constructor <;> simp_all <;> omega

theorem Lost.call (lost : Lost e) (step : CallStep e e') : Lost e' := by
  obtain ⟨isOpen, gone, reported⟩ := lost
  cases step <;> exact ⟨isOpen, gone, reported⟩

/-- What the worker no longer does: it issues no read, and none is delivered or shown. -/
structure ReadsNoMore (e e' : Engine τ) : Prop where
  issued : issuedRooms e'.trace = issuedRooms e.trace
  delivered : deliveries e'.trace = deliveries e.trace
  generation : e'.shared.generation = e.shared.generation

omit [Transport τ] in
theorem ReadsNoMore.trans {e'' : Engine τ} (first : ReadsNoMore e e')
    (second : ReadsNoMore e' e'') : ReadsNoMore e e'' :=
  ⟨second.issued.trans first.issued, second.delivered.trans first.delivered,
    second.generation.trans first.generation⟩

omit [Transport τ] in
theorem CallStep.readsNoMore (step : CallStep e e') : ReadsNoMore e e' := by
  cases step <;> constructor <;> simp

/-- Once the loss was noticed, the worker stands where no read is issued or handled. -/
theorem Lost.readsNoMore (lost : Lost e) (step : WorkerStep e e') : ReadsNoMore e e' := by
  have reported := lost.reported
  cases step
  all_goals
    have place := ‹e.stage = _›
    rw [place] at reported
    first
      | cases reported
      | constructor <;> simp

/-! ## The loss is noticed -/

omit [Transport τ] in
/-- A wait reports that the transport went away only if it finds that under the lock. -/
theorem CallMove.saysLost {call call' : Call} (move : CallMove e e' call call')
    (tells : call'.saysLost = true) :
    call.saysLost = true ∨ e.shared.phase = .running ∧ e.shared.isOpen = false := by
  have found {timed : Bool} {seen : Nat} (tells : (waitOn e.shared timed seen).saysLost = true) :
      e.shared.phase = .running ∧ e.shared.isOpen = false := by
    unfold waitOn at tells
    split at tells
    · next outcome reason =>
      have grounds : Grounds e.shared seen True outcome := grounds_of_reason reason
      exact grounds.disconnected (by simpa using tells)
    · cases tells
  cases move
  case wake => cases call <;> exact .inl tells
  case beginWait => exact .inr (found tells)
  case resumeWait => exact .inr (found tells)
  case endWait => split at tells <;> cases tells
  all_goals exact .inl tells

/-- A running engine that is not open has noticed the loss, and so has every wait that tells so. -/
structure LossWatched (e : Engine τ) : Prop where
  live : e.stage.isLive = true → Transport.isOpen e.transport = true
  noticed : e.shared.phase = .running → e.shared.isOpen = false → Lost e
  said : ∀ (i : Nat) (call : Call), e.calls[i]? = some call → call.saysLost = true → Lost e

/-- As long as no read fails, the transport stays open. -/
theorem LossWatched.live_worker (closes : Transport.ClosesByFailure τ) (watched : LossWatched e)
    (step : WorkerStep e e') (live' : e'.stage.isLive = true) :
    Transport.isOpen e'.transport = true := by
  have live := watched.live
  cases step
  -- A read that ends well, or is pending, leaves the transport open.
  case issueEnded room polled result place unpermitted poll ended =>
    subst poll
    refine closes.startRead (live (by rw [place]; rfl)) ?_
    rintro cause failed
    rw [failed] at ended
    cases ended
    cases live'
  case issuePending room polled place unpermitted poll pending =>
    subst poll
    refine closes.startRead (live (by rw [place]; rfl)) ?_
    rintro cause failed
    rw [failed] at pending
    cases pending
  case readEnded room polled result place unpermitted poll ended =>
    subst poll
    refine closes.poll _ room (live (by rw [place]; rfl)) ?_
    rintro cause failed
    rw [failed] at ended
    cases ended
    cases live'
  case settleFailed isOpen => exact isOpen
  all_goals
    have place := ‹e.stage = _›
    rw [place] at live
    simp_all

omit [Transport τ] in
/-- The loss is not reported before a read is handled that shows it. -/
theorem Reported.lossesIn_eq_zero {room : Nat} {result : Except IoFailure Bytes}
    (reported : Reported e) (place : e.stage = .completing room result) :
    lossesIn e.trace = 0 := by
  unfold Reported at reported
  rw [place] at reported
  rw [← countP_isLoss_reports, List.countP_eq_zero]
  intro fault among
  cases reported fault among <;> simp [Fault.isLoss]

omit [Transport τ] in
/-- The reports are in order, and the order has place for one loss. -/
theorem Reported.lossesIn_le_one (reported : Reported e) : lossesIn e.trace ≤ 1 := by
  obtain ⟨routine, loss, last, whole, inLoop, lost, final⟩ := reported.parts
  have inOrder : routine.countP Fault.isLoss = 0 := by
    rw [List.countP_eq_zero]
    intro fault among
    cases inLoop fault among <;> simp [Fault.isLoss]
  have atEnd : last.countP Fault.isLoss = 0 := by
    rcases final with rfl | ⟨cause, rfl⟩ | ⟨-, reason, rfl⟩ <;> rfl
  have once : loss.countP Fault.isLoss ≤ 1 := by
    rcases lost with rfl | ⟨rfl, -⟩
    · exact Nat.zero_le 1
    · exact Nat.le_refl 1
  rw [← countP_isLoss_reports, ← List.countP_reverse, whole, List.countP_append,
    List.countP_append]
  omega

/-- The transport is found closed in a running engine only by handling a read that failed. -/
theorem LossWatched.noticed_worker (watched : LossWatched e) (reported : Reported e)
    (founded : Founded e) (step : WorkerStep e e') (running' : e'.shared.phase = .running)
    (closed' : e'.shared.isOpen = false) : Lost e' := by
  have running := step.was_running running'
  have before (closed : e.shared.isOpen = false) : Lost e' :=
    (watched.noticed running closed).worker step
  cases step
  -- The failed read that is handled now is the first to show the loss.
  case completeFailed room cause place =>
    refine ⟨closed', fun _ => closed', ?_⟩
    show _ = some (lossesIn e.trace)
    rw [reported.lossesIn_eq_zero place]
    simpa using running'
  -- The transport is marked closed after a request to stop only.
  case markShut place => exact absurd running (founded.stopping (by rw [place]; rfl))
  case finish => cases running'
  all_goals exact before closed'

/-- The worker notices the loss before a wait can say so. -/
theorem LossWatched.worker (closes : Transport.ClosesByFailure τ) (watched : LossWatched e)
    (reported : Reported e) (founded : Founded e) (step : WorkerStep e e') : LossWatched e' := by
  refine ⟨watched.live_worker closes step, watched.noticed_worker reported founded step, ?_⟩
  intro i call' place tells
  obtain ⟨call, here, move⟩ := step.origin place
  rcases move.saysLost tells with said | ⟨running, closed⟩
  · exact (watched.said i call here said).worker step
  · exact (watched.noticed running closed).worker step

/-- A wait says that the transport is gone only where the worker has noticed it. -/
theorem LossWatched.call (watched : LossWatched e) (step : CallStep e e') : LossWatched e' := by
  have worker := step.same_worker
  refine ⟨?_, ?_, ?_⟩
  · rw [worker.stage, worker.transport]
    exact watched.live
  · intro running' closed'
    have running := Phase.eq_running_of_le (running' ▸ step.phase_le)
    have before (closed : e.shared.isOpen = false) : Lost e' :=
      (watched.noticed running closed).call step
    cases step <;> exact before closed'
  · intro i call' place tells
    rcases step.origin place with ⟨call, here, move⟩ | ⟨request, rfl⟩
    · rcases move.saysLost tells with said | ⟨running, closed⟩
      · exact (watched.said i call here said).call step
      · exact (watched.noticed running closed).call step
    · cases request <;> cases tells

/-- An engine that starts with an open transport has lost nothing. -/
theorem LossWatched.started {settings : Settings} {transport : τ} {consumer : Option Consumer}
    (spawned : spawn settings transport consumer = .ok e)
    (isOpen : Transport.isOpen transport = true) : LossWatched e := by
  obtain ⟨-, -, registration, registrations, rfl⟩ := spawn_eq_ok spawned
  refine ⟨fun _ => isOpen, ?_, ?_⟩
  · intro _ closed
    exact absurd (isOpen.symm.trans closed) (by decide)
  · intro i call place
    cases place

section

variable {start : Engine τ} {settings : Settings} {transport : τ} {consumer : Option Consumer}

/-- Whatever happens in a run, its losses are noticed. -/
theorem Steps.lossWatched (closes : Transport.ClosesByFailure τ)
    (keeps : ∀ transport transport' : τ, arrives transport transport' →
      Transport.isOpen transport' = Transport.isOpen transport)
    (reachable : Reachable arrives start) (watched : LossWatched start)
    (steps : Steps arrives start e) : LossWatched e := by
  induction steps with
  | refl => exact watched
  | @tail middle last before step ih =>
    have between := reachable.steps before
    rcases step.cases with worker | call | ⟨transport, arrived, rfl⟩
    · exact ih.worker closes between.reported between.founded worker
    · exact ih.call call
    · have same := keeps _ _ arrived
      have lost (lost : Lost middle) : Lost { middle with transport } :=
        ⟨lost.isOpen, fun due => same.trans (lost.gone due), lost.reported⟩
      refine ⟨?_, ?_, ?_⟩
      · intro live
        exact same.trans (ih.live live)
      · intro running closed
        exact lost (ih.noticed running closed)
      · intro i call place tells
        exact lost (ih.said i call place tells)

end

/-! ## Ever after -/

/-- What has become of an engine, `later`, whose loss of the transport was noticed at `e`. -/
structure AfterDisconnect (e later : Engine τ) : Prop where
  lost : Lost later
  silent : ReadsNoMore e later
  released : ∃ count, Released e later count

/-- Whoever takes turns, nothing is read any more, and the buffer is only emptied. -/
theorem Lost.ever_after
    (keeps : ∀ transport transport' : τ, arrives transport transport' →
      Transport.isOpen transport' = Transport.isOpen transport)
    (lost : Lost e) (steps : Steps arrives e later) : AfterDisconnect e later := by
  induction steps with
  | refl => exact ⟨lost, ⟨rfl, rfl, rfl⟩, 0, .refl e⟩
  | @tail middle last before step ih =>
    obtain ⟨lost, silent, count, released⟩ := ih
    -- no read is at hand any more that could bring bytes
    have elsewhere (room : Nat) (bytes : Bytes) : middle.stage ≠ .completing room (.ok bytes) := by
      intro place
      have reported := lost.reported
      rw [place] at reported
      cases reported
    obtain ⟨more, further⟩ := step.transfer.released elsewhere
    refine ⟨?_, ?_, _, released.trans further⟩
    · rcases step.cases with worker | call | ⟨transport, arrived, rfl⟩
      · exact lost.worker worker
      · exact lost.call call
      · exact ⟨lost.isOpen, fun due => (keeps _ _ arrived).trans (lost.gone due), lost.reported⟩
    · rcases step.cases with worker | call | ⟨transport, arrived, rfl⟩
      · exact silent.trans (lost.readsNoMore worker)
      · exact silent.trans call.readsNoMore
      · exact silent.trans ⟨rfl, rfl, rfl⟩

/-- Where the loss is still to be reported, the worker has a step that brings it nearer. -/
theorem Lost.nearer {n : Nat} (lost : Lost e) (left : e.stage.toLossReport = n + 1) :
    ∃ e', e.next .worker = some e' ∧ e'.stage.toLossReport ≤ n := by
  cases place : e.stage with
  | reportingFailure room cause handled =>
    rw [place] at left
    cases left
    have told : e.work = some ((e.report (.readFailed e.label cause)).goto
        (.settling room handled)) := by
      simp only [work, place]
    exact ⟨_, told, Nat.le_refl 2⟩
  | settling room handled =>
    -- the read has failed and the transport is closed, so the loss is reported next
    rw [place] at left
    cases left
    have reported := lost.reported
    have gone := lost.gone
    rw [place] at reported gone
    have due : handled.running = true ∧ handled.failed = true := by
      by_cases due : handled.running = true ∧ handled.failed = true
      · exact due
      · simp [due] at reported
    have settled : e.work = some ({ e with failures := e.failures + 1 }.goto .reportingLoss) := by
      simp [work, place, settleRead, due, gone]
    exact ⟨_, settled, Nat.le_refl 1⟩
  | reportingLoss =>
    rw [place] at left
    cases left
    have told : e.work = some ((e.report (.disconnected e.label)).goto .signallingLoss) := by
      simp only [work, place]
    exact ⟨_, told, Nat.le_refl 0⟩
  | _ =>
    rw [place] at left
    cases left

/-- The worker reports the loss, whoever closes the engine meanwhile. -/
theorem Lost.reports_within
    (keeps : ∀ transport transport' : τ, arrives transport transport' →
      Transport.isOpen transport' = Transport.isOpen transport)
    (lost : Lost e) : Within arrives .worker (fun e => lossesIn e.trace = 1) 3 e := by
  have enough (stage : Stage) : stage.toLossReport ≤ 3 := by
    cases stage <;> simp
  refine within_of_countdown (fun n e => Lost e ∧ e.stage.toLossReport = n) ?_ ?_ ?_
    ⟨lost, rfl⟩ (enough e.stage)
  · rintro e ⟨lost, done⟩
    have reported := lost.reported
    cases place : e.stage <;> rw [place] at reported done <;> cases done <;> first
      | exact (Option.some.inj reported).symm
      | cases reported
  -- callers and arrivals leave the worker where it is
  · rintro n e e' ⟨lost, left⟩ step
    have awake (delay : UInt64) (room : Nat) (full : Bool) :
        e.stage ≠ .backingOff delay room full := by
      intro place
      have reported := lost.reported
      rw [place] at reported
      cases reported
    rcases step.of_awake awake with call | ⟨transport, arrived, rfl⟩
    · exact ⟨lost.call call, by rw [call.same_worker.stage, left]⟩
    · refine ⟨⟨lost.isOpen, fun due => (keeps _ _ arrived).trans (lost.gone due), lost.reported⟩,
        left⟩
  -- and its own step brings it nearer
  · rintro n e ⟨lost, left⟩
    obtain ⟨e', stepped, nearer⟩ := lost.nearer left
    exact ⟨e', stepped, _, nearer, lost.worker (.of_work stepped), rfl⟩

/-- Once the loss was noticed, the worker rests where it waits for shutdown. -/
theorem Lost.suspended_of_rest (lost : Lost e) (rest : e.next .worker = none)
    (staying : e.stage.isLeaving = false) : e.stage = .suspended := by
  have reported := lost.reported
  cases work_eq_none_iff.1 rest with
  | suspended place unpermitted => exact place
  | reading place unpermitted pending => rw [place] at reported; cases reported
  | backingOff place unpermitted => rw [place] at reported; cases reported
  | stalled place unpermitted spaceless => rw [place] at reported; cases reported
  | exited place => rw [place] at staying; cases staying

/-! ## What callers find -/

/-- When the worker is gone, the loss is among the reports once. -/
theorem Lost.countP_faults (lost : Lost e) (gone : e.stage = .exited) :
    e.faults.countP Fault.isLoss = 1 := by
  have reported := lost.reported
  rw [gone] at reported
  rw [faults, List.countP_reverse, ← reports, countP_isLoss_reports]
  exact (Option.some.inj reported).symm

/-- A wait that takes the lock first after the loss was noticed returns at once. -/
theorem next_of_waiting_of_lost {i : Nat} {timed : Bool} (running : e.shared.phase = .running)
    (closed : e.shared.isOpen = false) (place : e.calls[i]? = some (.waiting timed)) :
    e.next (.call i) = some (e.place i (.returned (.outcome .disconnected))) := by
  have reason : waitReason e.shared e.shared.generation = some .disconnected := by
    unfold waitReason
    rw [if_neg (by simp), if_neg (by simp [running]), if_pos (by simp [closed])]
  have waits : waitOn e.shared timed e.shared.generation = .returned (.outcome .disconnected) := by
    unfold waitOn
    rw [reason]
  show (e.calls[i]?).bind (e.stepCall i) = _
  rw [place]
  exact congrArg (fun call => some (e.place i call)) waits

theorem next_of_consuming {i count : Nat} (place : e.calls[i]? = some (.consuming count)) :
    ∃ next, e.next (.call i) = some next ∧
      Released e next (e.shared.buffer.released count) := by
  have stepped : e.next (.call i) = e.stepCall i (.consuming count) := by
    show (e.calls[i]?).bind (e.stepCall i) = _
    rw [place]
    rfl
  refine ⟨_, stepped, ?_, rfl, rfl, ?_, rfl⟩
  · show (e.shared.buffer.consume count).filled = _
    rw [Buffer.filled_consume, Buffer.drop_released_filled]
  · exact List.append_nil _

theorem next_of_resetting {i : Nat} (place : e.calls[i]? = some .resetting) :
    ∃ next, e.next (.call i) = some next ∧ Released e next e.shared.buffer.occupied := by
  have stepped : e.next (.call i) = e.stepCall i .resetting := by
    show (e.calls[i]?).bind (e.stepCall i) = _
    rw [place]
    rfl
  refine ⟨_, stepped, ?_, rfl, rfl, ?_, rfl⟩
  · show e.shared.buffer.reset.filled = _
    rw [Buffer.filled_reset, ← Buffer.length_filled, List.drop_length]
  · exact List.append_nil _

/-! ## A disconnection is final -/

/-- In the step from `e` to `e'` a read is handled while the engine is running, and it has left the
transport closed. -/
structure Disconnects (e e' : Engine τ) : Prop where
  handled : ∃ room result, e.stage = .completing room result
  running : e.shared.phase = .running
  step : e.next .worker = some e'
  closed : Transport.isOpen e'.transport = false

/-- The read that leaves the transport closed has failed, and handling it is noticing the loss. -/
theorem Disconnects.lost (disconnects : Disconnects e e') (closes : Transport.ClosesByFailure τ)
    (watched : LossWatched e) (reachable : Reachable arrives e) : Lost e' := by
  obtain ⟨⟨room, result, place⟩, running, stepped, closed⟩ := disconnects
  have step : WorkerStep e e' := .of_work stepped
  have unasked := reachable.heeded.unasked (by rw [place]; rfl)
  have noticed := (watched.worker closes reachable.reported reachable.founded step).noticed
  have live := watched.live
  have gone : e'.shared.phase = .running ∧ e'.shared.isOpen = false := by
    cases step
    case completeFailed =>
      refine ⟨?_, closed⟩
      show e.shared.phase.heed e.stopRequested = .running
      rw [unasked, running]
      rfl
    -- the others have handled a read that ended well, which leaves the transport open
    case completeEmpty place' =>
      exact absurd ((live (by rw [place']; rfl)).symm.trans closed) (by decide)
    case completeUnheard place' _ _ =>
      exact absurd ((live (by rw [place']; rfl)).symm.trans closed) (by decide)
    case completeHeard place' _ _ _ _ =>
      exact absurd ((live (by rw [place']; rfl)).symm.trans closed) (by decide)
    case completePanicked place' _ _ _ _ =>
      exact absurd ((live (by rw [place']; rfl)).symm.trans closed) (by decide)
    all_goals cases place.symm.trans ‹e.stage = _›
  exact noticed gone.1 gone.2

/-- What is true ever after, `later`, of an engine that was disconnected in a step to `e`. -/
structure Disconnected (e later : Engine τ) : Prop where
  isOpen : later.shared.isOpen = false
  /-- No read is issued, and no byte is delivered. -/
  silent : ReadsNoMore e later
  /-- No consumer is called, and the buffer holds what was there until it is released. -/
  released : ∃ count, Released e later count
  waits : later.shared.phase = .running → ∀ (i : Nat) (timed : Bool),
    later.calls[i]? = some (.waiting timed) →
    later.next (.call i) = some (later.place i (.returned (.outcome .disconnected)))
  consumes : ∀ i count : Nat, later.calls[i]? = some (.consuming count) →
    ∃ next, later.next (.call i) = some next ∧
      Released later next (later.shared.buffer.released count)
  resets : ∀ i : Nat, later.calls[i]? = some .resetting →
    ∃ next, later.next (.call i) = some next ∧ Released later next later.shared.buffer.occupied
  reported : lossesIn later.trace ≤ 1
  exited : later.stage = .exited → later.faults.countP Fault.isLoss = 1

/-- All that follows a noticed loss. -/
theorem Lost.disconnected
    (keeps : ∀ transport transport' : τ, arrives transport transport' →
      Transport.isOpen transport' = Transport.isOpen transport)
    (lost : Lost e) (steps : Steps arrives e later) : Disconnected e later := by
  obtain ⟨after, silent, released⟩ := lost.ever_after keeps steps
  refine ⟨after.isOpen, silent, released, ?_, fun i count => next_of_consuming,
    fun i => next_of_resetting, ?_, after.countP_faults⟩
  · intro running i timed
    exact next_of_waiting_of_lost running after.isOpen
  · have reported := after.reported
    have most : ∀ n, later.stage.lossReports? = some n → n ≤ 1 := by
      intro n counted
      unfold Stage.lossReports? at counted
      split at counted <;> (try split at counted) <;> cases counted <;> decide
    exact most _ reported

/-- What is final about a loss of the transport in a run that started in `start` and came to `e`. -/
structure LossIsFinal (arrives : τ → τ → Prop) (start e : Engine τ) : Prop where
  /-- No read follows a loss, no byte comes and no consumer is called, whoever waits is told so at
  once while the engine runs, and what the buffer holds can still be taken.  The worker reports the
  loss within three steps of its own, whoever closes the engine meanwhile, and never again. -/
  ever : ∀ e', Disconnects e e' →
    Within arrives .worker (fun e => lossesIn e.trace = 1) 3 e' ∧
      ∀ later, Steps arrives e' later → Disconnected e' later
  /-- Where a wait has said that the transport went away, the loss is in the owner's sink once, when
  a call to close the engine returns. -/
  told : ∀ (asked : Engine τ) (i j : Nat) (answer : Answer), Steps arrives start asked →
    Steps arrives asked e → asked.calls[i]? = some .closing →
    e.calls[i]? = some (.returned answer) →
    e.calls[j]? = some (.returned (.outcome .disconnected)) →
    (Sink.attached.seen e.faults).countP Fault.isLoss = 1

/-- Where losses are noticed, each is final. -/
theorem LossWatched.isFinal {start : Engine τ} (watched : LossWatched e)
    (reachable : Reachable arrives e) (closes : Transport.ClosesByFailure τ)
    (keeps : ∀ transport transport' : τ, arrives transport transport' →
      Transport.isOpen transport' = Transport.isOpen transport) : LossIsFinal arrives start e where
  ever e' disconnects := by
    have lost := disconnects.lost closes watched reachable
    exact ⟨lost.reports_within keeps, fun later => lost.disconnected keeps⟩
  told asked i j answer before after closing returned said := by
    -- A wait says so only after the worker has noticed the loss.  When a close returns, the worker
    -- is gone and has reported it.
    have lost := watched.said j _ said rfl
    rcases after.closing closing with ⟨call, place, still⟩ | gone
    · cases place.symm.trans returned
      cases still
    · exact lost.countP_faults gone

theorem Steps.watched_of_spawn {start : Engine τ} {settings : Settings} {transport : τ}
    {consumer : Option Consumer} (closes : Transport.ClosesByFailure τ)
    (keeps : ∀ transport transport' : τ, arrives transport transport' →
      Transport.isOpen transport' = Transport.isOpen transport)
    (spawned : spawn settings transport consumer = .ok start)
    (isOpen : Transport.isOpen transport = true) (steps : Steps arrives start e) :
    Reachable arrives e ∧ LossWatched e := by
  have reachable : Reachable arrives start := .started settings transport consumer spawned
  exact ⟨reachable.steps steps,
    Steps.lossWatched closes keeps reachable (.started spawned isOpen) steps⟩

section

variable {settings : Settings} {consumer : Option Consumer}

/-- A script goes away only in a read that fails, or when it is shut, and what is pushed does not
bring it back. -/
theorem script_loss_is_final {script : Script} {start e : Engine Script}
    (spawned : spawn settings script consumer = .ok start) (isOpen : script.isOpen = true)
    (steps : Steps Script.Pushed start e) : LossIsFinal Script.Pushed start e := by
  have keeps (s s' : Script) (pushed : Script.Pushed s s') := pushed.isOpen
  obtain ⟨reachable, watched⟩ :=
    Steps.watched_of_spawn Script.closesByFailure keeps spawned isOpen steps
  exact watched.isFinal reachable Script.closesByFailure keeps

/-- A stream of bytes goes away at the end of its source, whatever happens there, or when it is
shut. -/
theorem stream_loss_is_final {σ : Type} [ByteSource σ] {stream : Stream σ}
    {start e : Engine (Stream σ)} (spawned : spawn settings stream consumer = .ok start)
    (isOpen : stream.isOpen = true) (steps : Steps Stream.Changed start e) :
    LossIsFinal Stream.Changed start e := by
  have keeps (s s' : Stream σ) (changed : Stream.Changed s s') := changed.isOpen
  obtain ⟨reachable, watched⟩ :=
    Steps.watched_of_spawn Stream.closesByFailure keeps spawned isOpen steps
  exact watched.isFinal reachable Stream.closesByFailure keeps

/-- A transport that is open at the start and goes away in a read, as scripts and streams do by
`Script.closesByFailure` and `Stream.closesByFailure`, is gone for good. -/
theorem disconnection_is_final {transport : τ} {start : Engine τ}
    (closes : Transport.ClosesByFailure τ)
    (keeps : ∀ transport transport' : τ, arrives transport transport' →
      Transport.isOpen transport' = Transport.isOpen transport)
    (spawned : spawn settings transport consumer = .ok start)
    (isOpen : Transport.isOpen transport = true) (steps : Steps arrives start e) :
    LossIsFinal arrives start e := by
  obtain ⟨reachable, watched⟩ := Steps.watched_of_spawn closes keeps spawned isOpen steps
  exact watched.isFinal reachable closes keeps

end

/-- The engine is closed right after the read was handled that lost the transport: a caller waits,
and is told of the loss before it was reported, and another closes the engine.  What is left in the
buffer is consumed in the end. -/
theorem disconnection_is_final_of_early_close :
    ∃ start e e' closing ended : Engine Script,
      spawn { capacity := 4 } { steps := [.data [1, 2], .disconnect] } none = .ok start ∧
      e = start.run (List.replicate 7 .worker) ∧ Disconnects e e' ∧
      Within Script.Pushed .worker (fun e => lossesIn e.trace = 1) 3 e' ∧
      closing = e'.run [.enter (.wait false), .call 0, .enter .close] ∧
      ended = closing.run ([.call 1, .worker, .worker, .call 1, .call 1] ++
        List.replicate 7 .worker ++ [.call 1, .enter (.consume 1), .call 2, .call 2]) ∧
      Disconnected e' ended ∧ ended.shared.buffer.filled = [2] ∧
      (Sink.attached.seen ended.faults).countP Fault.isLoss = 1 ∧
      ended.answers = [some (.outcome .disconnected), some .done, some (.released 1)] := by
  have spawned : spawn { capacity := 4 }
      ({ steps := [.data [1, 2], .disconnect] } : Script) none = .ok _ := rfl
  have run (e : Engine Script) (schedule : List Label) :
      Steps Script.Pushed e (e.run schedule) := steps_run e schedule
  obtain ⟨ever, -⟩ := disconnection_is_final Script.closesByFailure
    (fun _ _ => Script.Pushed.isOpen) spawned rfl (run _ (List.replicate 7 .worker))
  obtain ⟨soon, after⟩ := ever _ ⟨⟨_, _, rfl⟩, rfl, rfl, rfl⟩
  refine ⟨_, _, _, _, _, spawned, rfl, ⟨⟨_, _, rfl⟩, rfl, rfl, rfl⟩, soon, rfl, rfl,
    after _ ((run _ _).trans (run _ _)), rfl, ?_, rfl⟩
  have told {closing ended : Engine Script} (before : Steps Script.Pushed _ closing)
      (later : Steps Script.Pushed closing ended) :=
    (disconnection_is_final Script.closesByFailure (fun _ _ => Script.Pushed.isOpen) spawned rfl
      (before.trans later)).told closing 1 0 .done before later
  exact told ((run _ (List.replicate 7 .worker)).trans (.head (.turn .worker rfl) (run _ _)))
    (run _ _) rfl rfl rfl

end Engine

end ByteTap
