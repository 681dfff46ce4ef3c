import ByteTap.Proofs.Engine.FullBuffer

/-!
# What the policies make of a script

An engine is `Fed` if it reads a script, to which steps may be added at any time, and nobody
releases bytes: no caller does, and a consumer only observes.  How the data of the script are cut
into chunks, and what stands between them, then leaves no trace in the result.

* `Flows` is what every step keeps while the worker is in its loop: how far the script was read,
  that the transport is lost only with room in the buffer, that a stall is for good, and how the
  counters follow from the policy.
* `Fed.at_rest`: where the worker rests, it has handled all data and has room, or it stalls.
* `Fed.comes_to_rest`: it comes to rest, since every step of it lowers `rank`.
* `result_of_script` puts these together into a closed form for both policies.
-/

namespace ByteTap

/-- The consumer is done with nothing, whatever it is shown. -/
def Consumer.Observes (c : Consumer) : Prop := ∀ history, (c.reply history).amount = 0

theorem Consumer.observes_observe : observe.Observes := by
  intro history
  cases history <;> rfl

/-- The call releases nothing, and registers no consumer that would. -/
def Call.Observes : Call → Prop
  | consuming _ | resetting => False
  | installing consumer => consumer.Observes
  | _ => True

namespace Stage

/-- The worker is with a read that was armed without room, or with what comes of it. -/
@[simp] def lacksRoom : Stage → Bool
  | reportingDrop room | issuing room | reading room | completing room _ | reportingFailure room _ _
  | settling room _ | backingOff _ room _ => room == 0
  | recordingFull | reportingFull | stalled | rechecking => true
  | _ => false

/-- The full buffer was counted, and the worker has not seen room since. -/
@[simp] def hasCounted : Stage → Bool
  | reportingFull | stalled | rechecking => true
  | _ => false

/-- The worker is with a read that has failed, or with what comes of the loss of the transport. -/
@[simp] def handlesLoss : Stage → Bool
  | completing _ (.error _) => true
  | reportingFailure _ _ handled | settling _ handled => handled.failed
  | reportingLoss | signallingLoss | suspended => true
  | _ => false

/-- What every step of the worker lowers that reads nothing. -/
@[simp] def ahead : Stage → Nat
  | starting => 31
  -- A read without room is followed by the stall, and any other by the next read.
  | completing room _ => if room = 0 then 20 else 30
  | reportingFailure room _ _ => if room = 0 then 19 else 29
  | settling room _ => if room = 0 then 18 else 28
  | backingOff _ room _ => if room = 0 then 17 else 27
  | arming => 26
  | reportingDrop _ => 25
  | issuing room => if room = 0 then 22 else 24
  | reading room => if room = 0 then 21 else 23
  | recordingFull => 16
  | reportingFull => 15
  | rechecking => 14
  | stalled => 13
  | reportingLoss => 12
  | signallingLoss => 11
  | suspended => 10
  | closing => 5
  | reportingClose _ => 4
  | markingShut | unwinding _ => 3
  | finishing => 2
  | signallingEnd => 1
  | exited => 0

end Stage

namespace Engine

variable {script : List ScriptStep} {e e' : Engine Script}

/-! ## Engines that are only fed -/

/-- No consumer and no call releases anything. -/
structure Observed (e : Engine Script) : Prop where
  consumer : ∀ registration, e.shared.registration = some registration →
    registration.consumer.Observes
  calls : ∀ call ∈ e.calls, call.Observes

/-- The engines over a script, to which steps are added at any time, while nothing is released. -/
inductive Fed : List ScriptStep → Engine Script → Prop
  | started {e : Engine Script} (settings : Settings) (transport : Script)
      (consumer : Option Consumer) (spawned : spawn settings transport consumer = .ok e)
      (isOpen : transport.isOpen = true) (fresh : transport.leftover = []) (observed : Observed e) :
      Fed transport.steps e
  | pushed {script : List ScriptStep} {e : Engine Script} (steps : List ScriptStep)
      (before : Fed script e) : Fed (script ++ steps) (e.mapTransport (·.push steps))
  | turn {script : List ScriptStep} {e e' : Engine Script} (label : Label) (before : Fed script e)
      (stepped : e.next label = some e') (observed : Observed e') : Fed script e'

theorem Fed.reachable (fed : Fed script e) : Reachable Script.Pushed e := by
  induction fed with
  | started settings transport consumer spawned =>
    exact .started settings transport consumer spawned
  | pushed steps _ ih => exact ih.step (.arrival _ ⟨steps, rfl⟩)
  | turn label _ stepped _ ih => exact ih.step (.turn label stepped)

/-- Nothing is released while an engine is only fed. -/
theorem Fed.observed (fed : Fed script e) : Observed e := by
  induction fed with
  | started _ _ _ _ _ _ observed => exact observed
  | pushed steps _ ih => exact ⟨ih.consumer, ih.calls⟩
  | turn _ _ _ observed _ => exact observed

theorem WorkerStep.consumer {registration' : Registration} (step : WorkerStep e e')
    (here : e'.shared.registration = some registration') :
    ∃ registration, e.shared.registration = some registration ∧
      registration.consumer = registration'.consumer := by
  have same := step.consumer_same
  rw [here] at same
  exact Option.map_eq_some_iff.1 same.symm

theorem Observed.worker (observed : Observed e) (step : WorkerStep e e') : Observed e' := by
  refine ⟨?_, ?_⟩
  · intro registration' here
    obtain ⟨registration, before, same⟩ := step.consumer here
    exact same ▸ observed.consumer registration before
  · intro call among
    rcases step.calls_eq with same | woken
    · exact observed.calls call (same ▸ among)
    · rw [woken] at among
      obtain ⟨asleep, before, rfl⟩ := List.mem_map.1 among
      have releasesNothing := observed.calls asleep before
      cases asleep <;> exact releasesNothing

/-- What holds of a started engine and is kept by every step that releases nothing. -/
theorem Fed.invariant {motive : List ScriptStep → Engine Script → Prop}
    (started : ∀ {settings : Settings} {transport : Script} {consumer : Option Consumer}
      {e : Engine Script}, spawn settings transport consumer = .ok e → transport.isOpen = true →
      transport.leftover = [] → motive transport.steps e)
    (pushed : ∀ {script : List ScriptStep} {e : Engine Script} (steps : List ScriptStep),
      motive script e → motive (script ++ steps) { e with transport := e.transport.push steps })
    (worker : ∀ {script : List ScriptStep} {e e' : Engine Script}, Fed script e → motive script e →
      WorkerStep e e' → motive script e')
    (call : ∀ {script : List ScriptStep} {e e' : Engine Script}, Fed script e → motive script e →
      CallStep e e' → motive script e')
    (fed : Fed script e) : motive script e := by
  induction fed with
  | started settings transport consumer spawned isOpen fresh observed =>
    exact started spawned isOpen fresh
  | pushed steps before ih => exact pushed steps ih
  | turn label before stepped observed ih =>
    rcases cases_of_turn stepped with step | step
    · exact worker before ih step
    · exact call before ih step

/-- What no caller changes that releases nothing. -/
structure SameFlow (e e' : Engine Script) : Prop where
  buffer : e'.shared.buffer = e.shared.buffer
  tally : e'.shared.tally = e.shared.tally
  returned : returnedIn e'.trace = returnedIn e.trace

theorem Observed.sameFlow (observed : Observed e) (step : CallStep e e') : SameFlow e e' := by
  cases step
  case consume place => exact (observed.calls _ (List.mem_of_getElem? place)).elim
  case reset place => exact (observed.calls _ (List.mem_of_getElem? place)).elim
  all_goals exact ⟨rfl, rfl, by simp⟩

/-! ## How the script goes through the engine -/

/-- How far the script has come, in an engine whose worker is in its loop. -/
structure Flows (script : List ScriptStep) (e : Engine Script) : Prop where
  drawn : ∃ taken, Script.Drawn script (returnedIn e.trace) taken e.transport
  /-- The loss of the transport is noticed at once, and with room in the buffer. -/
  lost : e.transport.isOpen = false →
    e.stage.handlesLoss = true ∧ e.shared.buffer.isFull = false
  /-- Once a read was armed without room, nothing makes room any more. -/
  stuck : e.stage.lacksRoom = true → e.settings.policy = .stall ∧
    e.shared.buffer.isFull = true ∧ e.stage.onFullRead = true
  reported : e.exhaustionReported = e.stage.stalls
  stall : e.settings.policy = .stall → e.shared.tally.bytesReleased = 0 ∧
    e.shared.tally.exhaustionEvents = e.stage.hasCounted.toNat
  discard : e.settings.policy = .discard → e.shared.tally.bytesReleased =
    e.settings.capacity.toNat * e.shared.tally.exhaustionEvents

/-- What the worker reads is what the script holds next. -/
theorem Flows.drawn_worker (flows : Flows script e) (step : WorkerStep e e')
    (staying : e'.stage.isLeaving = false) :
    ∃ taken, Script.Drawn script (returnedIn e'.trace) taken e'.transport := by
  obtain ⟨taken, drawn⟩ := flows.drawn
  have issued (room : Nat) :
      Script.Drawn script (returnedIn e.trace) taken (Transport.issue e.transport room) :=
    drawn.same ⟨rfl, rfl, rfl⟩
  cases step
  case issueEnded room polled result place unpermitted poll ended =>
    subst poll
    rw [returnedIn_ended]
    simp only [returnedIn, Event.returnedBytes, List.append_nil]
    exact (issued room).poll ended
  case issuePending room polled place unpermitted poll pending =>
    subst poll
    refine ⟨taken, ?_⟩
    rw [returnedIn_noted]
    simp only [returnedIn, Event.returnedBytes, List.append_nil]
    exact (issued room).poll_pending pending
  case readEnded room polled result place unpermitted poll ended =>
    subst poll
    rw [returnedIn_ended]
    exact drawn.poll ended
  case completeHeard reply _ _ _ _ _ =>
    refine ⟨taken, ?_⟩
    cases reply.stops <;> simpa using drawn
  -- These lead out of the loop.
  case readCut => cases staying
  case completePanicked => cases staying
  case shut => cases staying
  case shutFailed => cases staying
  case unwind => cases staying
  all_goals exact ⟨taken, by simpa using drawn⟩

/-- A read closes the transport only if it has room, and the room is still there. -/
theorem RoomKept.lost {s : Script} {r : Nat} {result : Except IoFailure Bytes} (kept : RoomKept e)
    (here : e.stage.room? = some r) (isOpen : s.isOpen = true)
    (ended : (Transport.poll s r).result = some result)
    (closed : (Transport.poll s r).transport.isOpen = false) :
    (Stage.completing r result).handlesLoss = true ∧ e.shared.buffer.isFull = false := by
  rcases Script.isOpen_poll isOpen with still | ⟨somewhere, cause, failed⟩
  · exact absurd (still.symm.trans closed) (by decide)
  · cases ended.symm.trans failed
    exact ⟨rfl, Buffer.not_isFull_of_spare (Nat.lt_of_lt_of_le somewhere (kept.room r here))⟩

theorem Flows.isOpen (flows : Flows script e) (elsewhere : e.stage.handlesLoss = false) :
    e.transport.isOpen = true := by
  cases isOpen : e.transport.isOpen with
  | true => rfl
  | false => exact absurd ((flows.lost isOpen).1.symm.trans elsewhere) (by decide)

/-- The transport goes away in a read that had room. -/
theorem Flows.lost_worker (flows : Flows script e) (kept : RoomKept e) (step : WorkerStep e e')
    (staying : e'.stage.isLeaving = false) (closed : e'.transport.isOpen = false) :
    e'.stage.handlesLoss = true ∧ e'.shared.buffer.isFull = false := by
  have isOpen := flows.isOpen
  cases step
  case issueEnded room polled result place unpermitted poll ended =>
    subst poll
    have isOpen : (Transport.issue e.transport room).isOpen = true := isOpen (by rw [place]; rfl)
    exact kept.lost (by rw [place]; rfl) isOpen ended closed
  case readEnded room polled result place unpermitted poll ended =>
    subst poll
    exact kept.lost (by rw [place]; rfl) (isOpen (by rw [place]; rfl)) ended closed
  case issuePending room polled place unpermitted poll pending =>
    subst poll
    have isOpen : (Transport.issue e.transport room).isOpen = true := isOpen (by rw [place]; rfl)
    -- a pending read leaves the transport open
    rcases Script.isOpen_poll isOpen with still | ⟨-, cause, failed⟩
    · exact absurd (still.symm.trans closed) (by decide)
    · cases pending.symm.trans failed
  case settleFailed isOpen => exact absurd (isOpen.symm.trans closed) (by decide)
  case readCut => cases staying
  case shut => cases staying
  case shutFailed => cases staying
  case unwind => cases staying
  all_goals
    have place := ‹e.stage = _›
    have lost := flows.lost closed
    rw [place] at lost
    obtain ⟨handles, free⟩ := lost
    simp_all [Stage.isLeaving]

theorem Flows.reported_worker (flows : Flows script e) (step : WorkerStep e e')
    (staying : e'.stage.isLeaving = false) : e'.exhaustionReported = e'.stage.stalls := by
  have reported := flows.reported
  have stuck := flows.stuck
  cases step <;> simp_all [Stage.stalls, Stage.isLeaving]

theorem Observed.released (observed : Observed e) {registration : Registration}
    (heard : e.shared.registration = some registration) {history : List Bytes} {reply : Reply}
    (replied : registration.consumer.reply history = reply) (b : Buffer) :
    b.released reply.amount = 0 := by
  rw [← replied, observed.consumer registration heard history]
  exact Nat.zero_min _

theorem Observed.released_same (observed : Observed e) (policy : e.settings.policy = .stall)
    (step : WorkerStep e e') :
    e'.shared.tally.bytesReleased = e.shared.tally.bytesReleased := by
  cases step
  case armDiscard discard => cases policy.symm.trans discard
  case completeHeard heard replied _ => simp [observed.released heard replied]
  all_goals rfl

/-- Under the policy to stall, the full buffer is counted once and nothing is released. -/
theorem Flows.stall_worker (flows : Flows script e) (observed : Observed e) (step : WorkerStep e e')
    (staying : e'.stage.isLeaving = false) (policy : e'.settings.policy = .stall) :
    e'.shared.tally.bytesReleased = 0 ∧
      e'.shared.tally.exhaustionEvents = e'.stage.hasCounted.toNat := by
  rw [step.settings_same] at policy
  obtain ⟨released, events⟩ := flows.stall policy
  refine ⟨(observed.released_same policy step).trans released, ?_⟩
  have reported := flows.reported
  have stuck := flows.stuck
  cases step <;> simp_all [Stage.isLeaving, Stage.stalls]

/-- Under the policy to discard, each full buffer is counted and released whole. -/
theorem Flows.discard_worker (flows : Flows script e) (sized : Sized e) (observed : Observed e)
    (step : WorkerStep e e') (policy : e'.settings.policy = .discard) :
    e'.shared.tally.bytesReleased =
      e'.settings.capacity.toNat * e'.shared.tally.exhaustionEvents := by
  rw [step.settings_same] at policy ⊢
  have balance := flows.discard policy
  cases step
  case armDiscard place running unasked full _ =>
    have full := Buffer.isFull_iff.1 full
    show _ + e.shared.buffer.occupied = _ * (e.shared.tally.exhaustionEvents + 1)
    rw [balance, full, sized.capacity, Nat.mul_add, Nat.mul_one]
  case completeHeard heard replied _ => simpa [observed.released heard replied] using balance
  -- only a worker that stalls comes here
  case recordFull place =>
    have stall := (flows.stuck (by rw [place]; rfl)).1
    cases policy.symm.trans stall
  all_goals exact balance

/-- A worker that has found the buffer full finds it full for ever. -/
theorem Flows.stuck_worker (flows : Flows script e) (sized : Sized e) (observed : Observed e)
    (step : WorkerStep e e') (lacks : e'.stage.lacksRoom = true)  :
    e'.settings.policy = .stall ∧ e'.shared.buffer.isFull = true ∧ e'.stage.onFullRead = true := by
  by_cases before : e.stage.lacksRoom = true
  · obtain ⟨policy, full, place⟩ := flows.stuck before
    -- nothing was released, so it is still the read that found the buffer full
    have same := observed.released_same policy step
    rcases step.turns policy full place with more | ⟨-, still, place'⟩
    · omega
    · exact ⟨by rw [step.settings_same, policy], still, place'⟩
  · cases step
    case armStall place running unasked full policy => exact ⟨policy, full, rfl⟩
    case armRead place running unasked free =>
      have nothing : e.shared.buffer.spare = 0 := by simpa using lacks
      exact absurd nothing (Nat.pos_iff_ne_zero.1 (Buffer.spare_pos free))
    case armDiscard =>
      have nothing : e.shared.buffer.reset.spare = 0 := by simpa using lacks
      exact absurd nothing (Nat.pos_iff_ne_zero.1 sized.spare_reset_pos)
    all_goals simp_all

/-- The worker takes the script on, as long as it stays in its loop. -/
theorem Flows.worker (flows : Flows script e) (kept : RoomKept e) (sized : Sized e)
    (observed : Observed e) (step : WorkerStep e e') (staying : e'.stage.isLeaving = false) :
    Flows script e' :=
  ⟨flows.drawn_worker step staying, flows.lost_worker kept step staying,
    flows.stuck_worker sized observed step, flows.reported_worker step staying,
    flows.stall_worker observed step staying, flows.discard_worker sized observed step⟩

/-- Calls that release nothing leave the flow as it is. -/
theorem Flows.call (flows : Flows script e) (observed : Observed e) (step : CallStep e e') :
    Flows script e' := by
  obtain ⟨stage, transport, settings, -, reported⟩ := step.same_worker
  obtain ⟨buffer, tally, returned⟩ := observed.sameFlow step
  constructor
  · rw [returned, transport]
    exact flows.drawn
  · rw [transport, stage, buffer]
    exact flows.lost
  · rw [stage, settings, buffer]
    exact flows.stuck
  · rw [reported, stage]
    exact flows.reported
  · rw [settings, tally, stage]
    exact flows.stall
  · rw [settings, tally]
    exact flows.discard

/-- While an engine is only fed, the script goes through it, until the worker leaves its loop. -/
theorem Fed.flows (fed : Fed script e) : e.stage.isLeaving = true ∨ Flows script e := by
  refine fed.invariant (motive := fun script e => e.stage.isLeaving = true ∨ Flows script e)
    ?_ ?_ ?_ ?_
  · intro settings transport consumer e spawned isOpen fresh
    obtain ⟨-, -, registration, registrations, rfl⟩ := spawn_eq_ok spawned
    refine .inr ⟨⟨[], rfl, fresh.symm, fun _ => List.not_mem_nil, ?_⟩, ?_, ?_, rfl, ?_, ?_⟩
    · exact fun closed => absurd (isOpen.symm.trans closed) (by decide)
    · exact fun closed => absurd (isOpen.symm.trans closed) (by decide)
    · rintro ⟨⟩
    · exact fun _ => ⟨rfl, rfl⟩
    · exact fun _ => (Nat.mul_zero _).symm
  · rintro script e steps (leaving | flows)
    · exact .inl leaving
    · obtain ⟨taken, drawn⟩ := flows.drawn
      exact .inr ⟨⟨taken, drawn.push steps⟩, flows.lost, flows.stuck, flows.reported, flows.stall,
        flows.discard⟩
  · intro script e e' fed before step
    rcases step.leaves_or_keeps with leaving | keeps
    · exact .inl leaving
    · cases leaving : e'.stage.isLeaving with
      | true => exact .inl rfl
      | false =>
        rcases before with left | flows
        · exact absurd (keeps.staying.symm.trans left) (by decide)
        · exact .inr (flows.worker (fed.reachable.streamKept Script.bounded).room
            fed.reachable.sized fed.observed step leaving)
  · intro script e e' fed before step
    rcases before with leaving | flows
    · exact .inl (by rw [step.same_worker.stage, leaving])
    · exact .inr (flows.call fed.observed step)

theorem Fed.flows_of_staying (fed : Fed script e) (staying : e.stage.isLeaving = false) :
    Flows script e := by
  rcases fed.flows with leaving | flows
  · exact absurd (leaving.symm.trans staying) (by decide)
  · exact flows

/-! ## What a rest means -/

/-- The worker has no step, and waits for nothing that comes by itself. -/
structure Rests (e : Engine Script) : Prop where
  worker : e.next .worker = none
  timer : e.next .timer = none

/-- Left to the worker and to time, an engine comes to rest if each of their turns lowers a rank. -/
theorem rests_of_rank {motive : Engine Script → Prop} (rank : Engine Script → Nat)
    (turn : ∀ {label : Label} {e e' : Engine Script}, motive e → label.byWorker = true →
      e.next label = some e' → motive e' ∧ rank e' < rank e)
    (holds : motive e) :
    ∃ schedule : List Label, (∀ label ∈ schedule, label.byWorker = true) ∧
      Rests (e.run schedule) ∧ motive (e.run schedule) := by
  induction size : rank e using Nat.strongRecOn generalizing e with
  | ind n ih =>
    have onward {label : Label} {e' : Engine Script} (alone : label.byWorker = true)
        (stepped : e.next label = some e') :
        ∃ schedule : List Label, (∀ label ∈ schedule, label.byWorker = true) ∧
          Rests (e.run schedule) ∧ motive (e.run schedule) := by
      obtain ⟨kept, lower⟩ := turn holds alone stepped
      obtain ⟨later, others, rests, reached⟩ := ih (rank e') (size ▸ lower) kept rfl
      rw [← run_cons stepped] at rests reached
      exact ⟨label :: later, List.forall_mem_cons.2 ⟨alone, others⟩, rests, reached⟩
    cases worker : e.next .worker with
    | some e' => exact onward rfl worker
    | none =>
      cases timer : e.next .timer with
      | some e' => exact onward rfl timer
      | none => exact ⟨[], by simp, ⟨worker, timer⟩, holds⟩

theorem Fed.flows_of_rests (fed : Fed script e) (rests : Rests e) (alive : e.stage ≠ .exited) :
    Flows script e := by
  have idle := work_eq_none_iff.1 rests.worker
  exact fed.flows_of_staying (Stage.isLeaving_of_isPark (idle.parked alive).1)

/-- A worker that rests, and is not gone, has handled all data of the script with room to spare, or
has filled the buffer and stalls. -/
theorem Fed.at_rest (fed : Fed script e) (rests : Rests e) (alive : e.stage ≠ .exited) :
    (receivedIn e.trace = Script.deliverable script ∧ e.shared.buffer.isFull = false ∧
      e.stage.hasCounted = false) ∨
    e.settings.policy = .stall ∧ e.shared.buffer.isFull = true ∧ e.stage.hasCounted = true ∧
      receivedIn e.trace <+: Script.deliverable script := by
  have flows := fed.flows_of_rests rests alive
  obtain ⟨kept, -, returned, -⟩ := fed.reachable.streamKept Script.bounded
  have handled (nothing : e.stage.inHand = []) : returnedIn e.trace = receivedIn e.trace := by
    rw [returned, nothing, List.append_nil]
  obtain ⟨taken, drawn⟩ := flows.drawn
  cases work_eq_none_iff.1 rests.worker with
  -- A pending read has room, so the script has nothing left.
  | @reading room place unpermitted pending =>
    obtain ⟨steps, leftover, somewhere⟩ := Script.poll_pending pending
    have fits := kept.room room (by rw [place]; rfl)
    have free := Buffer.not_isFull_of_spare (Nat.lt_of_lt_of_le somewhere fits)
    refine .inl ⟨?_, free, by rw [place]; rfl⟩
    rw [drawn.all (.inr ⟨steps, leftover⟩), handled (by rw [place]; rfl)]
  | backingOff place unpermitted =>
    have timer := rests.timer
    simp [next, wakeFromBackoff, place] at timer
  -- A stalled worker was stuck with the full buffer from the start of the stall.
  | stalled place unpermitted spaceless =>
    obtain ⟨policy, full, -⟩ := flows.stuck (by rw [place]; rfl)
    refine .inr ⟨policy, full, by rw [place]; rfl, ?_⟩
    rw [← handled (by rw [place]; rfl)]
    exact drawn.returned_first
  | suspended place unpermitted =>
    have known := fed.reachable.lossKnown fun _ _ => Script.Pushed.isOpen
    have closed : e.transport.isOpen = false := (known.lost (by rw [place]; rfl)).1
    refine .inl ⟨?_, (flows.lost closed).2, by rw [place]; rfl⟩
    rw [drawn.all (.inl closed), handled (by rw [place]; rfl)]
  | exited place => exact absurd place alive

/-- What both policies make of the data of a script. -/
structure Result (e : Engine Script) (data : Bytes) : Prop where
  /-- The first bytes are kept, and the buffer is full at most once. -/
  stall : e.settings.policy = .stall →
    e.shared.buffer.filled = data.take e.settings.capacity.toNat ∧
    e.shared.tally.bytesReleased = 0 ∧
    e.shared.tally.exhaustionEvents = if e.settings.capacity.toNat ≤ data.length then 1 else 0
  /-- Every full buffer is dropped, and the bytes after the last one are kept. -/
  discard : e.settings.policy = .discard →
    e.shared.tally.exhaustionEvents = data.length / e.settings.capacity.toNat ∧
    e.shared.tally.bytesReceived = data.length ∧
    e.shared.tally.bytesReleased =
      e.settings.capacity.toNat * (data.length / e.settings.capacity.toNat) ∧
    e.shared.buffer.filled =
      data.drop (data.length - data.length % e.settings.capacity.toNat)

/-- At rest, both policies have made of the data what they should. -/
theorem Fed.result (fed : Fed script e) (rests : Rests e) (alive : e.stage ≠ .exited) :
    Result e (Script.deliverable script) := by
  have flows := fed.flows_of_rests rests alive
  obtain ⟨kept, balanced, -, -⟩ := fed.reachable.streamKept Script.bounded
  have size := fed.reachable.sized.capacity
  have positive := fed.reachable.sized.positive
  have length := balanced.occupied
  have content := balanced.content
  rw [← balanced.released] at length content
  have le := e.shared.buffer.occupied_le_capacity
  rcases fed.at_rest rests alive with ⟨all, free, uncounted⟩ | ⟨policy, full, counted, first⟩
  · have free : e.shared.buffer.occupied ≠ e.shared.buffer.capacity := by
      simpa [Buffer.isFull] using free
    refine ⟨?_, ?_⟩
    · intro policy
      obtain ⟨released, events⟩ := flows.stall policy
      rw [released, all] at length content
      refine ⟨?_, released, ?_⟩
      · rw [content, List.take_of_length_le (by omega)]
        rfl
      · rw [events, uncounted, if_neg (by omega)]
        rfl
    · intro policy
      have released := flows.discard policy
      have received := balanced.received
      rw [all] at length content received
      -- what is in the buffer is less than a full one, and what was dropped is full ones
      have whole : (Script.deliverable script).length = e.shared.buffer.occupied +
          e.settings.capacity.toNat * e.shared.tally.exhaustionEvents := by omega
      have drops : (Script.deliverable script).length / e.settings.capacity.toNat =
          e.shared.tally.exhaustionEvents := by
        rw [whole, Nat.add_mul_div_left _ _ positive, Nat.div_eq_of_lt (by omega), Nat.zero_add]
      have last : (Script.deliverable script).length % e.settings.capacity.toNat =
          e.shared.buffer.occupied := by
        rw [whole, Nat.add_mul_mod_self_left, Nat.mod_eq_of_lt (by omega)]
      refine ⟨drops.symm, received, by rw [drops, released], ?_⟩
      rw [content, last, ← length, Nat.add_sub_cancel_left]
  · have full := Buffer.isFull_iff.1 full
    refine ⟨?_, ?_⟩
    · intro policy
      obtain ⟨released, events⟩ := flows.stall policy
      rw [released] at length content
      have whole : (receivedIn e.trace).length = e.settings.capacity.toNat := by omega
      have least := first.length_le
      refine ⟨?_, released, ?_⟩
      · rw [content, ← whole]
        exact List.prefix_iff_eq_take.1 first
      · rw [events, counted, if_pos (by omega)]
        rfl
    · intro discard
      cases policy.symm.trans discard

/-! ## The worker comes to rest -/

/-- What every step of the worker lowers. -/
def rank (e : Engine Script) : Nat :=
  32 * Transport.backlog e.transport + 2 * e.spacePermit.toNat + e.stage.ahead

/-- A read that ends takes from the backlog, or it had no room. -/
theorem rank_poll {s : Script} {room : Nat} {result : Except IoFailure Bytes}
    (isOpen : s.isOpen = true) (ended : (Transport.poll s room).result = some result) :
    32 * Transport.backlog (Transport.poll s room).transport +
        (Stage.completing room result).ahead <
      32 * Transport.backlog s + (Stage.reading room).ahead := by
  simp only [Stage.ahead]
  rcases Script.backlog_poll s room with fewer | ⟨same, closed | nowhere | pending⟩
  · split <;> omega
  · exact absurd (isOpen.symm.trans closed) (by decide)
  · rw [same, if_pos nowhere, if_pos nowhere]
    omega
  · cases ended.symm.trans pending

/-- Every turn of the worker takes from what is left of the script, or comes nearer to a park. -/
theorem Fed.rank_lt (fed : Fed script e) (step : WorkerStep e e') : e'.rank < e.rank := by
  have isOpen (staying : e.stage.isLeaving = false) (elsewhere : e.stage.handlesLoss = false) :=
    (fed.flows_of_staying staying).isOpen elsewhere
  have stuck (staying : e.stage.isLeaving = false) := (fed.flows_of_staying staying).stuck
  cases step
  -- A read that ends takes from the script; one that is pending is a place nearer to the park.
  case issueEnded room polled result place unpermitted poll ended =>
    subst poll
    have isOpen := isOpen (by rw [place]; rfl) (by rw [place]; rfl)
    have fewer : 32 * Transport.backlog (Transport.startRead e.transport room).transport + _ <
        32 * Transport.backlog e.transport + _ := rank_poll isOpen ended
    have later : (Stage.reading room).ahead < (Stage.issuing room).ahead := by
      simp only [Stage.ahead]
      split <;> omega
    simp only [rank, place]
    omega
  case issuePending room polled place unpermitted poll pending =>
    subst poll
    have le : Transport.backlog (Transport.startRead e.transport room).transport ≤
        Transport.backlog e.transport := Script.backlog_poll_le _ room
    simp only [rank, place, Stage.ahead]
    split <;> omega
  case readEnded room polled result place unpermitted poll ended =>
    subst poll
    have fewer := rank_poll (isOpen (by rw [place]; rfl) (by rw [place]; rfl)) ended
    simp only [rank, place]
    omega
  case shut shut _ =>
    subst shut
    have place := ‹e.stage = _›
    simp [rank, place]
  case shutFailed shut _ =>
    subst shut
    have place := ‹e.stage = _›
    simp [rank, place]
  all_goals
    have place := ‹e.stage = _›
    simp_all [rank, Stage.isLeaving]
  all_goals split <;> omega

theorem Fed.run {schedule : List Label} (fed : Fed script e)
    (alone : ∀ label ∈ schedule, label.byWorker = true) : Fed script (e.run schedule) :=
  run_invariant (fun byWorker fed stepped =>
    fed.turn _ stepped (fed.observed.worker (.of_byWorker byWorker stepped))) alone fed

/-- Nobody has asked the worker to stop, and the consumer neither does so nor panics. -/
structure Unasked (e : Engine Script) : Prop where
  running : e.shared.phase = .running
  unasked : e.stopRequested = false
  unpermitted : e.shutdownPermit = false
  staying : e.stage.isLeaving = false
  calm : ∀ registration, e.shared.registration = some registration → registration.consumer.Calm

theorem Unasked.staying_worker (unasked : Unasked e) (step : WorkerStep e e') :
    e'.stage.isLeaving = false :=
  step.stays_in_loop unasked.running unasked.unasked unasked.unpermitted unasked.staying
    unasked.calm

theorem Unasked.worker (unasked : Unasked e) (step : WorkerStep e e') : Unasked e' := by
  have staying := unasked.staying_worker step
  rcases step.leaves_or_keeps with leaving | ⟨-, phase, asked, permit⟩
  · exact absurd (leaving.symm.trans staying) (by decide)
  · refine ⟨phase.trans unasked.running, asked.trans unasked.unasked,
      permit.trans unasked.unpermitted, staying, ?_⟩
    intro registration' here
    obtain ⟨registration, before, same⟩ := step.consumer here
    exact same ▸ unasked.calm registration before

/-- Left alone, the worker comes to rest, and is not gone. -/
theorem Fed.comes_to_rest (fed : Fed script e) (unasked : Unasked e) :
    ∃ schedule : List Label, (∀ label ∈ schedule, label.byWorker = true) ∧
      Rests (e.run schedule) ∧ (e.run schedule).stage ≠ .exited := by
  obtain ⟨schedule, alone, rests, -, unasked⟩ :=
    rests_of_rank (motive := fun e => Fed script e ∧ Unasked e) rank
      (fun ⟨fed, unasked⟩ alone stepped => by
        have step := WorkerStep.of_byWorker alone stepped
        exact ⟨⟨fed.turn _ stepped (fed.observed.worker step), unasked.worker step⟩,
          fed.rank_lt step⟩)
      ⟨fed, unasked⟩
  refine ⟨schedule, alone, rests, fun gone => ?_⟩
  have staying := unasked.staying
  rw [gone] at staying
  cases staying

/-- Whatever the chunks are and wherever the other steps stand: an engine over a script that
releases nothing comes to rest, and where it rests both policies have made of the data before the
first disconnect what they make of them in one piece. -/
theorem result_of_script (fed : Fed script e) :
    (Rests e → e.stage ≠ .exited → Result e (Script.deliverable script)) ∧
    (Unasked e → ∃ schedule : List Label, (∀ label ∈ schedule, label.byWorker = true) ∧
      Rests (e.run schedule) ∧ Result (e.run schedule) (Script.deliverable script)) := by
  refine ⟨fed.result, ?_⟩
  intro unasked
  obtain ⟨schedule, alone, rests, alive⟩ := fed.comes_to_rest unasked
  exact ⟨schedule, alone, rests, (fed.run alone).result rests alive⟩

/-- Five bytes in two chunks for a buffer of two, a read of nothing between them, an empty chunk and
a disconnect after them. -/
theorem result_of_script_of_split_data :
    ∃ start rested : Engine Script,
      spawn { capacity := 2, policy := .discard }
        { steps := [.data [1], .zero, .data [2, 3, 4, 5], .data [], .disconnect, .data [6]] }
        (some .observe) = .ok start ∧
      rested = start.run (List.replicate 34 .worker) ∧ rested.stage.isPark = true ∧
      rested.shared.buffer.filled = [5] ∧ Result rested [1, 2, 3, 4, 5] ∧
      ∃ schedule : List Label, (∀ label ∈ schedule, label.byWorker = true) ∧
        Rests (start.run schedule) ∧ Result (start.run schedule) [1, 2, 3, 4, 5] := by
  have fed : Fed _ _ := .started { capacity := 2, policy := .discard }
    { steps := [.data [1], .zero, .data [2, 3, 4, 5], .data [], .disconnect, .data [6]] }
    (some .observe) rfl rfl rfl ?_
  have alone : ∀ label ∈ List.replicate 34 Label.worker, label.byWorker = true := by
    intro label among
    rw [List.eq_of_mem_replicate among]
    rfl
  have rested := (result_of_script (fed.run alone)).1 ⟨rfl, rfl⟩ ?_
  · refine ⟨_, _, rfl, rfl, rfl, rfl, rested, (result_of_script fed).2 ⟨rfl, rfl, rfl, rfl, ?_⟩⟩
    rintro _ ⟨⟩
    exact Consumer.calm_observe
  · exact fun gone => nomatch (show Stage.suspended = .exited from gone)
  · refine ⟨?_, fun _ among => nomatch among⟩
    rintro _ ⟨⟩
    exact Consumer.observes_observe

end Engine

end ByteTap
