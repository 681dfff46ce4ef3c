import ByteTap.Proofs.Monitor.Session
import ByteTap.Proofs.Outcome
import Mathlib.Data.List.DropRight

/-!
# The report of a run

The watch ends, and the monitor closes the engine while the worker may still be in the middle of a
read.  Once the call to close it has returned, the monitor collects the faults that were reported,
copies the buffer, and reads the counters, one after the other.  The worker is gone by then, so
nothing changes between these looks (`Attended.settled`).

* `Reports`: the reports that a run can come to, in every order of turns and whatever arrives;
* `reports_of_run`: what `run` answers is one of them;
* `report_consistent`: the numbers of a report agree with each other and with what was read.
-/

namespace ByteTap.Monitor

open Engine

variable {s : Surroundings} {network : Network} {begun : Moment} {c : Configuration} {line : Line}
  {deadline : Option Moment} {e e' : Engine Line} {arrives : Line → Line → Prop}

/-- What goes on by itself for a while. -/
abbrev Backgrounds : Engine Line → Engine Line → Prop :=
  Relation.ReflTransGen (Background Line.Changed)

/-- A run that begins at that moment can come to the engine and the report: the monitor opens its
source and watches the engine until there is a reason to stop, closes it, and looks at it three
times after the call to close it has returned. -/
inductive Reports (s : Surroundings) (network : Network) (begun : Moment) (c : Configuration) :
    Engine Line → Report → Prop
  | intro {endpoint : Endpoint} {line : Line} {deadline : Option Moment} {reason : StopReason}
      {watched returned copied e : Engine Line} (elapsedMs : Nat)
      (resolved : c.endpoint.resolve = .ok endpoint)
      (opened : openEndpoint s network endpoint = .ok line)
      (due : Watch.deadline c.monitor begun = .ok deadline)
      (stops : Stops c line deadline reason watched)
      (closing : Backgrounds (watched.ask .close) returned)
      (closed : returned.lastAnswer = some .done)
      (copying : Backgrounds returned copied) (counting : Backgrounds copied e) :
      Reports s network begun c e
        { report endpoint reason elapsedMs e with
          errorsReported := returned.faults.length
          bufferedBytes := copied.shared.buffer.occupied
          tailHex := (tail copied.shared.buffer.filled).hex }

/-! ## What was opened -/

/-- The line of the monitor is what the network gave, or an opened path. -/
theorem openEndpoint_eq_ok {endpoint : Endpoint}
    (opened : openEndpoint s network endpoint = .ok line) :
    (∃ address stream, network address = .ok stream ∧ line = .pipe stream) ∨
      ∃ label content, line = .file { label, source := some content } := by
  cases endpoint with
  | tcp written =>
    obtain ⟨address, -, connects⟩ := bind_eq_ok.1 opened
    obtain ⟨stream, connected, made⟩ := bind_eq_ok.1 connects
    cases made
    exact .inl ⟨address, stream, connected, rfl⟩
  | device path =>
    obtain ⟨content, -, made⟩ := bind_eq_ok.1 opened
    cases made
    exact .inr ⟨_, content, rfl⟩

theorem isStream_of_opened {endpoint : Endpoint}
    (opened : openEndpoint s network endpoint = .ok line) : line.isStream = true := by
  rcases openEndpoint_eq_ok opened with ⟨address, stream, -, rfl⟩ | ⟨label, content, rfl⟩ <;> rfl

theorem isOpen_of_opened {endpoint : Endpoint}
    (connected : ∀ address stream, network address = .ok stream → stream.isOpen = true)
    (opened : openEndpoint s network endpoint = .ok line) : Transport.isOpen line = true := by
  rcases openEndpoint_eq_ok opened with ⟨address, stream, given, rfl⟩ | ⟨label, content, rfl⟩
  · exact connected address stream given
  · rfl

/-! ## Why the watch ends -/

theorem Stops.attended {reason : StopReason} (stops : Stops c line deadline reason e) :
    Attended c line e := by
  cases stops with
  | elapsed now watching move => exact watching.attended
  | told watching returned ends => exact watching.attended

theorem duration_of_deadline {moment : Moment}
    (due : Watch.deadline c.monitor begun = .ok (some moment)) :
    c.monitor.durationSecs ≠ none := by
  intro unlimited
  simp [Watch.deadline, Watch.durationNanos, unlimited] at due

/-- What each reason to stop says of the engine at which the watch ends. -/
theorem Stops.grounds {reason : StopReason} (stream : line.isStream = true)
    (isOpen : Transport.isOpen line = true)
    (due : Watch.deadline c.monitor begun = .ok deadline)
    (stops : Stops c line deadline reason e) :
    reason ≠ .engineStopped ∧
      (reason = .durationElapsed → c.monitor.durationSecs ≠ none) ∧
      (reason = .disconnected → Lost e) := by
  cases stops with
  | elapsed now watching move =>
    cases deadline with
    | none => cases move
    | some moment =>
      unfold Watch.move at move
      dsimp only at move
      split at move
      · cases move
        exact ⟨nofun, fun _ => duration_of_deadline due, nofun⟩
      · cases move
  | @told _ outcome _ watching returned ends =>
    obtain ⟨i, place⟩ := getElem?_of_lastAnswer returned
    cases outcome with
    | dataReceived => cases ends
    | timedOut => cases ends
    | disconnected =>
      cases ends
      refine ⟨nofun, nofun, fun _ => ?_⟩
      exact (watching.attended.lossWatched isOpen).said i _ place rfl
    | shutdown => cases (watching.undisturbed stream).waits i _ place

/-! ## After the engine was closed -/

theorem Attended.backgrounds (attended : Attended c line e) (steps : Backgrounds e e') :
    Attended c line e' := by
  induction steps with
  | refl => exact attended
  | tail _ step ih => exact ih.background step

theorem Backgrounds.steps (steps : Backgrounds e e') : Steps Line.Changed e e' := by
  induction steps with
  | refl => exact .refl
  | tail _ step ih => exact ih.tail step.step

/-- Nothing changes at the engine that the monitor looks at. -/
structure Settled (e e' : Engine Line) : Prop where
  shared : e'.shared = e.shared
  faults : e'.faults = e.faults
  gone : e'.stage = .exited

/-- Once the worker is gone, nothing of what the report shows changes any more. -/
theorem Attended.settled (attended : Attended c line e) (gone : e.stage = .exited)
    (steps : Backgrounds e e') : Settled e e' := by
  induction steps with
  | refl => exact ⟨rfl, rfl, gone⟩
  | @tail middle last before step ih =>
    have between := attended.backgrounds before
    have isOver : middle.stage.isOver = true := by rw [ih.gone]; rfl
    have closed : middle.shared.phase = .closed := between.reachable.placed.closed_iff.2 isOver
    have same : last.shared = middle.shared := by
      rcases step.step.cases with worker | call | ⟨transport, -, rfl⟩
      · rw [worker.of_over isOver]
      · obtain ⟨phase, shared⟩ := call.shared_of_byMonitor between.callsByMonitor
        have forward := call.phase_le
        rw [shared, closed] at forward
        -- a call can only move the phase on, and from here it cannot
        obtain rfl : phase = .closed := Phase.eq_closed_of_le forward
        rw [shared, ← closed]
      · rfl
    exact ⟨same.trans ih.shared, (faults_eq_of_filter (step.step.quiet isOver).history).trans
      ih.faults, step.step.exited ih.gone⟩

/-! ## The numbers of a report -/

/-- The numbers of the report agree with each other, with how the monitor was set up, and with what
the reads of the engine returned. -/
structure Consistent (c : Configuration) (e : Engine Line) (r : Report) : Prop where
  closed : r.finalPhase = .closed
  conserved : r.tally.bytesReceived = r.tally.bytesReleased + r.bufferedBytes
  /-- Every byte that a read returned was received. -/
  delivered : receivedIn e.trace = returnedIn e.trace
  received : r.tally.bytesReceived = (receivedIn e.trace).length
  buffered : e.shared.buffer.filled = (receivedIn e.trace).rtake r.bufferedBytes
  tail : r.tailHex = Bytes.hex ((receivedIn e.trace).rtake (min tailLength r.bufferedBytes))
  errors : ∃ losses, losses ≤ 1 ∧ losses = e.faults.countP Fault.isLoss ∧
    r.errorsReported = r.tally.readErrors + r.tally.exhaustionEvents + losses ∧
    (r.stopReason = .disconnected → losses = 1)
  /-- Nobody but the monitor itself stops the engine. -/
  unstopped : r.stopReason ≠ .engineStopped
  timed : r.stopReason = .durationElapsed → c.monitor.durationSecs ≠ none
  drained : c.monitor.drain = true → r.bufferedBytes = 0 ∧ r.tally.exhaustionEvents = 0 ∧
    r.tally.callbacksInvoked = r.tally.readsCompleted
  stalled : c.monitor.drain = false → c.engine.policy = .stall → r.tally.bytesReleased = 0
  discarded : c.monitor.drain = false → c.engine.policy = .discard →
    r.tally.bytesReleased = c.engine.capacity.toNat * r.tally.exhaustionEvents

/-- The last bytes of the last bytes are the last bytes. -/
theorem tail_rtake {bytes : Bytes} {n : Nat} (le : n ≤ bytes.length) :
    tail (bytes.rtake n) = bytes.rtake (min tailLength n) := by
  have least : bytes.length - n + (n - tailLength) = bytes.length - min tailLength n := by omega
  unfold tail List.rtake
  rw [List.drop_drop, List.length_drop, Nat.sub_sub_self le, least]

/-- What is left in the buffer is what was received last. -/
theorem filled_eq_rtake (balanced : Balanced e) :
    e.shared.buffer.filled = (receivedIn e.trace).rtake e.shared.buffer.occupied := by
  have whole := balanced.occupied
  rw [balanced.content, List.rtake]
  congr 1
  omega

/-- What was reported are failed reads, full buffers and the loss of the line. -/
theorem Attended.errors (attended : Attended c line e) (stream : line.isStream = true)
    (gone : e.stage = .exited) :
    e.faults.length = e.shared.tally.readErrors + e.shared.tally.exhaustionEvents +
      e.faults.countP Fault.isLoss := by
  obtain ⟨failures, exhaustions⟩ := attended.reachable.recorded
  rw [gone] at failures exhaustions
  have ordinary := Fault.length_of_ordinary (attended.untroubled stream).faults
  unfold faults
  rw [List.length_reverse, List.countP_reverse, failures, exhaustions]
  exact ordinary

/-- Each equation of the report, from what every attended engine keeps. -/
theorem Attended.consistent {endpoint : Endpoint} {reason : StopReason} {elapsedMs : Nat}
    (attended : Attended c line e) (stream : line.isStream = true) (gone : e.stage = .exited)
    (unstopped : reason ≠ .engineStopped)
    (timed : reason = .durationElapsed → c.monitor.durationSecs ≠ none)
    (lost : reason = .disconnected → Lost e) :
    Consistent c e (report endpoint reason elapsedMs e) := by
  have reachable := attended.reachable
  have settings := (attended.untroubled stream).settings
  obtain ⟨-, balanced, returned, -⟩ := reachable.streamKept Line.bounded
  have filled := filled_eq_rtake balanced
  have conserved : e.shared.buffer.occupied + e.shared.tally.bytesReleased =
      e.shared.tally.bytesReceived := reachable.conserved
  refine ⟨?_, ?_, ?_, balanced.received, filled, ?_, ?_, unstopped, timed, ?_, ?_, ?_⟩
  · exact reachable.placed.closed_iff.2 (by rw [gone]; rfl)
  · show e.shared.tally.bytesReceived = e.shared.tally.bytesReleased + e.shared.buffer.occupied
    omega
  · rw [returned, gone]
    exact (List.append_nil _).symm
  · have le : e.shared.buffer.occupied ≤ (receivedIn e.trace).length := by
      rw [← balanced.received]
      omega
    show (Monitor.tail e.shared.buffer.filled).hex = _
    rw [filled, tail_rtake le]
    rfl
  · refine ⟨_, ?_, rfl, attended.errors stream gone, fun reason => (lost reason).countP_faults gone⟩
    rw [faults, List.countP_reverse, ← reports, countP_isLoss_reports]
    exact reachable.reported.lossesIn_le_one
  · intro drain
    have drained := attended.drained stream drain
    exact ⟨drained.empty, drained.exhaustions, drained.called⟩
  · intro drain policy
    exact (attended.undrained stream drain).stall (settings ▸ policy)
  · intro drain policy
    have discarded := (attended.undrained stream drain).discard (settings ▸ policy)
    rwa [settings] at discarded

theorem Reports.consistent {r : Report}
    (connected : ∀ address stream, network address = .ok stream → stream.isOpen = true)
    (reports : Reports s network begun c e r) : Consistent c e r := by
  cases reports with
  | @intro endpoint line deadline reason watched returned copied _ elapsedMs resolved opened due
      stops closing closed copying counting =>
    have stream := isStream_of_opened opened
    obtain ⟨unstopped, timed, lost⟩ := stops.grounds stream (isOpen_of_opened connected opened) due
    have asked : Attended c line (watched.ask .close) := stops.attended.asked rfl
    obtain ⟨i, place⟩ := getElem?_of_lastAnswer closed
    have ended := asked.backgrounds closing
    have settled := ended.settled (ended.gone_of_done place) copying
    have settled' := (ended.backgrounds copying).settled settled.gone counting
    -- the three looks show the same
    have same : report endpoint reason elapsedMs e =
        { report endpoint reason elapsedMs e with
          errorsReported := returned.faults.length
          bufferedBytes := copied.shared.buffer.occupied
          tailHex := (tail copied.shared.buffer.filled).hex } := by
      simp only [report, settled'.shared, settled'.faults, settled.faults]
    have onward : Backgrounds (watched.ask .close) e := (closing.trans copying).trans counting
    have steps : Steps Line.Changed watched e :=
      .head (.turn (.enter .close) rfl) (Backgrounds.steps onward)
    rw [← same]
    exact (asked.backgrounds onward).consistent stream settled'.gone unstopped timed
      fun reason => ((lost reason).ever_after (fun _ _ => Line.Changed.isOpen) steps).lost

/-! ## The run of a patient monitor -/

/-- The next turn in order is one that goes on in the background. -/
theorem background_of_advance (advanced : e.advance = some e') : Background arrives e e' := by
  unfold advance at advanced
  cases called : e.stepCalls with
  | some next =>
    rw [called] at advanced
    cases advanced
    obtain ⟨i, -, stepped⟩ := List.exists_of_findSome?_eq_some called
    exact .turn (.call i) rfl stepped
  | none =>
    cases worked : e.next .worker with
    | some next =>
      rw [called, worked] at advanced
      cases advanced
      exact .turn .worker rfl worked
    | none =>
      rw [called, worked] at advanced
      exact .turn .timer rfl advanced

theorem backgrounds_advanceFor (n : Nat) (e : Engine Line) : Backgrounds e (advanceFor n e) := by
  induction n generalizing e with
  | zero => exact .refl
  | succ n ih =>
    unfold advanceFor
    split
    · next e' advanced => exact .head (background_of_advance advanced) (ih e')
    · exact .refl

theorem backgrounds_settle (e : Engine Line) : Backgrounds e e.settle :=
  backgrounds_advanceFor _ e

theorem backgrounds_enter (e : Engine Line) (request : Request) :
    Backgrounds (e.ask request) (e.enter request) :=
  backgrounds_settle (e.ask request)

theorem backgrounds_expireCalls (e : Engine Line) (i : Nat) :
    Backgrounds e (e.expireCalls [i]) := by
  have expires : Backgrounds e (e.run [.expire i]) := by
    cases stepped : e.next (.expire i) with
    | none =>
      have stays : e.run [.expire i] = e := by simp [Engine.run, stepped]
      rw [stays]
    | some e' =>
      have moves : e.run [.expire i] = e' := by simp [Engine.run, stepped]
      rw [moves]
      exact .single (.turn (.expire i) rfl stepped)
  exact expires.trans (backgrounds_settle _)

theorem Watching.backgrounds {turn : Turn} (watching : Watching c line deadline turn e)
    (steps : Backgrounds e e') : Watching c line deadline turn e' := by
  induction steps with
  | refl => exact watching
  | tail _ step ih => exact ih.step (.background step)

/-- There is a moment at which the watch goes on. -/
theorem exists_wait (o : Options) (deadline : Option Moment) :
    ∃ now nanos, Watch.move o deadline now = .wait nanos := by
  cases deadline with
  | none => exact ⟨⟨0⟩, _, rfl⟩
  | some moment =>
    have early : ¬ moment.nanos ≤ moment.nanos - 1 := by omega
    exact ⟨⟨moment.nanos - 1⟩, _, if_neg early⟩

theorem backgrounds_perform {request : Request} {answer : Answer}
    (performed : e.perform request = (e', some answer)) :
    Backgrounds (e.ask request) e' ∧ e'.lastAnswer = some answer := by
  cases congrArg Prod.fst performed
  exact ⟨backgrounds_enter e request, congrArg Prod.snd performed⟩

/-- A patient wait is one call of the watch, and all that goes on until it returns. -/
theorem Watching.waitIdle {answer : Answer} (watching : Watching c line deadline .looking e)
    (waited : e.waitIdle = (e', some answer)) :
    Watching c line deadline .waiting e' ∧ e'.lastAnswer = some answer := by
  obtain ⟨now, nanos, move⟩ := exists_wait c.monitor deadline
  have waiting := (watching.step (.wait now true move)).backgrounds (backgrounds_enter e _)
  cases congrArg Prod.fst waited
  exact ⟨waiting.backgrounds (backgrounds_expireCalls _ _), congrArg Prod.snd waited⟩

/-- A watch that ends at an engine at rest is a watch. -/
theorem Watching.stops_of_atRest {outcome : WaitOutcome} {reason : StopReason}
    (watching : Watching c line deadline .waiting e)
    (returned : e.lastAnswer = some (.outcome outcome))
    (ends : Watch.atRest deadline outcome = some reason) : Stops c line deadline reason e := by
  unfold Watch.atRest at ends
  split at ends
  · next told =>
    cases ends
    exact .told watching returned told
  · next onward =>
    obtain ⟨moment, rfl, rfl⟩ := Option.map_eq_some_iff.1 ends
    refine .elapsed moment (watching.step (.again returned onward)) ?_
    exact if_pos (Int.le_refl _)

/-- What `run` answers is a report that a run can come to. -/
theorem reports_of_run {r : Report} (ran : run s network begun c = .ok (some r)) :
    ∃ e, Reports s network begun c e r := by
  obtain ⟨endpoint, resolved, ran⟩ := bind_eq_ok.1 ran
  obtain ⟨line, opened, ran⟩ := bind_eq_ok.1 ran
  obtain ⟨e, started, ran⟩ := bind_eq_ok.1 ran
  obtain ⟨deadline, due, ran⟩ := bind_eq_ok.1 ran
  have resolved := mapError_eq_ok.1 resolved
  have opened := mapError_eq_ok.1 opened
  have due := mapError_eq_ok.1 due
  split at ran
  · next waited outcome waits =>
    split at ran
    · next reason closed ends closes =>
      cases ran
      have watching : Watching c line deadline .looking e.settle :=
        (Watching.started started).backgrounds (backgrounds_settle e)
      obtain ⟨waiting, returned⟩ := watching.waitIdle waits
      obtain ⟨closing, done⟩ := backgrounds_perform closes
      exact ⟨closed, .intro _ resolved opened due (waiting.stops_of_atRest returned ends) closing
        done .refl .refl⟩
    · cases ran
  · cases ran

/-- Whatever is sent, in whatever order the threads take their turns, and whenever the monitor looks
at the clock: the report of a run is consistent, and so is what `run` answers.  A connection is open
when it is made. -/
theorem report_consistent
    (connected : ∀ address stream, network address = .ok stream → stream.isOpen = true) :
    (∀ e r, Reports s network begun c e r → Consistent c e r) ∧
      ∀ r, run s network begun c = .ok (some r) → ∃ e, Reports s network begun c e r :=
  ⟨fun _ _ reports => reports.consistent connected, fun _ => reports_of_run⟩

/-- Five bytes and a hang-up for a buffer of four that is dropped when it is full: what is reported
is the full buffer, the end of the stream, and the loss. -/
theorem report_consistent_of_hang_up :
    ∃ (c : Configuration) (network : Network) (r : Report) (e : Engine Line),
      c = { endpoint := { tcp := some "10.0.0.1:5017" }
            engine := { capacity := 4, policy := .discard } } ∧
      network = (fun _ => .ok
        { label := "tcp://10.0.0.1:5017"
          source := some { capacity := 8, queued := [1, 2, 3, 4, 5], writerPresent := false } }) ∧
      run { files := .empty } network ⟨0⟩ c = .ok (some r) ∧
      Reports { files := .empty } network ⟨0⟩ c e r ∧ Consistent c e r ∧
      r.stopReason = .disconnected ∧ r.errorsReported = 3 ∧ r.tailHex = "05" := by
  have connected (address : Address) (stream : Stream Pipe)
      (given : (fun _ => .ok
        { label := "tcp://10.0.0.1:5017"
          source := some { capacity := 8, queued := [1, 2, 3, 4, 5], writerPresent := false } } :
        Network) address = .ok stream) : stream.isOpen = true := by
    cases given
    rfl
  obtain ⟨consistent, reports⟩ := @report_consistent { files := .empty } _ ⟨0⟩
    { endpoint := { tcp := some "10.0.0.1:5017" }
      engine := { capacity := 4, policy := .discard } } connected
  obtain ⟨e, reported⟩ := reports _ rfl
  exact ⟨_, _, _, e, rfl, rfl, rfl, reported, consistent e _ reported, rfl, rfl, rfl⟩

end ByteTap.Monitor
