import ByteTap.Proofs.Engine.Reachable
import ByteTap.Proofs.Transport.Script

/-!
# The end of an engine

An engine goes from running over stopping to closed and never back.  The worker leaves its loop in
several ways, but gives up the transport in one of two: it shuts it once, after its last read, or
the consumer panicked and the transport is not shut at all (`Departure`).  What the history says of
this a transport can count for itself (`Steps.shuttings`).  Once the engine is closed only the
callers still move, and a call to close it changes nothing (`lifecycle_and_close`).
-/

namespace ByteTap

/-! ## The order of life -/

namespace Phase

theorem le_refl (phase : Phase) : phase ≤ phase := Nat.le_refl phase.rank

theorem le_trans {first second third : Phase} (le : first ≤ second) (le' : second ≤ third) :
    first ≤ third :=
  Nat.le_trans (show first.rank ≤ second.rank from le) le'

theorem le_closed (phase : Phase) : phase ≤ closed := by cases phase <;> decide

theorem running_le (phase : Phase) : running ≤ phase := Nat.zero_le phase.rank

theorem le_heed (asked : Bool) (phase : Phase) : phase ≤ phase.heed asked := by
  cases asked <;> cases phase <;> decide

theorem eq_running_of_le {phase : Phase} (le : phase ≤ running) : phase = running := by
  cases phase <;> first | rfl | exact absurd le (by decide)

theorem eq_closed_of_le {phase : Phase} (le : closed ≤ phase) : phase = closed := by
  cases phase <;> first | rfl | exact absurd le (by decide)

@[simp] theorem heed_eq_closed {asked : Bool} {phase : Phase} :
    phase.heed asked = closed ↔ phase = closed := by
  cases asked <;> cases phase <;> decide

end Phase

/-! ## How the transport is given up -/

/-- What an event means for the transport. -/
inductive Milestone where
  /-- A read was issued, has ended or was dropped. -/
  | read
  /-- The transport was shut. -/
  | shut
  /-- The consumer panicked. -/
  | panic
  deriving DecidableEq, Repr

@[simp] def Event.milestone? : Event → Option Milestone
  | issued _ | ended _ | abandoned => some .read
  | called _ _ reply => if reply.panic.isSome then some .panic else none
  | shut _ => some .shut
  | _ => none

/-- The milestones of a history, newest first. -/
def milestones (history : List Event) : List Milestone := history.filterMap Event.milestone?

@[simp] theorem milestones_cons (event : Event) (older : List Event) :
    milestones (event :: older) = event.milestone?.toList ++ milestones older := by
  cases meaning : event.milestone? <;> simp only [milestones, List.filterMap_cons, meaning] <;> rfl

@[simp] theorem milestones_noted (notes : List String) (older : List Event) :
    milestones ((notes.map Event.noted).reverse ++ older) = milestones older := by
  have nothing : milestones (notes.map Event.noted).reverse = [] := by
    simp [milestones]
  rw [milestones, List.filterMap_append, ← milestones, nothing]
  rfl

@[simp] theorem milestones_asked (asked : Bool) (older : List Event) :
    milestones ((if asked then [.stopAsked] else []) ++ older) = milestones older := by
  cases asked <;> rfl

/-- The newest milestone is the given one, and all before it were reads. -/
def AfterReads (last : Milestone) (history : List Milestone) : Prop :=
  ∃ reads, history = last :: List.replicate reads .read

/-- How often the transport was shut. -/
def shuttings (history : List Event) : Nat := (milestones history).count .shut

/-- The milestones that the place of the worker allows: nothing but reads in the loop and on the
way out of it, then either the shut or the panic, and nothing after that. -/
def Departure (stage : Stage) (history : List Milestone) : Prop :=
  match stage with
  | .reportingClose _ | .markingShut => AfterReads .shut history
  | .unwinding _ => AfterReads .panic history
  | .finishing | .signallingEnd | .exited => AfterReads .shut history ∨ AfterReads .panic history
  | _ => ∃ reads, history = List.replicate reads .read

/-- The engine is closed. -/
def Stage.isOver : Stage → Bool
  | signallingEnd | exited => true
  | _ => false

/-- A closing call that came after the end only waits for the worker, and returns. -/
def Call.isLateCloser : Call → Bool
  | closing | joining | returned .done => true
  | _ => false

namespace Engine

variable {τ : Type} [Transport τ] {arrives : τ → τ → Prop} {e e' : Engine τ}

/-! ## The phase moves forward -/

omit [Transport τ] in
theorem CallStep.phase_le (step : CallStep e e') : e.shared.phase ≤ e'.shared.phase := by
  cases step
  case requestStop place running =>
    rw [running]
    exact Phase.running_le _
  all_goals exact Phase.le_refl _

/-- The worker heeds a request to stop and declares the end, and takes nothing back. -/
theorem WorkerStep.phase_le (step : WorkerStep e e') : e.shared.phase ≤ e'.shared.phase := by
  cases step
  case armAsked place running asked =>
    rw [running]
    exact Phase.running_le _
  case completeFailed => exact Phase.le_heed _ _
  case completeEmpty => exact Phase.le_heed _ _
  case completeUnheard => exact Phase.le_heed _ _
  case completeHeard => exact Phase.le_heed _ _
  case finish => exact Phase.le_closed _
  all_goals exact Phase.le_refl _

theorem Step.phase_le (step : Step arrives e e') : e.shared.phase ≤ e'.shared.phase := by
  rcases step.cases with step | step | ⟨transport, -, rfl⟩
  · exact step.phase_le
  · exact step.phase_le
  · exact Phase.le_refl _

theorem Steps.phase_le (steps : Steps arrives e e') : e.shared.phase ≤ e'.shared.phase := by
  induction steps with
  | refl => exact Phase.le_refl _
  | tail _ step ih => exact Phase.le_trans ih step.phase_le

/-! ## What the history says of the transport -/

/-- The worker shuts the transport in the steps that the history tells of, and in no other. -/
theorem WorkerStep.shuttings {closes : τ → Nat} (counts : Transport.CountsShuts arrives closes)
    (step : WorkerStep e e') :
    closes e'.transport + shuttings e.trace = closes e.transport + shuttings e'.trace := by
  have ofPoll (transport : τ) (room : Nat) :
      closes (Transport.startRead transport room).transport = closes transport :=
    (counts.poll _ room).trans (counts.issue transport room)
  unfold ByteTap.shuttings
  cases step
  -- The reads leave the count as it is.
  case issueEnded poll _ =>
    subst poll
    simp [ofPoll]
  case issuePending poll _ =>
    subst poll
    simp [ofPoll]
  case readEnded poll _ =>
    subst poll
    simp [counts.poll]
  case readCut => simp [counts.abandon]
  case unwind => simp [counts.release]
  -- The worker shuts the transport, whether it succeeds or not.
  case shut shut _ =>
    subst shut
    simp [counts.shut]
    omega
  case shutFailed shut _ =>
    subst shut
    simp [counts.shut]
    omega
  case completeHeard returned => simp [returned]
  case completePanicked panicked => simp [panicked]
  all_goals simp

/-- Nobody else shuts the transport. -/
theorem Step.shuttings {closes : τ → Nat} (counts : Transport.CountsShuts arrives closes)
    (step : Step arrives e e') :
    closes e'.transport + shuttings e.trace = closes e.transport + shuttings e'.trace := by
  rcases step.cases with worker | call | ⟨transport, arrived, rfl⟩
  · exact worker.shuttings counts
  · cases call <;> rfl
  · rw [counts.arrival e.transport transport arrived]

/-- In every run the transport was shut as often as the history tells. -/
theorem Steps.shuttings {closes : τ → Nat} (counts : Transport.CountsShuts arrives closes)
    (steps : Steps arrives e e') :
    closes e'.transport + shuttings e.trace = closes e.transport + shuttings e'.trace := by
  induction steps with
  | refl => rfl
  | tail before step ih =>
    have one := step.shuttings counts
    omega

/-! ## The worker's place tells the state of the engine -/

/-- The worker adds the milestones that its place allows. -/
theorem WorkerStep.departure (step : WorkerStep e e')
    (departure : Departure e.stage (milestones e.trace)) :
    Departure e'.stage (milestones e'.trace) := by
  cases step
  -- In the loop every milestone is a read.
  case issueEnded place _ _ _ =>
    rw [place] at departure
    obtain ⟨reads, history⟩ := departure
    exact ⟨reads + 2, by simp [history, List.replicate_succ]⟩
  case issuePending place _ _ _ =>
    rw [place] at departure
    obtain ⟨reads, history⟩ := departure
    exact ⟨reads + 1, by simp [history, List.replicate_succ]⟩
  case readCut place _ =>
    rw [place] at departure
    obtain ⟨reads, history⟩ := departure
    exact ⟨reads + 1, by simp [history, List.replicate_succ]⟩
  case readEnded place _ _ _ =>
    rw [place] at departure
    obtain ⟨reads, history⟩ := departure
    exact ⟨reads + 1, by simp [history, List.replicate_succ]⟩
  -- A call of the consumer is a milestone only if it panics.
  case completeHeard place _ _ _ returned =>
    rw [place] at departure
    simpa [Departure, returned] using departure
  case completePanicked place _ _ _ panicked =>
    rw [place] at departure
    obtain ⟨reads, history⟩ := departure
    exact ⟨reads, by simp [panicked, history]⟩
  -- The ways out add the last milestone, and meet again before the end is declared.
  case shut place _ _ =>
    rw [place] at departure
    obtain ⟨reads, history⟩ := departure
    exact ⟨reads, by simp [history]⟩
  case shutFailed place _ _ =>
    rw [place] at departure
    obtain ⟨reads, history⟩ := departure
    exact ⟨reads, by simp [history]⟩
  case unwind place =>
    rw [place] at departure
    exact .inr (by simpa [Departure] using departure)
  case markShut place =>
    rw [place] at departure
    exact .inl (by simpa [Departure] using departure)
  all_goals
    have place := ‹e.stage = _›
    rw [place] at departure
    simpa [Departure] using departure

omit [Transport τ] in
theorem CallStep.departure (step : CallStep e e')
    (departure : Departure e.stage (milestones e.trace)) :
    Departure e'.stage (milestones e'.trace) := by
  cases step <;> simpa using departure

/-- What the place of the worker tells about the engine. -/
structure Placed (e : Engine τ) : Prop where
  closed_iff : e.shared.phase = .closed ↔ e.stage.isOver = true
  shut : e.shared.phase = .closed → e.shared.isOpen = false
  departure : Departure e.stage (milestones e.trace)

omit [Transport τ] in
/-- A call leaves the worker in its place, and closes nothing by itself. -/
theorem Placed.call (placed : Placed e) (step : CallStep e e') : Placed e' := by
  obtain ⟨closed_iff, shut, departure⟩ := placed
  refine ⟨?_, ?_, step.departure departure⟩
  · cases step
    case requestStop place running => simpa [running] using closed_iff
    all_goals exact closed_iff
  · cases step
    case requestStop => rintro ⟨⟩
    all_goals exact shut

/-- The worker closes the engine in its last turns, and the transport with it. -/
theorem Placed.worker (placed : Placed e) (step : WorkerStep e e') : Placed e' := by
  obtain ⟨closed_iff, shut, departure⟩ := placed
  refine ⟨?_, ?_, step.departure departure⟩
  · cases step <;> simp_all [Stage.isOver]
  · cases step <;> simp_all [Stage.isOver]

theorem Placed.started {settings : Settings} {transport : τ} {consumer : Option Consumer}
    (spawned : spawn settings transport consumer = .ok e) : Placed e := by
  obtain ⟨-, -, registration, registrations, rfl⟩ := spawn_eq_ok spawned
  exact ⟨by simp [Stage.isOver], by simp, 0, rfl⟩

theorem Reachable.placed (reachable : Reachable arrives e) : Placed e := by
  refine reachable.invariant .started Placed.worker Placed.call ?_
  intro e transport placed _
  exact ⟨placed.closed_iff, placed.shut, placed.departure⟩

/-! ## After the end -/

/-- All that the worker still does once the engine is closed. -/
theorem WorkerStep.of_over (isOver : e.stage.isOver = true) (step : WorkerStep e e') :
    e' = { e with calls := e.calls.map Call.wake, stage := .exited } := by
  cases step
  case signalEnd => rfl
  all_goals
    have place := ‹e.stage = _›
    rw [place] at isOver
    cases isOver

theorem Step.exited (gone : e.stage = .exited) (step : Step arrives e e') :
    e'.stage = .exited := by
  rcases step.cases with step | step | ⟨transport, -, rfl⟩
  · rw [step.of_over (by rw [gone]; rfl)]
  · rw [step.same_worker.stage, gone]
  · exact gone

/-- What can change in a closed engine: the callers release what is left, and things arrive at the
transport, which nobody reads. -/
structure Quiet (arrives : τ → τ → Prop) (e e' : Engine τ) : Prop where
  history : e'.trace.filter (!·.byCaller) = e.trace.filter (!·.byCaller)
  tally : e'.shared.tally = { e.shared.tally with bytesReleased := e'.shared.tally.bytesReleased }
  buffer : e'.shared.buffer.filled <:+ e.shared.buffer.filled
  transport : Relation.ReflTransGen arrives e.transport e'.transport

omit [Transport τ] in
theorem Quiet.refl (e : Engine τ) : Quiet arrives e e :=
  ⟨rfl, rfl, List.suffix_refl _, .refl⟩

omit [Transport τ] in
theorem Quiet.trans {e'' : Engine τ} (first : Quiet arrives e e')
    (second : Quiet arrives e' e'') : Quiet arrives e e'' := by
  refine ⟨second.history.trans first.history, ?_, second.buffer.trans first.buffer,
    first.transport.trans second.transport⟩
  rw [second.tally, first.tally]

omit [Transport τ] in
/-- A call adds nothing that the worker would, and only releases bytes. -/
theorem CallStep.quiet (step : CallStep e e') : Quiet arrives e e' := by
  cases step
  case announceStop => exact ⟨by simp [Event.byCaller], rfl, List.suffix_refl _, .refl⟩
  case install => exact ⟨by simp [Event.byCaller], rfl, List.suffix_refl _, .refl⟩
  case consume i count place =>
    refine ⟨by simp [Event.byCaller], rfl, ?_, .refl⟩
    show (e.shared.buffer.consume count).filled <:+ _
    rw [Buffer.filled_consume]
    exact List.drop_suffix count _
  case reset =>
    refine ⟨by simp [Event.byCaller], rfl, ?_, .refl⟩
    show e.shared.buffer.reset.filled <:+ _
    rw [Buffer.filled_reset]
    exact List.nil_suffix
  all_goals exact ⟨rfl, rfl, List.suffix_refl _, .refl⟩

theorem Step.quiet (isOver : e.stage.isOver = true) (step : Step arrives e e') :
    Quiet arrives e e' := by
  rcases step.cases with step | step | ⟨transport, allowed, rfl⟩
  · rw [step.of_over isOver]
    exact ⟨rfl, rfl, List.suffix_refl _, .refl⟩
  · exact step.quiet
  · exact ⟨rfl, rfl, List.suffix_refl _, .single allowed⟩

/-- A closed engine stays quiet for ever. -/
theorem Steps.quiet (reachable : Reachable arrives e) (closed : e.shared.phase = .closed)
    (steps : Steps arrives e e') : Quiet arrives e e' := by
  induction steps with
  | refl => exact .refl e
  | @tail middle last before step ih =>
    -- the engine is closed at every state on the way
    have still : middle.shared.phase = .closed :=
      Phase.eq_closed_of_le (closed ▸ Steps.phase_le before)
    exact ih.trans (step.quiet ((reachable.steps before).placed.closed_iff.1 still))

/-- No caller reports a fault. -/
theorem fault?_of_byCaller {event : Event} (byCaller : event.byCaller = true) :
    event.fault? = none := by
  cases event <;> first | rfl | cases byCaller

theorem filterMap_fault?_filter (history : List Event) :
    (history.filter (!·.byCaller)).filterMap Event.fault? = history.filterMap Event.fault? := by
  induction history with
  | nil => rfl
  | cons event older ih =>
    cases caller : event.byCaller with
    | true => simp [caller, fault?_of_byCaller caller, ih]
    | false => simp [caller, List.filterMap_cons, ih]

omit [Transport τ] in
theorem faults_eq_of_filter {e e' : Engine τ}
    (history : e'.trace.filter (!·.byCaller) = e.trace.filter (!·.byCaller)) :
    e'.faults = e.faults := by
  unfold faults
  rw [← filterMap_fault?_filter e'.trace, history, filterMap_fault?_filter]

/-! ## Closing -/

/-- A closing call has not returned before the worker is gone. -/
theorem Steps.closing {i : Nat} (closing : e.calls[i]? = some .closing)
    (steps : Steps arrives e e') :
    (∃ call, e'.calls[i]? = some call ∧ call.isClosing = true) ∨ e'.stage = .exited := by
  induction steps with
  | refl => exact .inl ⟨.closing, closing, rfl⟩
  | tail _ step ih =>
    rcases ih with ⟨call, place, closing⟩ | gone
    · obtain ⟨call', place', move⟩ := step.move place
      rcases move.isClosing closing with closing' | gone
      · exact .inl ⟨call', place', closing'⟩
      · exact .inr (step.exited gone)
    · exact .inr (step.exited gone)

omit [Transport τ] in
/-- A late closing call goes straight to its return. -/
theorem CallMove.late {call call' : Call} (closed : e.shared.phase = .closed)
    (late : call.isLateCloser = true) (move : CallMove e e' call call') :
    call'.isLateCloser = true := by
  cases move
  case wake => cases call <;> exact late
  -- only the first closing call finds the engine running
  case requestStop running stopped => rw [closed] at running; cases running
  all_goals first | exact late | rfl | cases late

/-- A closing call on a closed engine only waits for the worker and returns. -/
theorem Steps.late {i : Nat} (closed : e.shared.phase = .closed)
    (closing : e.calls[i]? = some .closing) (steps : Steps arrives e e') :
    ∃ call, e'.calls[i]? = some call ∧ call.isLateCloser = true := by
  induction steps with
  | refl => exact ⟨.closing, closing, rfl⟩
  | tail before step ih =>
    obtain ⟨call, place, late⟩ := ih
    obtain ⟨call', place', move⟩ := step.move place
    have still := Phase.eq_closed_of_le (closed ▸ Steps.phase_le before)
    exact ⟨call', place', move.late still late⟩

/-- A step of such a call changes nothing but its own place. -/
theorem next_of_late {i : Nat} {call : Call} (closed : e.shared.phase = .closed)
    (place : e.calls[i]? = some call) (late : call.isLateCloser = true)
    (step : e.next (.call i) = some e') : ∃ call', e' = e.place i call' := by
  obtain ⟨found, here, stepped⟩ := next_call_eq_some step
  obtain rfl : call = found := Option.some.inj (place.symm.trans here)
  cases call with
  | closing =>
    have again : e.stepCall i .closing = some (e.place i .joining) := by simp [stepCall, closed]
    exact ⟨.joining, Option.some.inj (stepped.symm.trans again)⟩
  | joining =>
    dsimp only [stepCall] at stepped
    split at stepped
    · exact ⟨.returned .done, (Option.some.inj stepped).symm⟩
    · cases stepped
  | returned answer => cases stepped
  | _ => cases late

/-- The worker of a closed engine does no more than wake the callers and leave. -/
theorem next_of_over {label : Label} (own : label = .worker ∨ label = .timer)
    (isOver : e.stage.isOver = true) (step : e.next label = some e') :
    e' = { e with calls := e.calls.map Call.wake, stage := .exited } := by
  rcases own with rfl | rfl
  · exact WorkerStep.of_over isOver (.of_work step)
  · exact WorkerStep.of_over isOver (.of_wakeFromBackoff step)

/-- What is true of a closed engine `e` and of every later state `e'`. -/
structure Ended (arrives : τ → τ → Prop) (e e' : Engine τ) : Prop where
  isOpen : e'.shared.isOpen = false
  /-- The transport was shut once, after its last read, or the consumer panicked and it was not. -/
  departure : AfterReads .shut (milestones e.trace) ∨ AfterReads .panic (milestones e.trace)
  /-- Every report of the run has been made. -/
  faults : e'.faults = e.faults
  quiet : Quiet arrives e e'
  worker : ∀ label next, label = .worker ∨ label = .timer → e'.next label = some next →
    next = { e' with calls := e'.calls.map Call.wake, stage := .exited }
  /-- A call to close the engine now changes nothing. -/
  closing : ∀ i next, e.calls[i]? = some .closing → e'.next (.call i) = some next →
    ∃ call, next = e'.place i call

/-- However many callers close an engine and whatever ends its loop: the phase moves forward only, a
call to close it returns in no other phase than the last, and that phase is the end.  The transport
is shut as often as the history says. -/
theorem lifecycle_and_close (reachable : Reachable arrives e) (steps : Steps arrives e e') :
    e.shared.phase ≤ e'.shared.phase ∧
    (∀ (i : Nat) (answer : Answer), e.calls[i]? = some .closing →
      e'.calls[i]? = some (.returned answer) → e'.shared.phase = .closed) ∧
    (e.shared.phase = .closed → Ended arrives e e') ∧
    (∀ closes : τ → Nat, Transport.CountsShuts arrives closes →
      closes e'.transport + shuttings e.trace = closes e.transport + shuttings e'.trace) := by
  have placed := reachable.placed
  have placed' := (reachable.steps steps).placed
  refine ⟨steps.phase_le, ?_, ?_, fun closes counts => steps.shuttings counts⟩
  · -- a closing call returns by joining only, and the worker is gone then
    intro i answer closing returned
    rcases steps.closing closing with ⟨call, place, still⟩ | gone
    · obtain rfl : call = .returned answer := Option.some.inj (place.symm.trans returned)
      cases still
    · exact placed'.closed_iff.2 (by rw [gone]; rfl)
  · -- the worker of a closed engine stands at one of its last two places
    intro closed
    have still : e'.shared.phase = .closed := Phase.eq_closed_of_le (closed ▸ steps.phase_le)
    have quiet := steps.quiet reachable closed
    refine ⟨placed'.shut still, ?_, faults_eq_of_filter quiet.history, quiet, ?_, ?_⟩
    · have departure := placed.departure
      have isOver := placed.closed_iff.1 closed
      cases place : e.stage with
      | signallingEnd => rw [place] at departure; exact departure
      | exited => rw [place] at departure; exact departure
      | _ => rw [place] at isOver; cases isOver
    · intro label next own step
      exact next_of_over own (placed'.closed_iff.1 still) step
    · intro i next closing step
      obtain ⟨call, place, late⟩ := steps.late closed closing
      exact next_of_late still place late step

/-- Two callers close an engine whose worker waits for a read.  Its transport is shut once. -/
theorem lifecycle_and_close_of_two_closers :
    ∃ start asked ended : Engine Script,
      spawn { capacity := 2 } {} none = .ok start ∧
      asked = start.run [.worker, .worker, .worker, .enter .close, .enter .close] ∧
      ended = asked.run [.call 1, .call 0, .call 1, .call 1, .worker, .worker, .worker, .worker,
        .worker, .call 0, .call 1] ∧
      ended.answers = [some .done, some .done] ∧ asked.shared.phase ≤ ended.shared.phase ∧
      ended.shared.phase = .closed ∧ ended.transport.probe.closes = 1 ∧
      Ended Script.Pushed ended ended := by
  have started : Reachable Script.Pushed _ := .started { capacity := 2 } {} none rfl
  have asked := started.steps
    (steps_run _ [.worker, .worker, .worker, .enter .close, .enter .close])
  have later (e : Engine Script) : Steps Script.Pushed e _ := steps_run e [.call 1, .call 0,
    .call 1, .call 1, .worker, .worker, .worker, .worker, .worker, .call 0, .call 1]
  obtain ⟨forward, returned, -, shut⟩ := lifecycle_and_close asked (later _)
  have closed := returned 0 .done rfl rfl
  have after := (lifecycle_and_close (asked.steps (later _)) .refl).2.2.1 closed
  exact ⟨_, _, _, rfl, rfl, rfl, rfl, forward, closed, shut _ Script.countsShuts, after⟩

end Engine

end ByteTap
