import ByteTap.Proofs.Engine.Ledger
import ByteTap.Proofs.Transport.Script

/-!
# The order of the reports

The worker reports faults from several places, and they come in one order.  In its loop it reports
failed reads and full buffers, any number of them.  Once the transport has gone away it says so,
directly after the failed read that showed it, and reads no more.  The last report, if there is one,
is that shutting the transport failed, or that the consumer panicked; no consumer is called after
the loss of the transport, so a panic is never reported after it.

* `Stage.Reported`: which reports there can be when the worker stands at a place;
* `WorkerStep.reported`: every step of the worker keeps that;
* `reports_in_order`: the order, read off it.
-/

namespace ByteTap

/-- The reported faults of a history, newest first. -/
def reports (history : List Event) : List Fault := history.filterMap Event.fault?

@[simp] theorem reports_cons (event : Event) (older : List Event) :
    reports (event :: older) = event.fault?.toList ++ reports older := by
  cases told : event.fault? <;> simp only [reports, List.filterMap_cons, told] <;> rfl

@[simp] theorem reports_noted (notes : List String) (older : List Event) :
    reports ((notes.map Event.noted).reverse ++ older) = reports older :=
  eq_of_noted (fun _ _ => rfl) notes older

@[simp] theorem reports_asked (asked : Bool) (older : List Event) :
    reports ((if asked then [.stopAsked] else []) ++ older) = reports older := by
  cases asked <;> rfl

/-- The fault keeps an engine from being started at all. -/
def Fault.ofStart : Fault → Bool
  | invalidConfiguration _ | contextBuild _ | workerSpawn _ => true
  | _ => false

/-- What an engine over the transport of that name reports in its loop: a failed read, or a full
buffer of that capacity. -/
inductive Routine (label : String) (capacity : Nat) : Fault → Prop
  | readFailed (cause : IoFailure) : Routine label capacity (.readFailed label cause)
  | bufferExhausted : Routine label capacity (.bufferExhausted capacity)

section

variable (label : String) (capacity : Nat)

/-! ## Reports, newest first -/

/-- Nothing but failed reads and full buffers was reported. -/
def InLoop (reports : List Fault) : Prop := ∀ fault ∈ reports, Routine label capacity fault

/-- A failed read was reported last. -/
def AfterFailure (reports : List Fault) : Prop :=
  ∃ cause older, reports = .readFailed label cause :: older

/-- The loss of the transport was reported last, and a failed read before it. -/
def AfterLoss (reports : List Fault) : Prop :=
  ∃ older, reports = .disconnected label :: older ∧ InLoop label capacity older ∧
    AfterFailure label older

/-- What was reported when the worker decides to shut the transport. -/
def BeforeEnd (reports : List Fault) : Prop :=
  InLoop label capacity reports ∨ AfterLoss label capacity reports

/-- That shutting the transport failed was reported last. -/
def AfterClose (reports : List Fault) : Prop :=
  ∃ cause older, reports = .closeFailed label cause :: older ∧ BeforeEnd label capacity older

/-- The panic of the consumer was reported last, and no loss of the transport before it. -/
def AfterPanic (reports : List Fault) : Prop :=
  ∃ reason older, reports = .workerPanicked reason :: older ∧ InLoop label capacity older

/-- What can have been reported when the worker stands at that place. -/
def Stage.Reported (stage : Stage) (reports : List Fault) : Prop :=
  match stage with
  | .settling _ handled =>
      InLoop label capacity reports ∧ (handled.failed = true → AfterFailure label reports)
  | .reportingLoss => InLoop label capacity reports ∧ AfterFailure label reports
  | .signallingLoss | .suspended => AfterLoss label capacity reports
  | .closing | .reportingClose _ => BeforeEnd label capacity reports
  | .markingShut => BeforeEnd label capacity reports ∨ AfterClose label capacity reports
  | .finishing | .signallingEnd | .exited =>
      (BeforeEnd label capacity reports ∨ AfterClose label capacity reports) ∨
        AfterPanic label capacity reports
  | _ => InLoop label capacity reports

end

/-- The three parts of what was reported, oldest first: what the loop reports, the loss of the
transport, and the last report. -/
structure Parts (label : String) (capacity : Nat) (faults routine loss last : List Fault) :
    Prop where
  whole : faults = routine ++ loss ++ last
  inLoop : ∀ fault ∈ routine, Routine label capacity fault
  /-- The loss comes directly after a failed read. -/
  lost : loss = [] ∨ loss = [.disconnected label] ∧
    ∃ earlier cause, routine = earlier ++ [.readFailed label cause]
  /-- A panic is not reported after the loss. -/
  final : last = [] ∨ (∃ cause, last = [.closeFailed label cause]) ∨
    loss = [] ∧ ∃ reason, last = [.workerPanicked reason]

section

variable {label : String} {capacity : Nat} {fault : Fault} {older newest : List Fault}

theorem InLoop.cons (inLoop : InLoop label capacity older)
    (routine : Routine label capacity fault) : InLoop label capacity (fault :: older) := by
  intro among here
  rcases List.mem_cons.1 here with rfl | older
  · exact routine
  · exact inLoop among older

theorem InLoop.parts (inLoop : InLoop label capacity newest) :
    Parts label capacity newest.reverse newest.reverse [] [] :=
  ⟨by simp, fun fault among => inLoop fault (List.mem_reverse.1 among), .inl rfl, .inl rfl⟩

/-- One more report, and it is the last. -/
theorem Parts.snoc {routine loss : List Fault} (parts : Parts label capacity older.reverse routine
    loss []) (final : (∃ cause, fault = .closeFailed label cause) ∨
      loss = [] ∧ ∃ reason, fault = .workerPanicked reason) :
    Parts label capacity (fault :: older).reverse routine loss [fault] := by
  obtain ⟨whole, inLoop, lost, -⟩ := parts
  refine ⟨?_, inLoop, lost, .inr ?_⟩
  · rw [List.reverse_cons, whole, List.append_nil]
  · rcases final with ⟨cause, rfl⟩ | ⟨connected, reason, rfl⟩
    · exact .inl ⟨cause, rfl⟩
    · exact .inr ⟨connected, reason, rfl⟩

theorem BeforeEnd.parts (before : BeforeEnd label capacity newest) :
    ∃ routine loss, Parts label capacity newest.reverse routine loss [] := by
  rcases before with inLoop | ⟨older, rfl, inLoop, cause, earlier, rfl⟩
  · exact ⟨_, _, inLoop.parts⟩
  · refine ⟨_, [.disconnected label], ?_, inLoop.parts.inLoop, .inr ⟨rfl, ?_⟩, .inl rfl⟩
    · simp
    · exact ⟨earlier.reverse, cause, List.reverse_cons⟩

/-- Wherever the worker stands, its reports fall into the three parts. -/
theorem Stage.Reported.parts {stage : Stage} (reported : stage.Reported label capacity newest) :
    ∃ routine loss last, Parts label capacity newest.reverse routine loss last := by
  have atEnd : (BeforeEnd label capacity newest ∨ AfterClose label capacity newest) ∨
      AfterPanic label capacity newest := by
    -- what was reported on the way can be followed by the end as well
    cases stage with
    | settling | reportingLoss => exact .inl (.inl (.inl reported.1))
    | signallingLoss | suspended => exact .inl (.inl (.inr reported))
    | closing | reportingClose => exact .inl (.inl reported)
    | markingShut => exact .inl reported
    | finishing | signallingEnd | exited => exact reported
    | _ => exact .inl (.inl (.inl reported))
  rcases atEnd with (before | ⟨cause, older, rfl, before⟩) | ⟨reason, older, rfl, inLoop⟩
  · obtain ⟨routine, loss, parts⟩ := before.parts
    exact ⟨routine, loss, [], parts⟩
  · obtain ⟨routine, loss, parts⟩ := before.parts
    exact ⟨routine, loss, _, parts.snoc (.inl ⟨cause, rfl⟩)⟩
  · exact ⟨_, [], _, inLoop.parts.snoc (.inr ⟨rfl, reason, rfl⟩)⟩

/-- No part holds a fault of the start. -/
theorem Parts.not_ofStart {routine loss last : List Fault}
    (parts : Parts label capacity newest routine loss last) (among : fault ∈ newest) :
    fault.ofStart = false := by
  obtain ⟨whole, inLoop, lost, final⟩ := parts
  rw [whole, List.mem_append, List.mem_append] at among
  rcases among with (among | among) | among
  · cases inLoop fault among <;> rfl
  · rcases lost with rfl | ⟨rfl, -⟩
    · cases among
    · rw [List.mem_singleton.1 among]
      rfl
  · rcases final with rfl | ⟨cause, rfl⟩ | ⟨-, reason, rfl⟩
    · cases among
    · rw [List.mem_singleton.1 among]
      rfl
    · rw [List.mem_singleton.1 among]
      rfl

end

namespace Engine

variable {τ : Type} {arrives : τ → τ → Prop} {e e' : Engine τ}

/-- What was reported goes with the place of the worker. -/
def Reported (e : Engine τ) : Prop :=
  e.stage.Reported e.label e.settings.capacity.toNat (reports e.trace)

theorem CallStep.reported (step : CallStep e e') (reported : Reported e) : Reported e' := by
  cases step <;> simpa [Reported, Event.fault?] using reported

/-- Whatever the worker reports comes in its place. -/
theorem WorkerStep.reported [Transport τ] (step : WorkerStep e e') (reported : Reported e) :
    Reported e' := by
  unfold Reported at reported ⊢
  cases step
  -- In the loop.
  case reportDrop place =>
    rw [place] at reported
    exact InLoop.cons reported .bufferExhausted
  case reportFull place =>
    rw [place] at reported
    exact InLoop.cons reported .bufferExhausted
  case reportFailure cause handled place =>
    rw [place] at reported
    exact ⟨InLoop.cons reported (.readFailed cause), fun _ => ⟨cause, _, rfl⟩⟩
  case settleLost place running failed lost =>
    rw [place] at reported
    exact ⟨reported.1, reported.2 failed⟩
  case reportLoss place =>
    rw [place] at reported
    exact ⟨_, rfl, reported.1, reported.2⟩
  -- Out of the loop.
  case reportClose cause place =>
    rw [place] at reported
    exact .inr ⟨cause, _, rfl, reported⟩
  case markShut place =>
    rw [place] at reported
    exact .inl reported
  case unwind payload place =>
    rw [place] at reported
    exact .inr ⟨payload.reason, _, rfl, reported⟩
  all_goals
    have place := ‹e.stage = _›
    rw [place] at reported
    simp_all [Stage.Reported, BeforeEnd, Event.fault?]

theorem Reachable.reported [Transport τ] (reachable : Reachable arrives e) : Reported e := by
  refine reachable.invariant ?_ ?_ ?_ ?_
  · intro settings transport consumer e spawned
    obtain ⟨-, -, registration, registrations, rfl⟩ := spawn_eq_ok spawned
    rintro _ ⟨⟩
  · exact fun reported step => step.reported reported
  · exact fun reported step => step.reported reported
  · exact fun reported _ => reported

/-- However shutdown and panics cut the run short: failed reads and full buffers are reported first,
then the loss of the transport at most once and directly after a failed read, then at most one last
fault.  The owner's sink never sees a fault that would have kept the engine from starting. -/
theorem reports_in_order [Transport τ] (reachable : Reachable arrives e) :
    (∃ routine loss last,
      Parts e.label e.settings.capacity.toNat e.faults routine loss last) ∧
    ∀ (sink : Sink), ∀ fault ∈ sink.seen e.faults, fault.ofStart = false := by
  obtain ⟨routine, loss, last, parts⟩ := Stage.Reported.parts reachable.reported
  refine ⟨⟨routine, loss, last, parts⟩, ?_⟩
  intro sink fault among
  cases sink with
  | attached => exact parts.not_ofStart among
  | absent => cases among
  | abandoned => cases among

/-- A full buffer is dropped, a read fails, the transport goes away, and it cannot be shut. -/
theorem reports_in_order_of_failed_close :
    ∃ start ended : Engine Script,
      spawn { capacity := 1, policy := .discard }
        { closeFails := true, steps := [.data [1], .failure .timedOut, .disconnect] } none =
          .ok start ∧
      ended = start.run (List.replicate 11 .worker ++ .timer :: List.replicate 7 .worker ++
        .enter .close :: .call 0 :: .call 0 :: .call 0 :: List.replicate 6 .worker) ∧
      ended.shared.phase = .closed ∧
      ended.faults = [.bufferExhausted 1,
        .readFailed "scripted" ⟨.timedOut, "scripted read failure"⟩,
        .readFailed "scripted" ⟨.unexpectedEnd, "scripted disconnect"⟩,
        .disconnected "scripted",
        .closeFailed "scripted" ⟨.other, "scripted close failure"⟩] ∧
      (∃ routine loss last, Parts "scripted" 1 ended.faults routine loss last) ∧
      ∀ (sink : Sink), ∀ fault ∈ sink.seen ended.faults, fault.ofStart = false := by
  have started : Reachable Script.Pushed _ :=
    .started { capacity := 1, policy := .discard }
      { closeFails := true, steps := [.data [1], .failure .timedOut, .disconnect] } none rfl
  have ended := started.steps (steps_run _ (List.replicate 11 .worker ++ .timer ::
    List.replicate 7 .worker ++ .enter .close :: .call 0 :: .call 0 :: .call 0 ::
    List.replicate 6 .worker))
  exact ⟨_, _, rfl, rfl, by decide, by decide, reports_in_order ended⟩

end Engine

end ByteTap
