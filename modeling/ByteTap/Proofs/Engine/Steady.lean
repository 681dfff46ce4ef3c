import ByteTap.Proofs.Engine.Settling
import ByteTap.Proofs.Transport.Noise

/-!
# Engines that are only read from

While nobody releases bytes, shuts the engine down or changes the consumer, the worker finds
everything as it left it: the room that it armed a read with is still there, nobody leaves it a
permit, and it leaves its loop only on behalf of the consumer (`Steady`).  This is kept by every
turn of such a run (`Streamed.steady`).
-/

namespace ByteTap

namespace Stage

/-- The room of a read that has failed, while the transport stays open. -/
@[simp] def failedRoom? (isOpen : Bool) : Stage → Option Nat
  | completing room (.error _) => if isOpen then some room else none
  | reportingFailure room _ _ => if isOpen then some room else none
  | settling room handled => if handled.failed && isOpen then some room else none
  | backingOff _ room _ => some room
  | _ => none

/-- The worker is on its way into the stall, or stalled. -/
@[simp] def isStalling : Stage → Bool
  | recordingFull | reportingFull | stalled => true
  | _ => false

end Stage

/-- A call that waits for data, or has done so. -/
@[simp] def Call.isWait : Call → Bool
  | waiting _ | parked .. | woken .. | expired _ | returned (.outcome _) => true
  | _ => false

/-- Nobody enters a call but to wait. -/
def Label.keepsOut : Label → Bool
  | enter (.wait _) => true
  | enter _ => false
  | _ => true

namespace Engine

variable {start e e' : Engine Script} {pushed : List ScriptStep}

/-- The runs in which the owner at most waits, and adds these steps to the script. -/
inductive Streamed (start : Engine Script) : List ScriptStep → Engine Script → Prop
  | start : Streamed start [] start
  | pushed {pushed : List ScriptStep} {e : Engine Script} (steps : List ScriptStep)
      (before : Streamed start pushed e) :
      Streamed start (pushed ++ steps) (e.mapTransport (Script.push · steps))
  | turn {pushed : List ScriptStep} {e e' : Engine Script} (label : Label)
      (before : Streamed start pushed e) (waits : label.keepsOut = true)
      (stepped : e.next label = some e') : Streamed start pushed e'

/-! ## What holds of an engine that is only read from -/

/-- What holds while nobody releases bytes, shuts the engine down, or changes the consumer. -/
structure Steady (e : Engine Script) : Prop where
  /-- Nobody but the consumer asks the worker to leave its loop, and it does so at once. -/
  free : e.stage.isLeaving = false →
    e.shared.phase = .running ∧ e.stopRequested = false ∧ e.shutdownPermit = false
  spaceless : e.spacePermit = false
  /-- Nobody changes the room while the worker is with a read. -/
  room : ∀ room, e.stage.room? = some room → room = 0 ∨ room = e.shared.buffer.spare
  failed : ∀ room, e.stage.failedRoom? e.transport.isOpen = some room → room ≠ 0
  isOpen : e.stage.isLeaving = false → e.transport.isOpen = true → e.shared.isOpen = true
  /-- Whoever has reported the full buffer is stuck. -/
  stuck : e.stage.isLeaving = false → e.exhaustionReported = true → e.stage.isStalling = true
  calls : ∀ call ∈ e.calls, call.isWait = true

theorem Steady.started {settings : Settings} {transport : Script} {consumer : Option Consumer}
    (spawned : spawn settings transport consumer = .ok e) : Steady e := by
  obtain ⟨-, -, registration, registrations, rfl⟩ := spawn_eq_ok spawned
  exact ⟨fun _ => ⟨rfl, rfl, rfl⟩, rfl, by rintro _ ⟨⟩, by rintro _ ⟨⟩, fun _ => id, by rintro _ ⟨⟩,
    by rintro _ ⟨⟩⟩

/-- A read that fails in an open transport had room. -/
theorem Steady.failed_worker (steady : Steady e) (step : WorkerStep e e') {room : Nat}
    (here : e'.stage.failedRoom? e'.transport.isOpen = some room) : room ≠ 0 := by
  have failed := steady.failed
  have ended {s : Script} {room' : Nat} {result : Except IoFailure Bytes}
      (ended : (Transport.poll s room').result = some result)
      (here : (Stage.completing room' result).failedRoom?
        (Transport.poll s room').transport.isOpen = some room) : room ≠ 0 := by
    cases result with
    | ok bytes => cases here
    | error cause =>
      simp only [Stage.failedRoom?, Option.ite_none_right_eq_some, Option.some.injEq] at here
      exact here.2 ▸ Script.room_of_failure ended here.1
  cases step
  case issueEnded poll result =>
    subst poll
    exact ended result here
  case readEnded poll result =>
    subst poll
    exact ended result here
  -- Later places of the same read say what its end has said.
  case reportFailure place =>
    rw [place] at failed
    simp_all
  case settleFailed room' handled place running handledFailure isOpen =>
    rw [place] at failed
    have isOpen : e.transport.isOpen = true := isOpen
    exact failed room (by simp [handledFailure, isOpen, Option.some.inj here])
  all_goals
    have place := ‹e.stage = _›
    rw [place] at failed
    first | exact failed room here | cases here

/-- The engine knows an open transport to be open. -/
theorem Steady.isOpen_worker (steady : Steady e) (step : WorkerStep e e')
    (inside : e.stage.isLeaving = false) (isOpen : e'.transport.isOpen = true)
    (inside' : e'.stage.isLeaving = false) : e'.shared.isOpen = true := by
  have before := steady.isOpen inside
  cases step
  case issueEnded poll _ =>
    subst poll
    exact before (Script.isOpen_of_poll (s := Transport.issue e.transport _) isOpen)
  case issuePending poll _ =>
    subst poll
    exact before (Script.isOpen_of_poll (s := Transport.issue e.transport _) isOpen)
  case readEnded poll _ =>
    subst poll
    exact before (Script.isOpen_of_poll isOpen)
  case completeFailed => exact isOpen
  all_goals first | exact before isOpen | cases inside'

/-- Nobody makes room, so the worker does not come out of the stall once it has reported it. -/
theorem Steady.stuck_worker (steady : Steady e) (step : WorkerStep e e')
    (inside : e.stage.isLeaving = false) (reported : e'.exhaustionReported = true)
    (inside' : e'.stage.isLeaving = false) : e'.stage.isStalling = true := by
  have stuck := steady.stuck inside
  cases step
  case stallWoken permit => cases steady.spaceless.symm.trans permit
  case armRead => cases reported
  case stallCut => cases inside'
  all_goals
    have place := ‹e.stage = _›
    rw [place] at stuck
    first | rfl | cases stuck reported

/-- A read is armed with all the room there is, or with none. -/
theorem Steady.room_worker (steady : Steady e) (step : WorkerStep e e') {room : Nat}
    (here : e'.stage.room? = some room) : room = 0 ∨ room = e'.shared.buffer.spare := by
  have before := steady.room
  cases step
  case armRead => cases here; exact .inr rfl
  case armStall => cases here; exact .inl rfl
  case armDiscard => cases here; exact .inr rfl
  all_goals
    have place := ‹e.stage = _›
    rw [place] at before
    first | exact before room here | cases here

/-- The worker keeps all of it, clause by clause. -/
theorem Steady.worker (steady : Steady e) (step : WorkerStep e e') : Steady e' := by
  have staying (inside : e'.stage.isLeaving = false) : KeepsRequests e e' := by
    rcases step.leaves_or_keeps with leaving | keeps
    · cases leaving.symm.trans inside
    · exact keeps
  refine ⟨?_, ?_, fun _ => steady.room_worker step, fun _ => steady.failed_worker step, ?_, ?_, ?_⟩
  · intro inside
    obtain ⟨before, phase, asked, permit⟩ := staying inside
    rw [phase, asked, permit]
    exact steady.free before
  · have spaceless := steady.spaceless
    cases step <;> first | exact spaceless | rfl
  · intro inside isOpen
    exact steady.isOpen_worker step (staying inside).staying isOpen inside
  · intro inside reported
    exact steady.stuck_worker step (staying inside).staying reported inside
  · intro call among
    rcases step.calls_eq with same | woken
    · exact steady.calls call (same ▸ among)
    · rw [woken] at among
      obtain ⟨before, there, rfl⟩ := List.mem_map.1 among
      have waits := steady.calls before there
      cases before <;> exact waits

/-! ## Runs in which nothing is done but read -/

theorem Steady.of_calls {calls : List Call} (steady : Steady e)
    (waits : ∀ call ∈ calls, call.isWait = true) : Steady { e with calls } :=
  ⟨steady.free, steady.spaceless, steady.room, steady.failed, steady.isOpen, steady.stuck, waits⟩

/-- A call that waits changes nothing but its own place. -/
theorem Steady.call (steady : Steady e) (step : CallStep e e')
    (same : e'.calls.length = e.calls.length) :
    ∃ calls, e' = { e with calls } ∧ ∀ call ∈ calls, call.isWait = true := by
  have waits {i : Nat} {call : Call} (place : e.calls[i]? = some call) : call.isWait = true :=
    steady.calls call (List.mem_of_getElem? place)
  have replaced {i : Nat} {new : Call} (waits : new.isWait = true) :
      ∀ call ∈ e.calls.set i new, call.isWait = true := by
    intro call among
    rcases List.mem_or_eq_of_mem_set among with old | rfl
    · exact steady.calls call old
    · exact waits
  cases step
  -- No call is entered here, and those that are there wait.
  case enter request => simp at same
  case beginWait => exact ⟨_, rfl, replaced (by unfold waitOn; split <;> rfl)⟩
  case resumeWait => exact ⟨_, rfl, replaced (by unfold waitOn; split <;> rfl)⟩
  case endWait => exact ⟨_, rfl, replaced rfl⟩
  case expire => exact ⟨_, rfl, replaced rfl⟩
  case stir i call place =>
    refine ⟨_, rfl, replaced ?_⟩
    have waits := waits place
    cases call <;> exact waits
  all_goals
    have place := ‹e.calls[_]? = some _›
    cases waits place

/-- A turn is the worker's, or that of somebody who waits. -/
theorem Steady.turn {label : Label} (steady : Steady e) (keepsOut : label.keepsOut = true)
    (stepped : e.next label = some e') :
    Steady e' ∧ (label.byWorker = true ∨ ∃ calls, e' = { e with calls }) := by
  have called (made : label.byCall = true) : Steady e' ∧ ∃ calls, e' = { e with calls } := by
    obtain ⟨step, same⟩ := CallStep.of_byCall made stepped
    obtain ⟨calls, rfl, waits⟩ := steady.call step same
    exact ⟨steady.of_calls waits, calls, rfl⟩
  cases label with
  | worker => exact ⟨steady.worker (.of_work stepped), .inl rfl⟩
  | timer => exact ⟨steady.worker (.of_wakeFromBackoff stepped), .inl rfl⟩
  | enter request =>
    cases request with
    | wait timed =>
      cases stepped
      refine ⟨steady.of_calls ?_, .inr ⟨_, rfl⟩⟩
      intro call among
      rcases List.mem_append.1 among with old | new
      · exact steady.calls call old
      · rw [List.mem_singleton.1 new]
        rfl
    | _ => cases keepsOut
  | call i => exact (called rfl).imp_right .inr
  | expire i => exact (called rfl).imp_right .inr
  | stir i => exact (called rfl).imp_right .inr

theorem Steady.push (steady : Steady e) (steps : List ScriptStep) :
    Steady (e.mapTransport (Script.push · steps)) :=
  ⟨steady.free, steady.spaceless, steady.room, steady.failed, steady.isOpen, steady.stuck,
    steady.calls⟩

theorem Streamed.steady (streamed : Streamed start pushed e) (steady : Steady start) :
    Steady e := by
  induction streamed with
  | start => exact steady
  | pushed steps _ ih => exact ih.push steps
  | turn label _ keepsOut stepped ih => exact (ih.turn keepsOut stepped).1

/-- A schedule in which nobody enters but to wait leads from one of these runs to another. -/
theorem Streamed.run {schedule : List Label} (streamed : Streamed start pushed e)
    (waits : ∀ label ∈ schedule, label.keepsOut = true) :
    Streamed start pushed (e.run schedule) :=
  run_invariant (fun keepsOut streamed stepped => streamed.turn _ keepsOut stepped) waits streamed

end Engine

end ByteTap
