import ByteTap.Proofs.Engine.Erasure
import ByteTap.Proofs.Transport.Noise

/-!
# Engines without what noise leaves in them

`Engine.hush` takes the noise from the script, the counts and reports of noise, and what the history
tells of reads.  What is left is steered by the rest alone: outside the reads, and except for the
delay after a failed read, a step of the worker leads to the same whether the noise is taken away
before or after it (`hush_work_of_plain`, `hush_complete`, `hush_settleRead`).
-/

namespace ByteTap

/-- The event tells of noise, or of how the worker went round because of it. -/
def Event.isNoise : Event → Bool
  | armed _ | issued _ | ended _ | noted _ | waited _ | reported (.readFailed ..) => true
  | _ => false

/-- The worker does not read here, and nothing depends on what noise leaves behind. -/
@[simp] def Stage.isPlain : Stage → Bool
  | issuing _ | reading _ | completing .. | settling .. | backingOff .. => false
  | _ => true

namespace Engine

variable {later : List ScriptStep}

/-- Takes away what noise leaves in an engine, once these steps have been added to the script. -/
def hushing (later : List ScriptStep) : Eraser Script where
  keeps := (!·.isNoise)
  tally t := { t with zeroByteReads := 0, readErrors := 0 }
  transport := Script.hush later
  failures _ := 0
  calls _ := []

theorem lawful_hushing (later : List ScriptStep) : (hushing later).Lawful :=
  ⟨fun _ => rfl, fun _ _ => rfl, fun _ => rfl⟩

/-- The engine without what noise leaves in it. -/
def hush (later : List ScriptStep) (e : Engine Script) : Engine Script := e.erase (hushing later)

section

variable (later : List ScriptStep) (e : Engine Script)

@[simp] theorem hush_hush : (e.hush later).hush [] = e.hush later := by
  simp [hush, erase, hushing]

@[simp] theorem hush_stage : (e.hush later).stage = e.stage := rfl

@[simp] theorem hush_goto (stage : Stage) : (e.goto stage).hush later = (e.hush later).goto stage :=
  rfl

theorem hush_note {event : Event} (signal : event.isNoise = false) :
    (e.note event).hush later = (e.hush later).note event :=
  e.erase_note (hushing later) (by simp [hushing, signal])

theorem hush_noise {event : Event} (noise : event.isNoise = true) :
    (e.note event).hush later = e.hush later :=
  e.erase_note_of_dropped (hushing later) (by simp [hushing, noise])

@[simp] theorem hush_noteAll (notes : List String) :
    (e.noteAll notes).hush later = e.hush later := by
  have dropped : (notes.map Event.noted).reverse.filter (!·.isNoise) = [] := by
    rw [List.filter_eq_nil_iff]
    intro event among
    obtain ⟨text, -, rfl⟩ := List.mem_map.1 (List.mem_reverse.1 among)
    simp [Event.isNoise]
  simp [hush, erase, hushing, noteAll, List.filter_append, dropped]

/-- What is done to every engine with something taken away can be done before or after. -/
theorem hush_of_erased {f : Engine Script → Engine Script}
    (erased : ∀ {k : Eraser Script}, k.Lawful → ∀ e : Engine Script,
      (f e).erase k = f (e.erase k)) :
    (f (e.hush later)).hush [] = (f e).hush later := by
  have first := erased (lawful_hushing []) (e.hush later)
  have second := erased (lawful_hushing later) e
  change (f (e.hush later)).hush [] = f ((e.hush later).hush []) at first
  change (f e).hush later = f (e.hush later) at second
  rw [first, hush_hush, second]

theorem hush_leaveOnPermit :
    (e.hush later).leaveOnPermit.map (hush []) = e.leaveOnPermit.map (hush later) := by
  have left : (e.hush later).leaveOnPermit = e.leaveOnPermit.map (hush later) :=
    e.erase_leaveOnPermit (hushing later)
  rw [left, Option.map_map]
  exact congrArg (e.leaveOnPermit.map ·) (funext fun e => hush_hush later e)

variable {later e} in
/-- What is noted beside the noise is noted without it. -/
theorem hush_signal {heard : Engine Script} (same : heard.hush [] = e.hush later) {event : Event}
    (signal : event.isNoise = false) (stage : Stage) :
    ((heard.note event).goto stage).hush [] = ((e.note event).goto stage).hush later := by
  rw [hush_goto, hush_goto, hush_note [] _ signal, hush_note later _ signal, same]

theorem hush_shutTransport : (e.hush later).shutTransport.hush [] = e.shutTransport.hush later := by
  have shut : ({ e.hush later with transport := (e.hush later).transport.shut.transport }.noteAll
        (e.hush later).transport.shut.notes).hush [] =
      ({ e with transport := e.transport.shut.transport }.noteAll e.transport.shut.notes).hush
        later := by
    rw [hush_noteAll, hush_noteAll]
    exact congrArg (fun e => { e with transport := { e.transport with isOpen := false } })
      (hush_hush later e)
  have failure : (Transport.shut (e.hush later).transport).failure =
      (Transport.shut e.transport).failure := rfl
  unfold shutTransport
  dsimp only
  rw [failure]
  split
  · exact hush_signal shut rfl _
  · exact hush_signal shut rfl _

/-- Where the worker does not read, and nothing depends on noise, it does the same without it. -/
theorem hush_work_of_plain (plain : e.stage.isPlain = true) :
    (e.hush later).work.map (hush []) = e.work.map (hush later) := by
  have once := hush_hush later e
  unfold work
  rw [hush_stage]
  cases place : e.stage with
  | starting => exact congrArg some (hush_signal once rfl _)
  | arming => exact congrArg some (hush_of_erased later e fun lawful e => e.erase_arm lawful)
  | reportingDrop room => exact congrArg some (hush_signal once rfl _)
  | reportingFailure room cause handled =>
    refine congrArg some ?_
    show (((e.hush later).note _).goto _).hush [] = ((e.note _).goto _).hush later
    rw [hush_goto, hush_goto, hush_noise [] _ rfl, hush_noise later _ rfl, once]
  | recordingFull =>
    exact congrArg (fun e => some ((e.count fun t =>
      { t with exhaustionEvents := t.exhaustionEvents + 1 }).goto .reportingFull)) once
  | reportingFull => exact congrArg some (hush_signal once rfl _)
  | stalled =>
    show Option.map _ (if e.shutdownPermit then _ else if e.spacePermit then _ else _) =
      Option.map _ (if e.shutdownPermit then _ else if e.spacePermit then _ else _)
    split
    · exact hush_leaveOnPermit later e
    · split
      · exact congrArg (fun e => some { e with spacePermit := false, stage := .rechecking }) once
      · rfl
  | rechecking =>
    exact congrArg (fun e => some (e.goto
      (if e.shared.buffer.isFull then .stalled else .arming))) once
  | reportingLoss => exact congrArg some (hush_signal once rfl _)
  | signallingLoss => exact congrArg (fun e => some (e.wakeAll.goto .suspended)) once
  | suspended => exact hush_leaveOnPermit later e
  | closing => exact congrArg some (hush_shutTransport later e)
  | reportingClose cause => exact congrArg some (hush_signal once rfl _)
  | markingShut =>
    refine congrArg some (hush_signal ?_ rfl _)
    exact congrArg (fun e => e.modify fun s => { s with isOpen := false }) once
  | unwinding payload => exact congrArg some (hush_signal once rfl _)
  | finishing =>
    exact congrArg (fun e => some ((e.modify fun s =>
      { s with phase := .closed, isOpen := false }).goto .signallingEnd)) once
  | signallingEnd => exact congrArg (fun e => some (e.wakeAll.goto .exited)) once
  | exited => rfl
  | _ => rw [place] at plain; cases plain

theorem hush_conclude (room : Nat) (cause : Option IoFailure) :
    (e.conclude room cause).hush later = (e.hush later).conclude room cause :=
  e.erase_conclude (lawful_hushing later) room cause

theorem hush_receive (bytes : Bytes) :
    (e.receive bytes).hush later = (e.hush later).receive bytes :=
  hush_note later _ rfl

theorem hush_consulted (registration : Registration) (reply : Reply) :
    (e.consulted registration reply).hush later =
      (e.hush later).consulted registration reply := by
  cases stops : reply.stops <;> simp [hush, erase, hushing, consulted, stops, Event.isNoise]

/-- The consumer is shown the same without the noise, and so gives the same reply. -/
theorem hush_consult :
    (e.hush later).consult = (e.consult.1.hush later, e.consult.2) := by
  cases heard : e.shared.registration with
  | none =>
    have unheard (e : Engine Script) (nobody : e.shared.registration = none) :
        e.consult = (e, none) := by
      unfold consult
      rw [nobody]
    rw [unheard e heard, unheard (e.hush later) heard]
  | some registration =>
    obtain ⟨reply, replied⟩ : ∃ reply, registration.consumer.reply
        (e.shared.buffer.filled :: registration.history) = reply := ⟨_, rfl⟩
    cases outcome : reply.panic with
    | none =>
      rw [consult_of_returned heard replied outcome,
        consult_of_returned (e := e.hush later) heard replied outcome, ← hush_consulted]
      rfl
    | some payload =>
      rw [consult_of_panicked heard replied outcome,
        consult_of_panicked (e := e.hush later) heard replied outcome, ← hush_consulted]

/-- A read that has ended is handled in the same way without the noise. -/
theorem hush_complete (room : Nat) (result : Except IoFailure Bytes) :
    ((e.hush later).complete room result).hush [] = (e.complete room result).hush later := by
  have once := hush_hush later e
  match result with
  | .error cause =>
    refine (hush_conclude [] _ room (some cause)).trans
      (Eq.trans ?_ (hush_conclude later _ room (some cause)).symm)
    exact congrArg (fun e : Engine Script =>
      (e.modify fun s => { s with isOpen := e.transport.isOpen }).conclude room (some cause)) once
  | .ok [] =>
    refine (hush_conclude [] _ room none).trans (Eq.trans ?_ (hush_conclude later _ room none).symm)
    exact congrArg (fun e : Engine Script => e.conclude room none) once
  | .ok (b :: bs) =>
    have shown : ((e.hush later).receive (b :: bs)).consult =
        ((e.receive (b :: bs)).consult.1.hush later, (e.receive (b :: bs)).consult.2) := by
      rw [← hush_receive]
      exact hush_consult later _
    simp only [complete, shown]
    obtain ⟨heard, outcome⟩ := (e.receive (b :: bs)).consult
    cases outcome with
    | some payload => exact congrArg (·.goto (.unwinding payload)) (hush_hush later heard)
    | none =>
      rw [hush_conclude, hush_conclude]
      exact congrArg (fun e : Engine Script => e.announceData.conclude room none)
        (hush_hush later heard)

/-- What follows a read, unless it has failed and the transport is still open. -/
theorem hush_settleRead (room : Nat) (handled : Handled)
    (elsewhere : (handled.running && handled.failed && e.transport.isOpen) = false) :
    ((e.hush later).settleRead room handled).hush [] = (e.settleRead room handled).hush later := by
  have once := hush_hush later e
  obtain ⟨running, failed, full⟩ := handled
  cases running with
  | false => exact congrArg (·.goto .closing) once
  | true =>
  cases failed with
  | false =>
    exact hush_of_erased later { e with failures := 0 } fun _ e => e.erase_proceed _ room full
  | true =>
    have closed : e.transport.isOpen = false := elsewhere
    have lost (e : Engine Script) (closed : e.transport.isOpen = false) :
        e.settleRead room ⟨true, true, full⟩ =
          { e with failures := e.failures + 1 }.goto .reportingLoss := by
      unfold settleRead
      dsimp only
      rw [show Transport.isOpen e.transport = false from closed]
      rfl
    rw [lost e closed, lost (e.hush later) closed]
    exact congrArg (·.goto .reportingLoss) once

end

end Engine

end ByteTap
