import ByteTap.Proofs.Engine.WorkerStep

/-!
# Engines with something taken away

Two runs are compared by what is left of their engines when something is taken away from both.  What
an `Eraser` takes away decides nothing: under the lock, and in what follows a read, the worker does
the same to what is left.
-/

namespace ByteTap

/-- What is taken away from an engine. -/
structure Eraser (τ : Type) where
  /-- The events that are left in the history. -/
  keeps : Event → Bool
  tally : Tally → Tally := id
  registration : Option Registration → Option Registration := id
  registrations : Nat → Nat := id
  transport : τ → τ := id
  failures : Nat → Nat := id
  calls : List Call → List Call := id

namespace Eraser

variable {τ : Type}

/-- What the worker does without reading is done to what is left as well. -/
structure Lawful (k : Eraser τ) : Prop where
  discarded : ∀ count, k.keeps (.discarded count) = true
  tally : ∀ (t : Tally) (count : Nat),
    k.tally
      { t with
        exhaustionEvents := t.exhaustionEvents + 1
        bytesReleased := t.bytesReleased + count } =
      { k.tally t with
        exhaustionEvents := (k.tally t).exhaustionEvents + 1
        bytesReleased := (k.tally t).bytesReleased + count }
  calls : ∀ calls : List Call, k.calls (calls.map Call.wake) = (k.calls calls).map Call.wake

end Eraser

namespace Engine

variable {τ : Type}

/-- What is left of the engine. -/
def erase (k : Eraser τ) (e : Engine τ) : Engine τ :=
  { e with
    shared :=
      { e.shared with
        registration := k.registration e.shared.registration
        tally := k.tally e.shared.tally }
    transport := k.transport e.transport
    failures := k.failures e.failures
    calls := k.calls e.calls
    registrations := k.registrations e.registrations
    trace := e.trace.filter k.keeps }

section

variable (k : Eraser τ) (e : Engine τ)

theorem erase_note {event : Event} (kept : k.keeps event = true) :
    (e.note event).erase k = (e.erase k).note event := by
  simp [erase, note, kept]

theorem erase_note_of_dropped {event : Event} (dropped : k.keeps event = false) :
    (e.note event).erase k = e.erase k := by
  simp [erase, note, dropped]

@[simp] theorem erase_goto (stage : Stage) : (e.goto stage).erase k = (e.erase k).goto stage := rfl

theorem erase_proceed (room : Nat) (full : Bool) :
    (e.proceed room full).erase k = (e.erase k).proceed room full := by
  show erase k (if room == 0 && full && e.settings.policy == .stall then
    if e.exhaustionReported then _ else _ else _) =
      if room == 0 && full && e.settings.policy == .stall then
        if e.exhaustionReported then _ else _ else _
  split
  · split <;> rfl
  · rfl

theorem erase_leaveOnPermit : (e.erase k).leaveOnPermit = e.leaveOnPermit.map (erase k) := by
  show (if e.shutdownPermit then _ else _) =
    Option.map (erase k) (if e.shutdownPermit then _ else _)
  split <;> rfl

variable {k} (lawful : k.Lawful)
include lawful

theorem erase_wakeAll : e.wakeAll.erase k = (e.erase k).wakeAll :=
  congrArg (fun calls => { e.erase k with calls }) (lawful.calls e.calls)

theorem erase_applyStopRequest :
    e.applyStopRequest.erase k = (e.erase k).applyStopRequest := by
  show erase k (if e.stopRequested && e.shared.phase == .running then _ else e) =
    if e.stopRequested && e.shared.phase == .running then _ else e.erase k
  split
  · exact erase_wakeAll _ lawful
  · rfl

theorem erase_discardAll : e.discardAll.erase k = (e.erase k).discardAll := by
  unfold discardAll
  rw [erase_note k _ (lawful.discarded _)]
  refine congrArg (fun tally => Engine.note { e.erase k with
    shared := { (e.erase k).shared with buffer := e.shared.buffer.reset, tally } } _) ?_
  exact lawful.tally e.shared.tally e.shared.buffer.occupied

/-- Arming a read commutes with erasing, whichever way it goes. -/
theorem erase_arm : e.arm.erase k = (e.erase k).arm := by
  unfold arm
  rw [← erase_applyStopRequest _ lawful]
  generalize e.applyStopRequest = e
  dsimp only
  show erase k (if e.shared.phase != .running then _ else _) =
    if e.shared.phase != .running then _ else _
  split
  · rfl
  show erase k (if !e.shared.buffer.isFull then _ else _) =
    if !e.shared.buffer.isFull then _ else _
  split
  · rfl
  have policy : (e.erase k).settings.policy = e.settings.policy := rfl
  rw [policy]
  cases e.settings.policy with
  | stall => rfl
  | discard =>
    refine (erase_goto k e.discardAll _).trans ?_
    rw [erase_discardAll _ lawful]
    rfl

theorem erase_conclude (room : Nat) (cause : Option IoFailure) :
    (e.conclude room cause).erase k = (e.erase k).conclude room cause := by
  unfold conclude
  rw [← erase_applyStopRequest _ lawful]
  cases cause <;> rfl

end

end Engine

end ByteTap
