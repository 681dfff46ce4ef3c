import ByteTap.Proofs.Engine.Lifecycle
import ByteTap.Proofs.Transport.Script
import Mathlib.Logic.Basic

/-!
# No room is missed and no data are left behind

A worker that has found the buffer full stalls much later.  Whoever makes room meanwhile owes it a
permit to look again, so that until it has looked the buffer is full, or the permit is there, or
it is owed (`RoomWatched`).  A permit that was stored too early only makes the worker look once
more.  After a failed read the engine knows whether the transport is open, and the worker suspends
itself only when it is not (`LossKnown`).  What is left are two ways to rest in a running engine
(`rest_of_running`), and over a scripted transport neither leaves data behind
(`no_data_left_behind`).
-/

namespace ByteTap

namespace Stage

/-- The worker has found the buffer full and keeps that in mind. -/
def expectsFull : Stage → Bool
  | settling _ handled | reportingFailure _ _ handled => handled.full
  | backingOff _ _ full => full
  | recordingFull | reportingFull | stalled => true
  | _ => false

/-- A place that only the policy to stall leads to. -/
def stalls : Stage → Bool
  | recordingFull | reportingFull | stalled | rechecking => true
  | _ => false

/-- The worker has a failed read in mind. -/
def afterFailure : Stage → Bool
  | settling _ handled | reportingFailure _ _ handled => handled.failed
  | _ => false

/-- The worker has found the transport gone. -/
def afterLoss : Stage → Bool
  | reportingLoss | signallingLoss | suspended => true
  | _ => false

end Stage

theorem Buffer.isFull_consume_of_nothing {b : Buffer} {n : Nat} (nothing : b.released n = 0) :
    (b.consume n).isFull = b.isFull := by
  show (b.occupied - b.released n == b.capacity) = (b.occupied == b.capacity)
  rw [nothing, Nat.sub_zero]

namespace Engine

variable {τ : Type} {arrives : τ → τ → Prop} {e e' : Engine τ}

/-! ## Room is not missed -/

/-- A caller has released bytes and still owes the worker the permit to look for room. -/
def OwesSpace (e : Engine τ) : Prop :=
  ∃ (i : Nat) (call : Call), e.calls[i]? = some call ∧ call.owesSpace = true

/-- A permit to look for room that is owed is still owed, or it is there. -/
theorem OwesSpace.move (owed : e.OwesSpace) (move : CallsMove e e') :
    e'.spacePermit = true ∨ e'.OwesSpace := by
  obtain ⟨i, call, place, owes⟩ := owed
  obtain ⟨call', place', moved⟩ := move place
  rcases moved.owesSpace owes with owes' | permit
  · exact .inr ⟨i, call', place', owes'⟩
  · exact .inl permit

/-- Whoever releases bytes owes the permit. -/
theorem CallStep.owesSpace_or_keeps (step : CallStep e e') :
    e'.OwesSpace ∨ e'.shared.buffer.isFull = e.shared.buffer.isFull ∧
      (e.spacePermit = true → e'.spacePermit = true) := by
  cases step
  case consume i count place =>
    by_cases nothing : e.shared.buffer.released count = 0
    · exact .inr ⟨Buffer.isFull_consume_of_nothing nothing, id⟩
    · have inside : i < e.calls.length := (List.getElem?_eq_some_iff.1 place).1
      refine .inl ⟨i, _, List.getElem?_set_self inside, ?_⟩
      rw [if_neg nothing]
      rfl
  case reset i place =>
    have inside : i < e.calls.length := (List.getElem?_eq_some_iff.1 place).1
    exact .inl ⟨i, _, List.getElem?_set_self inside, rfl⟩
  case permitSpace => exact .inr ⟨rfl, fun _ => rfl⟩
  all_goals exact .inr ⟨rfl, id⟩

/-- A worker that expects the buffer to be full has just seen that it is, or it expected that
before and has not looked. -/
theorem WorkerStep.full_or_keeps [Transport τ] (step : WorkerStep e e') :
    (e'.stage.expectsFull = true → e'.shared.buffer.isFull = true) ∨
      e.stage.expectsFull = true ∧ e'.shared.buffer = e.shared.buffer ∧
        e'.spacePermit = e.spacePermit := by
  cases step
  case completeFailed => exact .inl id
  case completeEmpty => exact .inl id
  case completeUnheard => exact .inl id
  case completeHeard => exact .inl id
  case reportFailure handled place =>
    cases full : handled.full with
    | false => exact .inl (by simp [Stage.expectsFull, full])
    | true => exact .inr ⟨by simp [place, Stage.expectsFull, full], rfl, rfl⟩
  case settleFailed handled place _ _ _ =>
    cases full : handled.full with
    | false => exact .inl (by simp [Stage.expectsFull])
    | true => exact .inr ⟨by simp [place, Stage.expectsFull, full], rfl, rfl⟩
  case recheckFull full => exact .inl fun _ => full
  -- Of the others, some lead away from the stall and the rest change neither buffer nor permit.
  all_goals first
    | refine .inl ?_
      rintro ⟨⟩
      done
    | refine .inr ⟨?_, rfl, rfl⟩
      simp_all [Stage.expectsFull]

/-- A buffer that the worker believes to be full is full, unless it will be told otherwise. -/
structure RoomWatched (e : Engine τ) : Prop where
  full : e.stage.expectsFull = true →
    e.shared.buffer.isFull = true ∨ e.spacePermit = true ∨ e.OwesSpace
  policy : e.stage.stalls = true → e.settings.policy = .stall

/-- The worker has just seen the full buffer, or still goes by what it believed. -/
theorem RoomWatched.worker [Transport τ] (watched : RoomWatched e) (step : WorkerStep e e') :
    RoomWatched e' := by
  refine ⟨?_, ?_⟩
  · intro expects
    -- The worker owes itself nothing: what a caller owed before the step, it owes after it.
    rcases step.full_or_keeps with seen | ⟨expected, buffer, permit⟩
    · exact .inl (seen expects)
    · rcases watched.full expected with full | permitted | owed
      · exact .inl (by rw [buffer, full])
      · exact .inr (.inl (permit.trans permitted))
      · exact .inr (owed.move step.move)
  · have policy := watched.policy
    rw [step.settings_same]
    cases step <;> simp_all [Stage.stalls]

/-- Whoever makes room owes the permit. -/
theorem RoomWatched.call (watched : RoomWatched e) (step : CallStep e e') : RoomWatched e' := by
  obtain ⟨stage, -, settings, -, -⟩ := step.same_worker
  refine ⟨?_, ?_⟩
  · intro expects
    rcases step.owesSpace_or_keeps with owed | ⟨same, permit⟩
    · exact .inr (.inr owed)
    · rcases watched.full (stage ▸ expects) with full | permitted | owed
      · exact .inl (same.trans full)
      · exact .inr (.inl (permit permitted))
      · exact .inr (owed.move step.move)
  · rw [stage, settings]
    exact watched.policy

theorem Reachable.roomWatched [Transport τ] (reachable : Reachable arrives e) :
    RoomWatched e := by
  refine reachable.invariant ?_ RoomWatched.worker RoomWatched.call ?_
  · intro settings transport consumer e spawned
    obtain ⟨-, -, registration, registrations, rfl⟩ := spawn_eq_ok spawned
    exact ⟨by rintro ⟨⟩, by rintro ⟨⟩⟩
  · intro e transport watched _
    exact ⟨watched.full, watched.policy⟩

/-! ## The loss of the transport is noticed -/

section

variable [Transport τ]

/-- What the engine knows of the transport after a failed read. -/
structure LossKnown (e : Engine τ) : Prop where
  known : e.stage.afterFailure = true → e.shared.isOpen = Transport.isOpen e.transport
  lost : e.stage.afterLoss = true →
    Transport.isOpen e.transport = false ∧ e.shared.isOpen = false

/-- With the lock in hand after a failed read, the worker notes whether the transport is there. -/
theorem LossKnown.worker (known : LossKnown e) (step : WorkerStep e e') : LossKnown e' := by
  obtain ⟨known, lost⟩ := known
  refine ⟨?_, ?_⟩
  · cases step <;> simp_all [Stage.afterFailure]
  · cases step <;> simp_all [Stage.afterFailure, Stage.afterLoss]

theorem LossKnown.call (known : LossKnown e) (step : CallStep e e') : LossKnown e' := by
  obtain ⟨known, lost⟩ := known
  cases step <;> exact ⟨known, lost⟩

/-- So what the engine knows of the transport after a failed read is right, as long as what arrives
neither opens nor closes it. -/
theorem Reachable.lossKnown
    (keeps : ∀ transport transport' : τ, arrives transport transport' →
      Transport.isOpen transport' = Transport.isOpen transport)
    (reachable : Reachable arrives e) : LossKnown e := by
  refine reachable.invariant ?_ LossKnown.worker LossKnown.call ?_
  · intro settings transport consumer e spawned
    obtain ⟨-, -, registration, registrations, rfl⟩ := spawn_eq_ok spawned
    exact ⟨by rintro ⟨⟩, by rintro ⟨⟩⟩
  · intro e transport known arrived
    have same := keeps e.transport transport arrived
    refine ⟨?_, ?_⟩
    · intro failed
      exact (known.known failed).trans same.symm
    · intro lost
      exact ⟨same.trans (known.lost lost).1, (known.lost lost).2⟩

/-! ## Where a running engine rests -/

/-- While the engine runs and the transport is open, the worker rests in a pending read or stalls on
a buffer that is full. -/
theorem rest_of_running
    (keeps : ∀ transport transport' : τ, arrives transport transport' →
      Transport.isOpen transport' = Transport.isOpen transport)
    (reachable : Reachable arrives e)
    (rest : e.next .worker = none) (untimed : e.next .timer = none)
    (settled : ∀ call ∈ e.calls, call.owesSpace = false)
    (running : e.shared.phase = .running)
    (isOpen : Transport.isOpen e.transport = true ∨ e.shared.isOpen = true) :
    (∃ room, e.stage = .reading room ∧ (Transport.poll e.transport room).result = none) ∨
      e.settings.policy = .stall ∧ e.shared.buffer.isFull = true ∧ e.stage = .stalled := by
  cases work_eq_none_iff.1 rest with
  | @reading room place unpermitted pending => exact .inl ⟨room, place, pending⟩
  | backingOff place unpermitted => simp [next, wakeFromBackoff, place] at untimed
  | stalled place unpermitted spaceless =>
    -- nobody owes the permit and it is not there, so the buffer is full
    have watched := reachable.roomWatched
    refine .inr ⟨watched.policy (by rw [place]; rfl), ?_, place⟩
    rcases watched.full (by rw [place]; rfl) with full | permitted | ⟨i, call, here, owes⟩
    · exact full
    · rw [spaceless] at permitted
      cases permitted
    · rw [settled call (List.mem_of_getElem? here)] at owes
      cases owes
  | suspended place unpermitted =>
    obtain ⟨closed, noted⟩ := (reachable.lossKnown keeps).lost (by rw [place]; rfl)
    rcases isOpen with isOpen | isOpen
    · rw [closed] at isOpen
      cases isOpen
    · rw [noted] at isOpen
      cases isOpen
  | exited place =>
    have closed := reachable.placed.closed_iff.2 (by rw [place]; rfl)
    rw [running] at closed
    cases closed

end

/-! ## Over a scripted transport -/

/-- Whatever is pushed and released in whatever order: a running engine over an open scripted
transport rests only where everything pushed was read, or where it stalls on a full buffer. -/
theorem no_data_left_behind {e : Engine Script} (reachable : Reachable Script.Pushed e)
    (rest : e.next .worker = none) (untimed : e.next .timer = none)
    (settled : ∀ call ∈ e.calls, call.owesSpace = false)
    (running : e.shared.phase = .running)
    (isOpen : e.transport.isOpen = true ∨ e.shared.isOpen = true) :
    Xor
      (e.transport.steps = [] ∧ e.transport.leftover = [] ∧
        ∃ room, e.stage = .reading room ∧ 1 ≤ room)
      (e.settings.policy = .stall ∧ e.shared.buffer.isFull = true ∧ e.stage = .stalled) := by
  have rests := rest_of_running (fun _ _ => Script.Pushed.isOpen) reachable rest untimed settled
    running isOpen
  rcases rests with ⟨room, place, pending⟩ | ⟨policy, full, place⟩
  · obtain ⟨steps, leftover, somewhere⟩ := Script.poll_pending pending
    refine .inl ⟨⟨steps, leftover, room, place, somewhere⟩, ?_⟩
    rintro ⟨-, -, stalled⟩
    cases place.symm.trans stalled
  · refine .inr ⟨⟨policy, full, place⟩, ?_⟩
    rintro ⟨-, -, room, reading, -⟩
    cases place.symm.trans reading

/-- The worker stalls, is told of room, fills it up and stalls again. -/
theorem no_data_left_behind_of_second_stall :
    ∃ start stalled : Engine Script,
      spawn { capacity := 2 } { steps := [.data [1, 2, 3, 4]] } none = .ok start ∧
      stalled = start.run (List.replicate 11 .worker ++ .enter (.consume 1) :: .call 0 :: .call 0 ::
        List.replicate 13 .worker) ∧
      stalled.shared.buffer.filled = [2, 3] ∧
      Xor
        (stalled.transport.steps = [] ∧ stalled.transport.leftover = [] ∧
          ∃ room, stalled.stage = .reading room ∧ 1 ≤ room)
        (stalled.settings.policy = .stall ∧ stalled.shared.buffer.isFull = true ∧
          stalled.stage = .stalled) := by
  have started : Reachable Script.Pushed _ :=
    .started { capacity := 2 } { steps := [.data [1, 2, 3, 4]] } none rfl
  have stalled := started.steps (steps_run _ (List.replicate 11 .worker ++
    .enter (.consume 1) :: .call 0 :: .call 0 :: List.replicate 13 .worker))
  refine ⟨_, _, rfl, rfl, rfl, no_data_left_behind stalled rfl rfl ?_ rfl (.inl rfl)⟩
  intro call among
  obtain rfl : call = .returned (.released 1) := List.mem_singleton.1 among
  rfl

end Engine

end ByteTap
