import ByteTap.Proofs.Engine.Ledger
import ByteTap.Proofs.Transport.Script

/-!
# The stream through the buffer

The room for a read is found when the read is armed, and its bytes go into the buffer much later,
in another section under the lock.  In between callers release bytes and never add any, so the
room is still there (`RoomKept`) and a read that has ended is never cut short.  Hence the buffer
always holds the received stream without the prefix that was released (`Balanced`), and a consumer
is shown exactly that (`stream_integrity`).
-/

namespace ByteTap

namespace Stage

/-- The room at the destination of the read at hand. -/
@[simp] def room? : Stage → Option Nat
  | reportingDrop room | issuing room | reading room | completing room _ => some room
  | _ => none

/-- The bytes of a read that has ended and was not handled yet. -/
@[simp] def inHand : Stage → Bytes
  | completing _ (.ok bytes) => bytes
  | _ => []

end Stage

namespace Buffer

theorem accepted_of_length_le {b : Buffer} {bytes : Bytes} (fits : bytes.length ≤ b.spare) :
    b.accepted bytes = bytes :=
  List.take_of_length_le fits

theorem spare_le_spare_consume (b : Buffer) (n : Nat) : b.spare ≤ (b.consume n).spare := by
  show b.capacity - b.occupied ≤ b.capacity - (b.occupied - b.released n)
  omega

theorem spare_le_spare_reset (b : Buffer) : b.spare ≤ b.reset.spare := by
  show b.capacity - b.occupied ≤ b.capacity - 0
  omega

end Buffer

namespace Engine

variable {τ : Type} {e e' : Engine τ}

/-! ## The room found when a read was armed is still there -/

/-- The room for the read at hand is there, and what the read returned fits into it. -/
structure RoomKept (e : Engine τ) : Prop where
  capacity : e.shared.buffer.capacity = e.settings.capacity.toNat
  room : ∀ room, e.stage.room? = some room → room ≤ e.shared.buffer.spare
  inHand : ∀ room, e.stage.room? = some room → e.stage.inHand.length ≤ room

/-- A read that has ended fits into the buffer, and none of its bytes is cut off. -/
theorem RoomKept.fits {room : Nat} {bytes : Bytes} (kept : RoomKept e)
    (place : e.stage = .completing room (.ok bytes)) : bytes.length ≤ e.shared.buffer.spare := by
  have here : e.stage.room? = some room := by rw [place]; rfl
  have returned : e.stage.inHand.length ≤ room := kept.inHand room here
  rw [place] at returned
  exact Nat.le_trans returned (kept.room room here)

/-- No caller takes room away. -/
theorem RoomKept.call (kept : RoomKept e) (step : CallStep e e') : RoomKept e' := by
  obtain ⟨capacity, room, inHand⟩ := kept
  cases step
  -- Only these two touch the buffer, and both make room.
  case consume i count place =>
    exact ⟨capacity, fun r here => Nat.le_trans (room r here)
      (Buffer.spare_le_spare_consume e.shared.buffer count), inHand⟩
  case reset i place =>
    exact ⟨capacity, fun r here => Nat.le_trans (room r here)
      (Buffer.spare_le_spare_reset e.shared.buffer), inHand⟩
  all_goals exact ⟨capacity, room, inHand⟩

section

variable [Transport τ]

/-- A read that ended holds no more than there was room for. -/
theorem inHand_completing_le (bounded : Transport.Bounded τ) {transport : τ} {room : Nat}
    {result : Except IoFailure Bytes}
    (ended : (Transport.poll transport room).result = some result) :
    (Stage.completing room result).inHand.length ≤ room := by
  cases result with
  | error cause => exact Nat.zero_le room
  | ok bytes => exact bounded transport room bytes ended

/-- A read is armed with the room there is, and a bounded transport keeps to it. -/
theorem RoomKept.worker (bounded : Transport.Bounded τ) (kept : RoomKept e)
    (step : WorkerStep e e') : RoomKept e' := by
  obtain ⟨capacity, room, inHand⟩ := kept
  cases step
  -- The places of one read hand its room on.
  case reportDrop r place =>
    rw [place] at room
    exact ⟨capacity, room, by simp⟩
  case issuePending r polled place unpermitted poll pending =>
    rw [place] at room
    exact ⟨capacity, room, by simp⟩
  case issueEnded r polled result place unpermitted poll ended =>
    rw [place] at room
    refine ⟨capacity, room, ?_⟩
    rintro _ ⟨⟩
    exact inHand_completing_le bounded (poll ▸ ended)
  case readEnded r polled result place unpermitted poll ended =>
    rw [place] at room
    refine ⟨capacity, room, ?_⟩
    rintro _ ⟨⟩
    exact inHand_completing_le bounded (poll ▸ ended)
  -- Every other step arms a read with the room there is, or leaves no read at hand.
  all_goals
    refine ⟨capacity, ?_, ?_⟩ <;> simp

end

/-! ## The buffer holds the stream without what was released -/

/-- The buffer and the counters agree with the ledger. -/
structure Balanced (e : Engine τ) : Prop where
  content : e.shared.buffer.filled = (receivedIn e.trace).drop (releasedIn e.trace)
  received : e.shared.tally.bytesReceived = (receivedIn e.trace).length
  released : e.shared.tally.bytesReleased = releasedIn e.trace
  released_le : releasedIn e.trace ≤ (receivedIn e.trace).length

theorem Balanced.occupied (balanced : Balanced e) :
    e.shared.buffer.occupied + releasedIn e.trace = (receivedIn e.trace).length := by
  have length := congrArg List.length balanced.content
  have le := balanced.released_le
  rw [Buffer.length_filled, List.length_drop] at length
  omega

theorem Balanced.receive {bytes : Bytes} (balanced : Balanced e)
    (fits : bytes.length ≤ e.shared.buffer.spare) : Balanced (e.receive bytes) := by
  have whole : e.shared.buffer.accepted bytes = bytes := Buffer.accepted_of_length_le fits
  have history : (e.receive bytes).trace =
      .received bytes bytes (e.shared.buffer.extend bytes).occupied :: e.trace := by
    show Event.received bytes (e.shared.buffer.accepted bytes) _ :: e.trace = _
    rw [whole]
    rfl
  have grown : receivedIn (e.receive bytes).trace = receivedIn e.trace ++ bytes := by
    rw [history]; rfl
  have same : releasedIn (e.receive bytes).trace = releasedIn e.trace := by
    rw [history]; rfl
  refine ⟨?_, ?_, ?_, ?_⟩
  · show (e.shared.buffer.extend bytes).filled = _
    rw [Buffer.filled_extend, whole, balanced.content, grown, same,
      List.drop_append_of_le_length balanced.released_le]
  · show e.shared.tally.bytesReceived + (e.shared.buffer.accepted bytes).length = _
    rw [whole, balanced.received, grown, List.length_append]
  · rw [same]
    exact balanced.released
  · rw [same, grown, List.length_append]
    exact Nat.le_add_right_of_le balanced.released_le

/-- Bytes leave the front of the buffer, and every account says so. -/
theorem Balanced.release (balanced : Balanced e) (count : Nat)
    (content : e'.shared.buffer.filled = e.shared.buffer.filled.drop count)
    (received : e'.shared.tally.bytesReceived = e.shared.tally.bytesReceived)
    (released : e'.shared.tally.bytesReleased =
      e.shared.tally.bytesReleased + e.shared.buffer.released count)
    (sameReceived : receivedIn e'.trace = receivedIn e.trace)
    (moreReleased : releasedIn e'.trace = releasedIn e.trace + e.shared.buffer.released count) :
    Balanced e' := by
  refine ⟨?_, ?_, ?_, ?_⟩
  · rw [content, ← Buffer.drop_released_filled, balanced.content, List.drop_drop, sameReceived,
      moreReleased]
  · rw [received, sameReceived]
    exact balanced.received
  · rw [released, moreReleased, balanced.released]
  · have occupied := balanced.occupied
    have most : e.shared.buffer.released count ≤ e.shared.buffer.occupied :=
      Nat.min_le_right count e.shared.buffer.occupied
    rw [moreReleased, sameReceived]
    omega

/-- However bytes move in a step, the buffer and the counters go with the ledger. -/
theorem Balanced.transfer (balanced : Balanced e) (kept : RoomKept e) (transfer : Transfer e e') :
    Balanced e' := by
  cases transfer with
  | none buffer received released history =>
    refine balanced.release 0 ?_ received ?_ history.received ?_
    · rw [buffer]; rfl
    · simp [released, Buffer.released]
    · simp [history.released, Buffer.released]
  | emptied event buffer received released told history =>
    have all : e.shared.buffer.released e.shared.buffer.occupied = e.shared.buffer.occupied :=
      Nat.min_self _
    have counted : event.releasedCount = e.shared.buffer.occupied ∧ event.receivedBytes = [] := by
      rcases told with rfl | rfl <;> exact ⟨rfl, rfl⟩
    refine balanced.release e.shared.buffer.occupied ?_ received ?_ ?_ ?_
    · rw [buffer, Buffer.filled_reset, ← Buffer.length_filled, List.drop_length]
    · rw [released, all]
    · rw [history, receivedIn, counted.2, List.append_nil]
    · rw [history, releasedIn, counted.1, all]
  | consumed count buffer received released history =>
    refine balanced.release count ?_ received released ?_ ?_
    · rw [buffer, Buffer.filled_consume]
    · rw [history]; exact List.append_nil _
    · rw [history]; rfl
  | delivered room bytes place nonempty buffer received released history =>
    obtain ⟨content, receivedAll, releasedAll, le⟩ := balanced.receive (kept.fits place)
    rw [← history] at content receivedAll releasedAll le
    exact ⟨buffer ▸ content, received.trans receivedAll, released.trans releasedAll, le⟩
  | shown room bytes number reply place nonempty buffer received released history =>
    have middle := balanced.receive (kept.fits place)
    have told : receivedIn e'.trace = receivedIn (e.receive bytes).trace ∧
        releasedIn e'.trace = releasedIn (e.receive bytes).trace +
          if reply.panic.isSome then 0
          else min reply.amount (e.receive bytes).shared.buffer.filled.length := by
      rw [history]
      cases reply.stops <;> simp
    rw [Buffer.length_filled] at told
    -- a consumer that panics keeps what it was shown in the buffer
    cases panicked : reply.panic.isSome with
    | true =>
      rw [panicked] at buffer released told
      refine middle.release 0 ?_ received ?_ told.1 ?_
      · rw [buffer]; rfl
      · rw [released]; simp [Buffer.released]
      · rw [told.2]; simp [Buffer.released]
    | false =>
      rw [panicked] at buffer released told
      refine middle.release reply.amount ?_ received released told.1 told.2
      rw [buffer]
      exact Buffer.filled_consume _ _

/-- What a consumer was shown: everything received until then and not yet released, which ends
with the read just handled. -/
structure Faithful (capacity : Nat) (call : Invocation) : Prop where
  shown : call.shown = (receivedIn call.older).drop (releasedIn call.older)
  nonempty : call.shown ≠ []
  length_le : call.shown.length ≤ capacity
  newest : ∃ bytes accepted occupied oldest,
    call.older = .received bytes accepted occupied :: oldest ∧ bytes ≠ [] ∧ bytes <:+ call.shown

/-- The consumer is shown the received stream without what was released, the newest bytes last. -/
theorem Balanced.faithful {room : Nat} {bytes : Bytes} (balanced : Balanced e)
    (kept : RoomKept e) (place : e.stage = .completing room (.ok bytes)) (nonempty : bytes ≠ [])
    (reply : Reply) :
    Faithful e.settings.capacity.toNat
      ⟨(e.receive bytes).trace, (e.receive bytes).shared.buffer.filled, reply⟩ := by
  have fits := kept.fits place
  have filled : (e.receive bytes).shared.buffer.filled = e.shared.buffer.filled ++ bytes := by
    show (e.shared.buffer.extend bytes).filled = _
    rw [Buffer.filled_extend, Buffer.accepted_of_length_le fits]
  refine ⟨(balanced.receive fits).content, ?_, ?_, ⟨bytes, _, _, e.trace, rfl, nonempty, ?_⟩⟩
  · rw [filled]
    exact List.append_ne_nil_of_right_ne_nil _ nonempty
  · rw [Buffer.length_filled, ← kept.capacity]
    exact (e.receive bytes).shared.buffer.occupied_le_capacity
  · rw [filled]
    exact List.suffix_append _ bytes

/-- A step calls a consumer faithfully, if it calls one. -/
theorem Transfer.faithful (balanced : Balanced e) (kept : RoomKept e) (transfer : Transfer e e')
    {call : Invocation} (called : call ∈ invocations e'.trace) :
    call ∈ invocations e.trace ∨ Faithful e.settings.capacity.toNat call := by
  cases transfer with
  | none buffer received released history => exact .inl (history.invocations ▸ called)
  | emptied event buffer received released told history =>
    rw [history] at called
    rcases told with rfl | rfl <;> exact .inl called
  | consumed count buffer received released history =>
    rw [history] at called
    exact .inl called
  | delivered room bytes place nonempty buffer received released history =>
    rw [history] at called
    exact .inl called
  | shown room bytes number reply place nonempty buffer received released history =>
    have told : invocations e'.trace =
        ⟨(e.receive bytes).trace, (e.receive bytes).shared.buffer.filled, reply⟩ ::
          invocations e.trace := by
      rw [history]
      cases reply.stops <;> rfl
    rw [told] at called
    rcases List.mem_cons.1 called with rfl | older
    · exact .inr (balanced.faithful kept place nonempty reply)
    · exact .inl older

/-! ## Every byte that a read returned is in the stream or in hand -/

section

variable [Transport τ]

theorem returnedIn_ended (result : Except IoFailure Bytes) (notes : List String)
    (older : List Event) :
    returnedIn (.ended result :: ((notes.map Event.noted).reverse ++ older)) =
      returnedIn older ++ Script.endedBytes result := by
  cases result <;> simp

/-- The worker has handled what reads returned, but for what it still has in hand. -/
theorem WorkerStep.returned (step : WorkerStep e e')
    (returned : returnedIn e.trace = receivedIn e.trace ++ e.stage.inHand) :
    returnedIn e'.trace = receivedIn e'.trace ++ e'.stage.inHand := by
  cases step
  -- A read that ends is in hand from then on, unless it failed.
  case issueEnded result place _ _ _ =>
    rw [place] at returned
    cases result <;> simp [returned]
  case readEnded result place _ _ _ =>
    rw [place] at returned
    cases result <;> simp [returned]
  -- A handled read goes from the hand into the stream, whatever the consumer says to it.
  case completeHeard reply place _ _ _ _ =>
    rw [place] at returned
    cases reply.stops <;> simp [returned]
  case completePanicked reply _ place _ _ _ _ =>
    rw [place] at returned
    cases reply.stops <;> simp [returned]
  all_goals
    have place := ‹e.stage = _›
    rw [place] at returned
    simpa using returned

omit [Transport τ] in
theorem CallStep.returned (step : CallStep e e')
    (returned : returnedIn e.trace = receivedIn e.trace ++ e.stage.inHand) :
    returnedIn e'.trace = receivedIn e'.trace ++ e'.stage.inHand := by
  cases step <;> simpa

/-! ## Stream integrity -/

/-- What every step keeps: the room, the accounts and what consumers were shown. -/
structure StreamKept (e : Engine τ) : Prop where
  room : RoomKept e
  balanced : Balanced e
  returned : returnedIn e.trace = receivedIn e.trace ++ e.stage.inHand
  faithful : ∀ call ∈ invocations e.trace, Faithful e.settings.capacity.toNat call

omit [Transport τ] in
theorem StreamKept.transfer (kept : StreamKept e) (transfer : Transfer e e')
    (settings : e'.settings = e.settings) (room : RoomKept e')
    (returned : returnedIn e'.trace = receivedIn e'.trace ++ e'.stage.inHand) :
    StreamKept e' := by
  refine ⟨room, kept.balanced.transfer kept.room transfer, returned, ?_⟩
  intro call called
  rw [settings]
  rcases transfer.faithful kept.balanced kept.room called with older | faithful
  · exact kept.faithful call older
  · exact faithful

theorem StreamKept.started {settings : Settings} {transport : τ} {consumer : Option Consumer}
    (spawned : spawn settings transport consumer = .ok e) : StreamKept e := by
  obtain ⟨-, -, registration, registrations, rfl⟩ := spawn_eq_ok spawned
  refine ⟨⟨rfl, ?_, ?_⟩, ⟨rfl, rfl, rfl, Nat.le_refl 0⟩, rfl, ?_⟩
  · rintro _ ⟨⟩
  · rintro _ ⟨⟩
  · rintro _ ⟨⟩

theorem Reachable.streamKept (bounded : Transport.Bounded τ) {arrives : τ → τ → Prop}
    (reachable : Reachable arrives e) : StreamKept e := by
  refine reachable.invariant .started ?_ ?_ ?_
  · intro e e' kept step
    exact kept.transfer step.transfer step.settings_same (kept.room.worker bounded step)
      (step.returned kept.returned)
  · intro e e' kept step
    exact kept.transfer step.transfer step.same_worker.settings (kept.room.call step)
      (step.returned kept.returned)
  · intro e transport kept _
    exact ⟨⟨kept.room.capacity, kept.room.room, kept.room.inHand⟩,
      ⟨kept.balanced.content, kept.balanced.received, kept.balanced.released,
        kept.balanced.released_le⟩, kept.returned, kept.faithful⟩

/-- No byte of the stream is lost, doubled or out of order. -/
structure Intact (e : Engine τ) : Prop where
  /-- The buffer holds what was received, without the prefix that the counter says was released. -/
  content : e.shared.buffer.filled = (receivedIn e.trace).drop e.shared.tally.bytesReleased
  received : e.shared.tally.bytesReceived = (receivedIn e.trace).length
  released : e.shared.tally.bytesReleased = releasedIn e.trace
  /-- The bytes of all reads that ended are received, but for those of the read at hand. -/
  returned : returnedIn e.trace = receivedIn e.trace ++ e.stage.inHand
  /-- A read that has ended will not be cut short. -/
  whole : ∀ room bytes, e.stage = .completing room (.ok bytes) →
    e.shared.buffer.accepted bytes = bytes
  shown : ∀ call ∈ invocations e.trace, Faithful e.settings.capacity.toNat call

/-- Whatever the consumers do and in whatever order the threads take their turns, the stream goes
through the buffer intact. -/
theorem stream_integrity (bounded : Transport.Bounded τ) {arrives : τ → τ → Prop}
    (reachable : Reachable arrives e) : Intact e := by
  obtain ⟨room, balanced, returned, faithful⟩ := reachable.streamKept bounded
  refine ⟨?_, balanced.received, balanced.released, returned, ?_, faithful⟩
  · rw [balanced.released]
    exact balanced.content
  · intro r bytes place
    exact Buffer.accepted_of_length_le (room.fits place)

end

/-- Three bytes for a buffer of two cells, and a consumer that is done with one byte a call. -/
theorem stream_integrity_of_split_data :
    ∃ e : Engine Script,
      spawn { capacity := 2 } { steps := [.data [1, 2, 3]] }
        (some (Consumer.ofAmount fun _ => 1)) = .ok e ∧
      (e.run (List.replicate 8 .worker)).shared.buffer.filled = [3] ∧
      (invocations (e.run (List.replicate 8 .worker)).trace).map Invocation.shown =
        [[2, 3], [1, 2]] ∧
      Intact (e.run (List.replicate 8 .worker)) := by
  have started : Reachable (fun _ _ : Script => False) _ :=
    .started { capacity := 2 } { steps := [.data [1, 2, 3]] } (some (.ofAmount fun _ => 1)) rfl
  refine ⟨_, rfl, by decide, by decide, ?_⟩
  exact stream_integrity Script.bounded (started.steps (steps_run _ _))

end Engine

end ByteTap
