import ByteTap.Proofs.Buffer
import ByteTap.Proofs.Engine.Reachable

/-!
# The ledger of bytes

The history of an engine tells which bytes were received, how many left the buffer again, and what
each call of a consumer was shown: `receivedIn`, `releasedIn` and `invocations`.  Few steps write
into this ledger; `Transfer` lists them, with what they do to the buffer and to the counters, and
`Step.transfer` says that every other step moves no bytes at all.
-/

namespace ByteTap

namespace Event

/-- The bytes of the read that was handled. -/
@[simp] def receivedBytes : Event → Bytes
  | received bytes _ _ => bytes
  | _ => []

/-- The bytes with which a read ended. -/
@[simp] def returnedBytes : Event → Bytes
  | ended (.ok bytes) => bytes
  | _ => []

/-- How many bytes left the buffer.  A consumer that panics releases nothing, and none releases
more than it was shown. -/
@[simp] def releasedCount : Event → Nat
  | consumed count | emptied count | discarded count => count
  | called _ shown reply => if reply.panic.isSome then 0 else min reply.amount shown.length
  | _ => 0

end Event

/-- A call of a consumer, with everything that had happened before it. -/
structure Invocation where
  older : List Event
  shown : Bytes
  reply : Reply

/-! ## Sums over a history

A history is newest first. -/

/-- The bytes of every handled read, in order. -/
@[simp] def receivedIn : List Event → Bytes
  | [] => []
  | event :: older => receivedIn older ++ event.receivedBytes

/-- The bytes of every read that ended well, in order. -/
@[simp] def returnedIn : List Event → Bytes
  | [] => []
  | event :: older => returnedIn older ++ event.returnedBytes

/-- How many bytes left the buffer. -/
@[simp] def releasedIn : List Event → Nat
  | [] => 0
  | event :: older => releasedIn older + event.releasedCount

/-- The calls of consumers, newest first. -/
@[simp] def invocations : List Event → List Invocation
  | [] => []
  | .called _ shown reply :: older => ⟨older, shown, reply⟩ :: invocations older
  | _ :: older => invocations older

/-- The room of every read that was issued, newest first. -/
@[simp] def issuedRooms : List Event → List Nat
  | [] => []
  | .issued room :: older => room :: issuedRooms older
  | _ :: older => issuedRooms older

/-- The bytes of every read that went into the buffer, newest first. -/
@[simp] def deliveries : List Event → List Bytes
  | [] => []
  | .received bytes _ _ :: older => bytes :: deliveries older
  | _ :: older => deliveries older

/-- How many bytes were dropped each time the full buffer was, newest first. -/
@[simp] def discards : List Event → List Nat
  | [] => []
  | .discarded count :: older => count :: discards older
  | _ :: older => discards older

/-- What no note of a transport changes, no list of notes changes. -/
theorem eq_of_noted {α : Type} {f : List Event → α}
    (unchanged : ∀ text older, f (.noted text :: older) = f older) (notes : List String)
    (older : List Event) : f ((notes.map Event.noted).reverse ++ older) = f older := by
  induction notes generalizing older with
  | nil => rfl
  | cons note notes ih =>
    rw [List.map_cons, List.reverse_cons, List.append_assoc, ih]
    exact unchanged note older

@[simp] theorem receivedIn_noted (notes : List String) (older : List Event) :
    receivedIn ((notes.map Event.noted).reverse ++ older) = receivedIn older :=
  eq_of_noted (fun _ older => List.append_nil (receivedIn older)) notes older

@[simp] theorem returnedIn_noted (notes : List String) (older : List Event) :
    returnedIn ((notes.map Event.noted).reverse ++ older) = returnedIn older :=
  eq_of_noted (fun _ older => List.append_nil (returnedIn older)) notes older

@[simp] theorem releasedIn_noted (notes : List String) (older : List Event) :
    releasedIn ((notes.map Event.noted).reverse ++ older) = releasedIn older :=
  eq_of_noted (fun _ _ => rfl) notes older

@[simp] theorem invocations_noted (notes : List String) (older : List Event) :
    invocations ((notes.map Event.noted).reverse ++ older) = invocations older :=
  eq_of_noted (fun _ _ => rfl) notes older

@[simp] theorem issuedRooms_noted (notes : List String) (older : List Event) :
    issuedRooms ((notes.map Event.noted).reverse ++ older) = issuedRooms older :=
  eq_of_noted (fun _ _ => rfl) notes older

@[simp] theorem deliveries_noted (notes : List String) (older : List Event) :
    deliveries ((notes.map Event.noted).reverse ++ older) = deliveries older :=
  eq_of_noted (fun _ _ => rfl) notes older

@[simp] theorem discards_noted (notes : List String) (older : List Event) :
    discards ((notes.map Event.noted).reverse ++ older) = discards older :=
  eq_of_noted (fun _ _ => rfl) notes older

@[simp] theorem returnedIn_asked (asked : Bool) (older : List Event) :
    returnedIn ((if asked then [.stopAsked] else []) ++ older) = returnedIn older := by
  cases asked <;> simp

@[simp] theorem issuedRooms_asked (asked : Bool) (older : List Event) :
    issuedRooms ((if asked then [.stopAsked] else []) ++ older) = issuedRooms older := by
  cases asked <;> rfl

/-- Two histories with the same bytes received and released and the same calls of consumers. -/
structure SameBytes (older newer : List Event) : Prop where
  received : receivedIn newer = receivedIn older
  released : releasedIn newer = releasedIn older
  invocations : invocations newer = ByteTap.invocations older

theorem SameBytes.refl (history : List Event) : SameBytes history history := ⟨rfl, rfl, rfl⟩

namespace Engine

variable {τ : Type} {e e' : Engine τ}

/-- How one step moves bytes. -/
inductive Transfer (e e' : Engine τ) : Prop
  | none (buffer : e'.shared.buffer = e.shared.buffer)
      (received : e'.shared.tally.bytesReceived = e.shared.tally.bytesReceived)
      (released : e'.shared.tally.bytesReleased = e.shared.tally.bytesReleased)
      (history : SameBytes e.trace e'.trace)
  | emptied (event : Event) (buffer : e'.shared.buffer = e.shared.buffer.reset)
      (received : e'.shared.tally.bytesReceived = e.shared.tally.bytesReceived)
      (released : e'.shared.tally.bytesReleased =
        e.shared.tally.bytesReleased + e.shared.buffer.occupied)
      (told : event = .discarded e.shared.buffer.occupied ∨
        event = .emptied e.shared.buffer.occupied)
      (history : e'.trace = event :: e.trace)
  | consumed (count : Nat) (buffer : e'.shared.buffer = e.shared.buffer.consume count)
      (received : e'.shared.tally.bytesReceived = e.shared.tally.bytesReceived)
      (released : e'.shared.tally.bytesReleased =
        e.shared.tally.bytesReleased + e.shared.buffer.released count)
      (history : e'.trace = .consumed (e.shared.buffer.released count) :: e.trace)
  | delivered (room : Nat) (bytes : Bytes) (place : e.stage = .completing room (.ok bytes))
      (nonempty : bytes ≠ []) (buffer : e'.shared.buffer = (e.receive bytes).shared.buffer)
      (received : e'.shared.tally.bytesReceived = (e.receive bytes).shared.tally.bytesReceived)
      (released : e'.shared.tally.bytesReleased = (e.receive bytes).shared.tally.bytesReleased)
      (history : e'.trace = (e.receive bytes).trace)
  | shown (room : Nat) (bytes : Bytes) (number : Nat) (reply : Reply)
      (place : e.stage = .completing room (.ok bytes)) (nonempty : bytes ≠ [])
      (buffer : e'.shared.buffer =
        if reply.panic.isSome then (e.receive bytes).shared.buffer
        else (e.receive bytes).shared.buffer.consume reply.amount)
      (received : e'.shared.tally.bytesReceived = (e.receive bytes).shared.tally.bytesReceived)
      (released : e'.shared.tally.bytesReleased =
        (e.receive bytes).shared.tally.bytesReleased +
          if reply.panic.isSome then 0
          else (e.receive bytes).shared.buffer.released reply.amount)
      (history : e'.trace = (if reply.stops then [.stopAsked] else []) ++
        .called number (e.receive bytes).shared.buffer.filled reply :: (e.receive bytes).trace)

/-- A call releases bytes at the front of the buffer, or none. -/
theorem CallStep.transfer (step : CallStep e e') : Transfer e e' := by
  cases step
  case consume => exact .consumed _ rfl rfl rfl rfl
  case reset => exact .emptied _ rfl rfl rfl (.inr rfl) rfl
  case announceStop => exact .none rfl rfl rfl ⟨by simp, rfl, rfl⟩
  case install => exact .none rfl rfl rfl ⟨by simp, rfl, rfl⟩
  all_goals exact .none rfl rfl rfl (.refl _)

/-- The worker brings bytes, shows them and drops them in the ways that the ledger knows. -/
theorem WorkerStep.transfer [Transport τ] (step : WorkerStep e e') : Transfer e e' := by
  cases step
  case armDiscard => exact .emptied _ rfl rfl rfl (.inl rfl) rfl
  case completeUnheard room bytes place nonempty nobody =>
    exact .delivered room bytes place nonempty rfl rfl rfl rfl
  case completeHeard room bytes registration reply place nonempty heard replied returned =>
    refine .shown room bytes registration.number reply place nonempty ?_ rfl ?_ rfl <;>
      rw [returned] <;> rfl
  case completePanicked room bytes registration reply payload place nonempty heard replied
      panicked =>
    refine .shown room bytes registration.number reply place nonempty ?_ rfl ?_ rfl <;>
      rw [panicked] <;> rfl
  all_goals
    refine .none rfl rfl rfl ⟨?_, ?_, ?_⟩ <;> simp

/-- Every step but those of the list moves no bytes. -/
theorem Step.transfer [Transport τ] {arrives : τ → τ → Prop} (step : Step arrives e e') :
    Transfer e e' := by
  rcases step.cases with step | step | ⟨transport, -, rfl⟩
  · exact step.transfer
  · exact step.transfer
  · exact .none rfl rfl rfl (.refl _)

/-! ## While nothing is delivered -/

/-- From `e` to `e'` that many bytes left the front of the buffer, and none came. -/
structure Released (e e' : Engine τ) (count : Nat) : Prop where
  content : e'.shared.buffer.filled = e.shared.buffer.filled.drop count
  counted : e'.shared.tally.bytesReleased = e.shared.tally.bytesReleased + count
  told : releasedIn e'.trace = releasedIn e.trace + count
  received : receivedIn e'.trace = receivedIn e.trace
  called : invocations e'.trace = invocations e.trace

theorem Released.refl (e : Engine τ) : Released e e 0 := ⟨rfl, rfl, rfl, rfl, rfl⟩

theorem Released.trans {e'' : Engine τ} {count count' : Nat} (first : Released e e' count)
    (second : Released e' e'' count') : Released e e'' (count + count') := by
  refine ⟨?_, ?_, ?_, second.received.trans first.received, second.called.trans first.called⟩
  · rw [second.content, first.content, List.drop_drop]
  · rw [second.counted, first.counted, Nat.add_assoc]
  · rw [second.told, first.told, Nat.add_assoc]

/-- Bytes come only with a read that has ended. -/
theorem Transfer.released (transfer : Transfer e e')
    (elsewhere : ∀ room bytes, e.stage ≠ .completing room (.ok bytes)) :
    ∃ count, Released e e' count := by
  cases transfer with
  | none buffer received released history =>
    exact ⟨0, by rw [buffer]; rfl, released, history.released, history.received,
      history.invocations⟩
  | emptied event buffer received released told history =>
    refine ⟨e.shared.buffer.occupied, ?_, released, ?_, ?_, ?_⟩
    · rw [buffer, Buffer.filled_reset, ← Buffer.length_filled, List.drop_length]
    all_goals
      rw [history]
      rcases told with rfl | rfl <;> simp
  | consumed count buffer received released history =>
    refine ⟨e.shared.buffer.released count, ?_, released, ?_, ?_, ?_⟩
    · rw [buffer, Buffer.filled_consume, Buffer.drop_released_filled]
    all_goals
      rw [history]
      simp
  | delivered room bytes place => exact absurd place (elsewhere room bytes)
  | shown room bytes number reply place => exact absurd place (elsewhere room bytes)

end Engine

end ByteTap
