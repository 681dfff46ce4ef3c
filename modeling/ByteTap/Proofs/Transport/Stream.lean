import ByteTap.Proofs.Transport.Script
import ByteTap.Transport.Stream

/-!
# Reads of a stream

`Stream.Answers` lists the ways in which a read of a stream ends, or stays pending.  Over a source
that never gives more than it was asked for, a read returns no more than fits (`Stream.bounded`).
The end of the source is a failed read that closes the stream, and nothing else closes it but to
shut it (`Stream.closesByFailure`).  What arrives at the source leaves the stream as open as it was.

Over a pipe, what was sent is what reads have returned and what still waits (`Stream.Carries`), and
once the writer is gone no read waits any more.
-/

namespace ByteTap

/-- A source never gives more bytes than it was asked for. -/
def ByteSource.Bounded (σ : Type) [ByteSource σ] : Prop :=
  ∀ (source rest : σ) (room : Nat) (bytes : Bytes),
    ByteSource.take source room = some (.ok bytes, rest) → bytes.length ≤ room

theorem Pipe.bounded : ByteSource.Bounded Pipe := by
  intro pipe rest room bytes taken
  have taken : pipe.take room = some (.ok bytes, rest) := taken
  unfold take at taken
  split at taken
  · split at taken
    · cases taken
    · cases taken
      exact Nat.zero_le room
  · cases taken
    exact List.length_take_le room _

theorem Content.bounded : ByteSource.Bounded Content := by
  intro content rest room bytes taken
  have taken : some (content.take room) = some (.ok bytes, rest) := taken
  cases content with
  | rest left =>
    cases taken
    rw [List.length_take]
    omega
  | unreadable failure => cases taken

namespace Stream

variable {σ : Type}

/-- Something happened at the source of the stream. -/
def Changed (s s' : Stream σ) : Prop := ∃ f : σ → σ, s' = { s with source := s.source.map f }

variable [ByteSource σ] {s s' : Stream σ} {room : Nat} {polled : Polled (Stream σ)}

/-- How a read of that room ends, or that it is pending. -/
inductive Answers (s : Stream σ) (room : Nat) : Polled (Stream σ) → Prop
  | gone (closed : s.source = none) (cause : IoFailure) :
      Answers s room { transport := s, result := some (.error cause) }
  | nowhere {source : σ} (present : s.source = some source) (nowhere : room = 0) :
      Answers s room { transport := s, result := some (.ok []) }
  | pending {source : σ} (present : s.source = some source) (somewhere : 0 < room)
      (waits : ByteSource.take source room = none) :
      Answers s room { transport := s, result := none }
  | ended {source rest : σ} (present : s.source = some source) (somewhere : 0 < room)
      (taken : ByteSource.take source room = some (.ok [], rest)) (cause : IoFailure)
      (notes : List String) :
      Answers s room { transport := s.closed, result := some (.error cause), notes }
  | data {source rest : σ} {bytes : Bytes} (present : s.source = some source)
      (somewhere : 0 < room) (nonempty : bytes ≠ [])
      (taken : ByteSource.take source room = some (.ok bytes, rest)) :
      Answers s room { transport := { s with source := some rest }, result := some (.ok bytes) }
  | failed {source rest : σ} {cause : IoFailure} (present : s.source = some source)
      (somewhere : 0 < room)
      (taken : ByteSource.take source room = some (.error cause, rest)) :
      Answers s room { transport := { s with source := some rest }, result := some (.error cause) }

/-- Every read of a stream is one of these. -/
theorem answers (s : Stream σ) (room : Nat) : Answers s room (Transport.poll s room) := by
  show Answers s room (s.poll room)
  unfold poll
  split
  · next closed => exact .gone closed _
  next source present =>
  split
  · next nowhere => exact .nowhere present nowhere
  next somewhere =>
  have somewhere : 0 < room := Nat.pos_of_ne_zero somewhere
  split
  · next waits => exact .pending present somewhere waits
  · next taken => exact .ended present somewhere taken _ _
  · next result rest more taken =>
    cases result with
    | error cause => exact .failed present somewhere taken
    | ok bytes =>
      refine .data present somewhere ?_ taken
      rintro rfl
      exact more rfl

theorem Answers.length_le {bytes : Bytes} (bounded : ByteSource.Bounded σ)
    (answers : Answers s room polled) (ended : polled.result = some (.ok bytes)) :
    bytes.length ≤ room := by
  cases answers with
  | nowhere present nowhere =>
    cases ended
    exact Nat.zero_le room
  | data present somewhere nonempty taken =>
    cases ended
    exact bounded _ _ room _ taken
  | _ => cases ended

theorem bounded (bounded : ByteSource.Bounded σ) : Transport.Bounded (Stream σ) := by
  intro s room bytes ended
  exact (answers s room).length_le bounded ended

theorem Answers.isOpen (answers : Answers s room polled) (isOpen : s.isOpen = true)
    (unfailed : ∀ cause, polled.result ≠ some (.error cause)) :
    polled.transport.isOpen = true := by
  cases answers with
  | gone closed cause => exact absurd rfl (unfailed cause)
  | ended present somewhere taken cause notes => exact absurd rfl (unfailed cause)
  | nowhere present nowhere => exact isOpen
  | pending present somewhere waits => exact isOpen
  | data present somewhere nonempty taken => rfl
  | failed present somewhere taken => rfl

/-- A read that closes the stream had room. -/
theorem Answers.room_pos_of_closed (answers : Answers s room polled) (isOpen : s.isOpen = true)
    (closed : polled.transport.isOpen = false) : 0 < room := by
  have changed (same : polled.transport.isOpen = true) : 0 < room :=
    absurd (same.symm.trans closed) (by decide)
  cases answers with
  | gone closed cause => exact changed isOpen
  | nowhere present nowhere => exact changed isOpen
  | pending present somewhere waits => exact somewhere
  | ended present somewhere taken cause notes => exact somewhere
  | data present somewhere nonempty taken => exact somewhere
  | failed present somewhere taken => exact somewhere

/-- A stream goes away at the end of its source, and that is a failed read. -/
theorem closesByFailure : Transport.ClosesByFailure (Stream σ) := by
  refine ⟨fun s room => rfl, ?_⟩
  intro s room isOpen unfailed
  exact (answers s room).isOpen isOpen unfailed

theorem Changed.isOpen (changed : Changed s s') :
    Transport.isOpen s' = Transport.isOpen s := by
  obtain ⟨f, rfl⟩ := changed
  show (s.source.map f).isSome = s.source.isSome
  rw [Option.isSome_map]

end Stream

/-! ## What a pipe carries -/

/-- What is taken comes from the front, and it is nothing only where nothing waits. -/
theorem Pipe.of_take {pipe rest : Pipe} {room : Nat} {bytes : Bytes} (somewhere : 0 < room)
    (taken : ByteSource.take pipe room = some (.ok bytes, rest)) :
    pipe.queued = bytes ++ rest.queued ∧ rest.writerPresent = pipe.writerPresent ∧
      (bytes = [] → pipe.queued = []) := by
  have taken : pipe.take room = some (.ok bytes, rest) := taken
  unfold take at taken
  split at taken
  · split at taken
    · cases taken
    · next empty _ =>
      cases taken
      exact ⟨rfl, rfl, fun _ => List.isEmpty_iff.1 empty⟩
  · cases taken
    refine ⟨(List.take_append_drop room _).symm, rfl, fun nothing => ?_⟩
    rcases List.take_eq_nil_iff.1 nothing with nowhere | empty
    · omega
    · exact empty

namespace Stream

variable {returned sent : Bytes} {gone : Bool} {s : Stream Pipe} {room : Nat}

/-- What was sent through the pipe is what reads have returned, and what waits in it. -/
structure Carries (returned sent : Bytes) (gone : Bool) (s : Stream Pipe) : Prop where
  present : ∀ pipe, s.source = some pipe →
    sent = returned ++ pipe.queued ∧ pipe.writerPresent = !gone
  ended : s.source = none → sent = returned

/-- What a read takes out of the pipe it returns. -/
theorem Carries.poll {result : Except IoFailure Bytes} (carries : Carries returned sent gone s)
    (ended : (Transport.poll s room).result = some result) :
    Carries (returned ++ Script.endedBytes result) sent gone (Transport.poll s room).transport := by
  have answers := s.answers room
  generalize Transport.poll s room = polled at answers ended
  cases answers with
  | gone closed cause =>
    cases ended
    simpa using carries
  | nowhere present nowhere =>
    cases ended
    simpa using carries
  | pending present somewhere waits => cases ended
  -- The end of the source is read only once nothing waits in it.
  | ended present somewhere taken cause notes =>
    cases ended
    obtain ⟨split, -, empty⟩ := Pipe.of_take somewhere taken
    obtain ⟨whole, -⟩ := carries.present _ present
    rw [empty rfl] at whole
    exact ⟨nofun, fun _ => by simpa using whole⟩
  | data present somewhere nonempty taken =>
    cases ended
    obtain ⟨split, writer, -⟩ := Pipe.of_take somewhere taken
    obtain ⟨whole, present⟩ := carries.present _ present
    refine ⟨?_, nofun⟩
    rintro _ ⟨⟩
    refine ⟨?_, writer.trans present⟩
    rw [whole, split]
    exact (List.append_assoc _ _ _).symm
  -- A pipe never fails.
  | failed present somewhere taken =>
    have taken : Pipe.take _ room = _ := taken
    unfold Pipe.take at taken
    split at taken
    · split at taken <;> cases taken
    · cases taken

theorem Carries.pending (carries : Carries returned sent gone s)
    (pending : (Transport.poll s room).result = none) :
    Carries returned sent gone (Transport.poll s room).transport := by
  have answers := s.answers room
  generalize Transport.poll s room = polled at answers pending
  cases answers with
  | pending present somewhere waits => exact carries
  | _ => cases pending

/-- Once the writer is gone, every read ends. -/
theorem Carries.ends (carries : Carries returned sent true s) (room : Nat) :
    (Transport.poll s room).result ≠ none := by
  intro pending
  have answers := s.answers room
  generalize Transport.poll s room = polled at answers pending
  cases answers with
  | @pending pipe present somewhere waits =>
    obtain ⟨-, writer⟩ := carries.present pipe present
    have waits : pipe.take room = none := waits
    unfold Pipe.take at waits
    rw [writer] at waits
    split at waits <;> cases waits
  | _ => cases pending

/-- What the peer writes waits behind the rest, as far as the pipe has room. -/
theorem Carries.write {pipe : Pipe} (carries : Carries returned sent gone s)
    (present : s.source = some pipe) (bytes : Bytes) :
    Carries returned (sent ++ bytes.take pipe.room) gone (s.write bytes).1 := by
  obtain ⟨whole, writer⟩ := carries.present pipe present
  unfold Stream.write
  rw [present]
  dsimp only
  split
  -- without room the write waits, and nothing is sent
  · next full =>
    rw [full, List.take_zero, List.append_nil]
    exact carries
  · refine ⟨?_, nofun⟩
    rintro _ ⟨⟩
    refine ⟨?_, writer⟩
    rw [whole]
    exact List.append_assoc _ _ _

/-- A peer that hangs up takes nothing back. -/
theorem Carries.hangUp (carries : Carries returned sent gone s) :
    Carries returned sent true s.hangUp := by
  unfold Stream.hangUp
  cases source : s.source with
  | none => exact ⟨nofun, fun _ => carries.ended source⟩
  | some pipe =>
    refine ⟨?_, nofun⟩
    rintro _ ⟨⟩
    exact ⟨(carries.present pipe source).1, rfl⟩

end Stream

end ByteTap
