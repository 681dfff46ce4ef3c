import ByteTap.Proofs.Transport.Stream
import ByteTap.Transport.Line

/-!
# Lines that are streams

A line is bounded and goes away by failing, since every transport of the library is and does so
(`Line.bounded`, `Line.closesByFailure`).  What the monitor opens is a stream of bytes: a pipe or an
opened path.  A stream stays one whatever is done with it, and shutting it never fails.  Whatever
happens at its far end, bytes arrive, a peer hangs up, or reads begin to fail, is a change that
leaves the line as open as it was (`Line.Changed`): only a read finds out.
-/

namespace ByteTap.Line

/-- Whatever the line is, no read returns more than there is room for. -/
theorem bounded : Transport.Bounded Line := by
  intro line room bytes ended
  cases line with
  | script s => exact Script.bounded s room bytes ended
  | pipe s => exact Stream.bounded Pipe.bounded s room bytes ended
  | file s => exact Stream.bounded Content.bounded s room bytes ended
  | silent s => cases ended

/-- Whatever the line is, only a read that fails closes it. -/
theorem closesByFailure : Transport.ClosesByFailure Line := by
  refine ⟨?_, ?_⟩
  · intro line room
    cases line <;> rfl
  · intro line room isOpen unfailed
    cases line with
    | script s => exact Script.closesByFailure.poll s room isOpen unfailed
    | pipe s => exact Stream.closesByFailure.poll s room isOpen unfailed
    | file s => exact Stream.closesByFailure.poll s room isOpen unfailed
    | silent s => exact isOpen

/-- The line is a stream of bytes. -/
def isStream : Line → Bool
  | pipe _ | file _ => true
  | script _ | silent _ => false

/-- Something happened at the far end of the line: it is a stream as open as it was. -/
structure Changed (line line' : Line) : Prop where
  stream : line'.isStream = true
  isOpen : Transport.isOpen line' = Transport.isOpen line

@[simp] theorem isStream_issue (line : Line) (room : Nat) :
    (Transport.issue line room).isStream = line.isStream := by
  cases line <;> rfl

@[simp] theorem isStream_poll (line : Line) (room : Nat) :
    (Transport.poll line room).transport.isStream = line.isStream := by
  cases line <;> rfl

@[simp] theorem isStream_abandon (line : Line) :
    (Transport.abandon line).isStream = line.isStream := by
  cases line <;> rfl

@[simp] theorem isStream_shut (line : Line) :
    (Transport.shut line).transport.isStream = line.isStream := by
  cases line <;> rfl

@[simp] theorem isStream_release (line : Line) :
    (Transport.release line).isStream = line.isStream := by
  cases line <;> rfl

theorem failure_shut {line : Line} (stream : line.isStream = true) :
    (Transport.shut line).failure = none := by
  cases line with
  | pipe s => rfl
  | file s => rfl
  | _ => cases stream

/-- A stream goes away in a read that has room. -/
theorem room_pos_of_closed {line : Line} {room : Nat} (stream : line.isStream = true)
    (isOpen : Transport.isOpen line = true)
    (closed : Transport.isOpen (Transport.poll line room).transport = false) : 0 < room := by
  cases line with
  | pipe s => exact (s.answers room).room_pos_of_closed isOpen closed
  | file s => exact (s.answers room).room_pos_of_closed isOpen closed
  | _ => cases stream

/-! ## What a line to a pipe carries -/

variable {returned sent : Bytes} {gone : Bool} {line : Line} {room : Nat}

/-- The line is a pipe, and what was sent through it is what reads have returned and what waits. -/
def Carries (returned sent : Bytes) (gone : Bool) (line : Line) : Prop :=
  ∃ stream, line = .pipe stream ∧ stream.Carries returned sent gone

theorem Carries.issue (carries : Carries returned sent gone line) (room : Nat) :
    Carries returned sent gone (Transport.issue line room) := by
  obtain ⟨stream, rfl, carries⟩ := carries
  exact ⟨stream, rfl, carries⟩

theorem Carries.poll {result : Except IoFailure Bytes} (carries : Carries returned sent gone line)
    (ended : (Transport.poll line room).result = some result) :
    Carries (returned ++ Script.endedBytes result) sent gone
      (Transport.poll line room).transport := by
  obtain ⟨stream, rfl, carries⟩ := carries
  exact ⟨_, rfl, carries.poll ended⟩

theorem Carries.pending (carries : Carries returned sent gone line)
    (pending : (Transport.poll line room).result = none) :
    Carries returned sent gone (Transport.poll line room).transport := by
  obtain ⟨stream, rfl, carries⟩ := carries
  exact ⟨_, rfl, carries.pending pending⟩

/-- Once the peer is gone, every read ends. -/
theorem Carries.ends (carries : Carries returned sent true line) (room : Nat) :
    (Transport.poll line room).result ≠ none := by
  obtain ⟨stream, rfl, carries⟩ := carries
  exact carries.ends room

/-- Nothing waits in a line that is closed. -/
theorem Carries.all_of_closed (carries : Carries returned sent gone line)
    (closed : Transport.isOpen line = false) : sent = returned := by
  obtain ⟨stream, rfl, carries⟩ := carries
  exact carries.ended (Option.isSome_eq_false_iff.1 closed |> Option.isNone_iff_eq_none.1)

theorem Carries.prefix_sent (carries : Carries returned sent gone line) : returned <+: sent := by
  obtain ⟨stream, rfl, carries⟩ := carries
  cases source : stream.source with
  | none => exact ⟨[], by rw [List.append_nil, carries.ended source]⟩
  | some pipe => exact ⟨pipe.queued, (carries.present pipe source).1.symm⟩

end ByteTap.Line
