import ByteTap.Transport

/-!
# Streams as transports

A byte source answers "take up to `n` bytes" with some bytes, with none at its end, with a failure,
or not yet.  `Stream` makes a transport of any source: the end of the source fails the read and
closes the transport, so that a peer that hung up is not mistaken for a quiet line.  A failure of
the source is the failure of the read, and the transport stays open.

The sources here are a bounded pipe in memory and what an opened path gives.
-/

namespace ByteTap

/-- A source of bytes. -/
class ByteSource (σ : Type) where
  /-- At most that many bytes or a failure, and the source afterwards.  Nothing while the source
  waits for more; no bytes at its end. -/
  take : σ → Nat → Option (Except IoFailure Bytes × σ)
  /-- A bound on the takes that give bytes without anything new arriving. -/
  backlog : σ → Nat

/-- A byte source as a transport; it has no source any more once it is closed. -/
structure Stream (σ : Type) where
  label : String
  source : Option σ
  deriving Repr

namespace Stream

variable {σ : Type}

/-- The stream has a source. -/
def isOpen (s : Stream σ) : Bool := s.source.isSome

/-- The stream without its source. -/
def closed (s : Stream σ) : Stream σ := { s with source := none }

/-- The result of the read in flight. -/
def poll [ByteSource σ] (s : Stream σ) (room : Nat) : Polled (Stream σ) :=
  match s.source with
  | none =>
      { transport := s, result := some (.error ⟨.notConnected, s.label ++ " is closed"⟩) }
  | some source =>
      if room = 0 then { transport := s, result := some (.ok []) }
      else match ByteSource.take source room with
        | none => { transport := s, result := none }
        | some (.ok [], _) =>
            { transport := s.closed
              result := some (.error ⟨.unexpectedEnd, s.label ++ " closed by peer"⟩)
              notes := [s.label ++ " reached end of stream"] }
        | some (result, rest) =>
            { transport := { s with source := some rest }, result := some result }

/-- Closes the stream.  A stream that is already closed stays so. -/
def shut (s : Stream σ) : Shut (Stream σ) where
  transport := s.closed
  notes := if s.isOpen then ["Closed " ++ s.label] else []

instance [ByteSource σ] : Transport (Stream σ) where
  label s := s.label
  isOpen := isOpen
  issue s _ := s
  poll := poll
  abandon s := s
  shut := shut
  release := closed
  backlog s := match s.source with
    | none => 0
    | some source => ByteSource.backlog source + 1

end Stream

/-! ## Pipes -/

/-- A pipe in memory: what is written at one end waits to be read at the other. -/
structure Pipe where
  /-- The most bytes that wait. -/
  capacity : Nat
  /-- The waiting bytes, oldest first. -/
  queued : Bytes := []
  /-- The writer has not gone away. -/
  writerPresent : Bool := true
  deriving DecidableEq, Repr

namespace Pipe

/-- The bytes that still fit. -/
def room (p : Pipe) : Nat := p.capacity - p.queued.length

/-- Adds as many bytes as fit. -/
def write (p : Pipe) (bytes : Bytes) : Pipe := { p with queued := p.queued ++ bytes.take p.room }

/-- The writer goes away. -/
def hangUp (p : Pipe) : Pipe := { p with writerPresent := false }

/-- Takes from the front of what waits; once the writer is gone, nothing is the end. -/
def take (p : Pipe) (n : Nat) : Option (Except IoFailure Bytes × Pipe) :=
  if p.queued.isEmpty then (if p.writerPresent then none else some (.ok [], p))
  else some (.ok (p.queued.take n), { p with queued := p.queued.drop n })

instance : ByteSource Pipe where
  take := take
  backlog p := p.queued.length

end Pipe

/-- What one attempt to write into a pipe comes to. -/
inductive WriteOutcome where
  /-- That many bytes went in. -/
  | accepted (count : Nat)
  /-- There is no room at all. -/
  | full
  /-- The reading end is gone. -/
  | broken
  deriving DecidableEq, Repr

namespace Stream

/-- One attempt to write into the pipe behind a stream.  That the reading end is gone comes before
the pipe being full. -/
def write (s : Stream Pipe) (bytes : Bytes) : Stream Pipe × WriteOutcome :=
  match s.source with
  | none => (s, .broken)
  | some pipe =>
      if pipe.room = 0 then (s, .full)
      else ({ s with source := some (pipe.write bytes) }, .accepted (min bytes.length pipe.room))

/-- The writer of the pipe behind a stream goes away. -/
def hangUp (s : Stream Pipe) : Stream Pipe := { s with source := s.source.map Pipe.hangUp }

end Stream

/-! ## Opened paths -/

/-- What an opened path gives. -/
inductive Content where
  /-- The bytes that are still to be read. -/
  | rest (bytes : Bytes)
  /-- Every read fails in this way. -/
  | unreadable (failure : IoFailure)
  deriving DecidableEq, Repr

namespace Content

/-- The most bytes that one read of an opened path gives: two mebibytes. -/
def largestRead : Nat := 2 * 1024 * 1024

/-- Takes from the front of what is left, however much room there is at most `largestRead`. -/
def take : Content → Nat → Except IoFailure Bytes × Content
  | rest bytes, n => (.ok (bytes.take (min n largestRead)), rest (bytes.drop (min n largestRead)))
  | unreadable failure, _ => (.error failure, unreadable failure)

instance : ByteSource Content where
  take content n := some (content.take n)
  backlog
    | rest bytes => bytes.length
    | unreadable _ => 0

end Content

end ByteTap
