import ByteTap.Bytes
import ByteTap.Io

/-!
# Transports

A transport is where the bytes come from.  One read is in flight at a time: it is *issued* with
the room at its destination, then *polled* until it has a result, or *abandoned* while it has
none.  A transport can also be shut, and tells whether it is open and what it is called.

What arrives at the far end, a step of a script or bytes in a pipe, changes the state of the
transport between two polls and is no operation of the class.
-/

namespace ByteTap

/-- What a poll of the read in flight finds. -/
structure Polled (τ : Type) where
  /-- The transport after the poll. -/
  transport : τ
  /-- How the read ended, or nothing while it is pending. -/
  result : Option (Except IoFailure Bytes)
  /-- What the transport writes to the log. -/
  notes : List String := []

/-- What shutting a transport comes to. -/
structure Shut (τ : Type) where
  /-- The transport afterwards. -/
  transport : τ
  /-- Why the shutting failed, if it did. -/
  failure : Option IoFailure := none
  /-- What the transport writes to the log. -/
  notes : List String := []

/-- The operations of a transport. -/
class Transport (τ : Type) where
  /-- What the transport is called in logs and reports. -/
  label : τ → String
  /-- Data may still come. -/
  isOpen : τ → Bool
  /-- A read into a destination of that many bytes starts. -/
  issue : τ → Nat → τ
  /-- Asks for the result of the read in flight, whose destination has that many bytes. -/
  poll : τ → Nat → Polled τ
  /-- The read in flight is dropped before it has a result. -/
  abandon : τ → τ
  /-- Closes the transport. -/
  shut : τ → Shut τ
  /-- The transport is given up without being closed. -/
  release : τ → τ
  /-- A bound on the reads that end without anything new arriving, apart from zero-length ones and
  from those of a transport that does nothing but fail. -/
  backlog : τ → Nat

namespace Transport

variable {τ : Type} [Transport τ]

/-- Starts a read and polls it once. -/
def startRead (t : τ) (room : Nat) : Polled τ := poll (issue t room) room

/-- A read that is polled once and abandoned if it is still pending. -/
def readNow (t : τ) (room : Nat) : Polled τ :=
  let polled := startRead t room
  match polled.result with
  | some _ => polled
  | none => { polled with transport := abandon polled.transport }

end Transport

end ByteTap
