import ByteTap.Consumer
import ByteTap.Io

/-!
# Where the worker stands

The worker thread goes round one loop: it *arms* a read under the lock, *issues* it, and once it
has ended *completes* it under the lock again.  Between two of these places other threads may run.
Four places are parks, where the worker rests until something happens: a pending read, the wait
after a failed read, the stall on a full buffer, and the suspension after the transport went away.
-/

namespace ByteTap

/-- What the worker keeps in mind of a read that it has completed. -/
structure Handled where
  /-- The engine was still running. -/
  running : Bool
  /-- The read had failed. -/
  failed : Bool
  /-- The buffer was full. -/
  full : Bool
  deriving DecidableEq, Repr

/-- The places of the worker. -/
inductive Stage where
  /-- Not yet in the loop. -/
  | starting
  /-- About to decide, under the lock, on the next read. -/
  | arming
  /-- Everything was dropped; about to report it and go on with a read of that room. -/
  | reportingDrop (room : Nat)
  /-- About to issue a read of that room, unless shutdown comes first. -/
  | issuing (room : Nat)
  /-- Parked: the read is pending. -/
  | reading (room : Nat)
  /-- The read has ended; about to handle it under the lock. -/
  | completing (room : Nat) (result : Except IoFailure Bytes)
  /-- About to report the failed read. -/
  | reportingFailure (room : Nat) (cause : IoFailure) (handled : Handled)
  /-- About to decide, alone, what follows the read. -/
  | settling (room : Nat) (handled : Handled)
  /-- Parked: waiting some milliseconds after a failed read. -/
  | backingOff (delay : UInt64) (room : Nat) (full : Bool)
  /-- About to count the full buffer under the lock. -/
  | recordingFull
  /-- About to report the full buffer. -/
  | reportingFull
  /-- Parked: the buffer is full and the worker waits for room. -/
  | stalled
  /-- Woken from the stall; about to look for room under the lock. -/
  | rechecking
  /-- About to report that the transport went away. -/
  | reportingLoss
  /-- About to wake the waiting callers after that. -/
  | signallingLoss
  /-- Parked: the transport went away and only shutdown can follow. -/
  | suspended
  /-- Out of the loop; about to shut the transport. -/
  | closing
  /-- About to report that shutting the transport failed. -/
  | reportingClose (cause : IoFailure)
  /-- About to note under the lock that the transport is closed. -/
  | markingShut
  /-- The consumer panicked; about to report it. -/
  | unwinding (payload : Payload)
  /-- About to declare the engine closed, under the lock. -/
  | finishing
  /-- About to wake the waiting callers after that. -/
  | signallingEnd
  /-- Gone. -/
  | exited

namespace Stage

/-- The worker rests here until something happens. -/
def isPark : Stage → Bool
  | reading _ | backingOff .. | stalled | suspended => true
  | _ => false

end Stage

end ByteTap
