import ByteTap.Consumer
import ByteTap.Lifecycle

/-!
# Calls on an engine

What the owner of an engine asks of it, on any number of threads.  A call takes the lock once or
several times and does some things after it has let go of it; the places of a call are the points
between, at which other threads may run.
-/

namespace ByteTap

/-- What a caller asks for. -/
inductive Request where
  /-- Shut down, and return once the worker is gone. -/
  | close
  /-- Release that many bytes from the front. -/
  | consume (count : Nat)
  /-- Release every byte. -/
  | reset
  /-- Register a consumer. -/
  | install (consumer : Consumer)
  /-- Remove the consumer. -/
  | uninstall
  /-- Wait for data, with or without a deadline. -/
  | wait (timed : Bool)

/-- What a call returns. -/
inductive Answer where
  | done
  /-- That many bytes were released. -/
  | released (count : Nat)
  /-- Why the wait ended. -/
  | outcome (outcome : WaitOutcome)
  deriving DecidableEq, Repr

/-- The places of a call. -/
inductive Call where
  /-- About to request shutdown under the lock. -/
  | closing
  /-- Has requested shutdown; about to wake the waiting callers. -/
  | announcingStop
  /-- About to leave the worker its shutdown permit. -/
  | permittingStop
  /-- Waiting for the worker to be gone. -/
  | joining
  /-- About to release bytes from the front, under the lock. -/
  | consuming (count : Nat)
  /-- About to release every byte, under the lock. -/
  | resetting
  /-- Has released bytes; about to leave the worker its space permit. -/
  | permittingSpace (answer : Answer)
  /-- About to register a consumer, under the lock. -/
  | installing (consumer : Consumer)
  /-- About to remove the consumer, under the lock. -/
  | uninstalling
  /-- About to take the lock for the first time in a wait. -/
  | waiting (timed : Bool)
  /-- Parked, since the given generation. -/
  | parked (timed : Bool) (seen : Nat)
  /-- Woken; about to take the lock again. -/
  | woken (timed : Bool) (seen : Nat)
  /-- The deadline has passed; about to take the lock again. -/
  | expired (seen : Nat)
  /-- Has returned. -/
  | returned (answer : Answer)

namespace Call

/-- The first place of a call. -/
def ofRequest : Request → Call
  | .close => closing
  | .consume count => consuming count
  | .reset => resetting
  | .install consumer => installing consumer
  | .uninstall => uninstalling
  | .wait timed => waiting timed

/-- A parked call wakes; every other call stays as it is. -/
def wake : Call → Call
  | parked timed seen => woken timed seen
  | call => call

/-- The deadline of a parked call passes, if it has one. -/
def expire? : Call → Option Call
  | parked true seen => some (expired seen)
  | _ => none

/-- What the call returned. -/
def answer? : Call → Option Answer
  | returned answer => some answer
  | _ => none

end Call

end ByteTap
