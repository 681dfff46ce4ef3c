import ByteTap.Monitor.Configuration
import ByteTap.Monitor.Report

/-!
# Watching an engine

The watch waits for data in small steps until its time is up, the transport goes away or the engine
stops.  Time is counted in nanoseconds: a moment is so many of them after the clock's zero, and the
clock has a last moment, beyond which nothing can be added.

A line about the progress is logged after a wait that data ended, if the last one is
`progressIntervalMs` ago.  It is left out: it depends on the time that passes between two looks at
the clock, and neither the next move nor the report reads what it was about or when it was written.
-/

namespace ByteTap.Monitor

/-- A moment, in nanoseconds from the clock's zero. -/
structure Moment where
  nanos : Int
  deriving DecidableEq, Repr

namespace Moment

/-- The last moment of the clock: 63 bits of seconds, and a second less one nanosecond. -/
def latest : Int := Int.pow 2 63 * 1000000000 - 1

/-- The moment that many nanoseconds later, if the clock has it. -/
def add? (m : Moment) (nanos : Nat) : Option Moment :=
  if m.nanos + nanos ≤ latest then some ⟨m.nanos + nanos⟩ else none

/-- The moment that many seconds after the clock's zero. -/
def ofSeconds (n : Nat) : Moment := ⟨n * 1000000000⟩

end Moment

/-- The panic of adding more to a moment than the clock has. -/
def clockOverflow : String := "overflow when adding duration to instant"

namespace Watch

/-- The duration of a run in nanoseconds. -/
def durationNanos (o : Options) : Option Nat := o.durationSecs.map (·.toNat * 1000000000)

/-- The longest wait for data in nanoseconds. -/
def pollNanos (o : Options) : Nat := o.pollIntervalMs.toNat * 1000000

/-- When the watch ends, if a duration is set.  The sum can lie beyond the end of the clock. -/
def deadline (o : Options) (started : Moment) : Except String (Option Moment) :=
  match durationNanos o with
  | none => .ok none
  | some nanos =>
      match started.add? nanos with
      | some moment => .ok (some moment)
      | none => .error clockOverflow

/-- What the watch does next. -/
inductive Move where
  /-- It stops. -/
  | stop (reason : StopReason)
  /-- It waits for data, at most that many nanoseconds. -/
  | wait (nanos : Nat)
  deriving DecidableEq, Repr

/-- The next move, from the deadline and the present moment. -/
def move (o : Options) (deadline : Option Moment) (now : Moment) : Move :=
  match deadline with
  | none => .wait (pollNanos o)
  | some moment =>
      if moment.nanos ≤ now.nanos then .stop .durationElapsed
      else .wait (min (pollNanos o) (moment.nanos - now.nanos).toNat)

/-- The reason to stop after a wait, if its outcome is one. -/
def reasonAfter : WaitOutcome → Option StopReason
  | .dataReceived | .timedOut => none
  | .disconnected => some .disconnected
  | .shutdown => some .engineStopped

/-- The watch over the moments at which it looks at the clock and the outcomes of its waits. -/
def follow (o : Options) (deadline : Option Moment) :
    List (Moment × WaitOutcome) → Option StopReason
  | [] => none
  | (now, outcome) :: later =>
      match move o deadline now with
      | .stop reason => some reason
      | .wait _ =>
          match reasonAfter outcome with
          | some reason => some reason
          | none => follow o deadline later

/-- The watch over an engine at rest, which answers every wait alike: the first wait decides, or the
deadline does.  Without either there is no end. -/
def atRest (deadline : Option Moment) (outcome : WaitOutcome) : Option StopReason :=
  match reasonAfter outcome with
  | some reason => some reason
  | none => deadline.map fun _ => .durationElapsed

end Watch

end ByteTap.Monitor
