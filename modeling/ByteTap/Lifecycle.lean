/-!
# Lifecycle, outcomes and counters

An engine is running, then stopping, then closed, and never goes back; it may skip the middle.
-/

namespace ByteTap

/-- Where an engine is in its life. -/
inductive Phase where
  /-- The worker reads on after every completed read. -/
  | running
  /-- Shutdown was requested; no further read is armed. -/
  | stopping
  /-- The transport is closed and the worker has finished. -/
  | closed
  deriving DecidableEq, Repr

namespace Phase

/-- The phase as shown to people. -/
def word : Phase → String
  | running => "running"
  | stopping => "stopping"
  | closed => "closed"

/-- The phase as written into documents. -/
def name : Phase → String
  | running => "Running"
  | stopping => "Stopping"
  | closed => "Closed"

/-- Every phase, in order. -/
def all : List Phase := [running, stopping, closed]

/-- The phase with the given document name. -/
def ofName? (name : String) : Option Phase := all.find? (·.name == name)

/-- The position in the order of life. -/
def rank : Phase → Nat
  | running => 0
  | stopping => 1
  | closed => 2

instance : LE Phase := ⟨fun a b => a.rank ≤ b.rank⟩

instance (a b : Phase) : Decidable (a ≤ b) := inferInstanceAs (Decidable (a.rank ≤ b.rank))

end Phase

/-- Why a wait for data ended. -/
inductive WaitOutcome where
  /-- At least one read delivered bytes since the wait started. -/
  | dataReceived
  /-- The time was up. -/
  | timedOut
  /-- The engine is stopping or closed. -/
  | shutdown
  /-- The transport went away; no more data will arrive. -/
  | disconnected
  deriving DecidableEq, Repr

/-- What an engine counts. -/
structure Tally where
  /-- Reads that delivered at least one byte. -/
  readsCompleted : Nat := 0
  /-- Bytes received. -/
  bytesReceived : Nat := 0
  /-- Reads that delivered nothing and did not fail. -/
  zeroByteReads : Nat := 0
  /-- Reads that failed. -/
  readErrors : Nat := 0
  /-- Callbacks that returned. -/
  callbacksInvoked : Nat := 0
  /-- Times the buffer filled up. -/
  exhaustionEvents : Nat := 0
  /-- Bytes that left the buffer. -/
  bytesReleased : Nat := 0
  deriving DecidableEq, Repr, Inhabited

namespace Tally

/-- The counters with their names, in the order in which they are written. -/
def entries (t : Tally) : List (String × Nat) :=
  [("reads_completed", t.readsCompleted), ("bytes_received", t.bytesReceived),
   ("zero_byte_reads", t.zeroByteReads), ("read_errors", t.readErrors),
   ("callbacks_invoked", t.callbacksInvoked), ("exhaustion_events", t.exhaustionEvents),
   ("bytes_released", t.bytesReleased)]

/-- The counters as a compact JSON object. -/
def toJson (t : Tally) : String :=
  "\x7b" ++ ",".intercalate (t.entries.map fun (name, n) => "\"" ++ name ++ "\":" ++ toString n)
    ++ "\x7d"

end Tally

end ByteTap
