import ByteTap.Consumer
import ByteTap.Fault
import ByteTap.Settings

/-!
# What happened

The history of an engine as a list of events.  Everything that can be observed of a run beside its
present state, the log, the reports and the reads, is read off this list.
-/

namespace ByteTap

/-- Something that happened to an engine. -/
inductive Event where
  /-- A caller started the worker. -/
  | spawned
  /-- A caller registered a consumer. -/
  | registered
  /-- A caller requested shutdown as the first to do so. -/
  | shutdownRequested
  /-- A caller released that many bytes from the front. -/
  | consumed (count : Nat)
  /-- A caller released everything, which was that many bytes. -/
  | emptied (count : Nat)
  /-- The worker entered its loop. -/
  | started
  /-- The full buffer, that many bytes, was dropped. -/
  | discarded (count : Nat)
  /-- The worker armed a read. -/
  | armed (room : Nat)
  /-- A read was issued to the transport. -/
  | issued (room : Nat)
  /-- The transport wrote to the log. -/
  | noted (text : String)
  /-- The read ended. -/
  | ended (result : Except IoFailure Bytes)
  /-- The read was dropped while it was pending. -/
  | abandoned
  /-- Bytes of a read went into the buffer, which then held that many. -/
  | received (bytes accepted : Bytes) (occupied : Nat)
  /-- The consumer of that registration was called. -/
  | called (registration : Nat) (shown : Bytes) (reply : Reply)
  /-- The consumer asked for shutdown. -/
  | stopAsked
  /-- The worker waited after a failed read. -/
  | waited (delay : UInt64)
  /-- A fault was reported. -/
  | reported (fault : Fault)
  /-- The worker shut the transport. -/
  | shut (failure : Option IoFailure)
  /-- The worker left its loop. -/
  | stopped

namespace Event

/-- The event happened on the thread of a caller, and not on that of the worker. -/
def byCaller : Event → Bool
  | spawned | registered | shutdownRequested | consumed _ | emptied _ => true
  | _ => false

/-- The fault reported by the event. -/
def fault? : Event → Option Fault
  | reported fault => some fault
  | _ => none

/-- The words for a number of bytes. -/
def byteCount (n : Nat) : String := toString n ++ " bytes"

/-- What is written to the log of an event of an engine on the transport of that name. -/
def log (settings : Settings) (label : String) : Event → List LogLine
  | spawned => [⟨.debug, "Spawned ingestion worker for " ++ label⟩]
  | registered => [⟨.debug, "Consumer callback registered on " ++ label⟩]
  | shutdownRequested => [⟨.info, "Shutdown requested for " ++ label⟩]
  | started =>
      [⟨.info, "Ingestion started on " ++ label ++ " (capacity "
        ++ byteCount settings.capacity.toNat ++ ", policy " ++ settings.policy.name ++ ")"⟩]
  | armed room => [⟨.debug, "Reading up to " ++ byteCount room ++ " from " ++ label⟩]
  | noted text => [⟨.debug, text⟩]
  | received bytes accepted occupied =>
      [⟨.debug, "Read " ++ byteCount bytes.length ++ " from " ++ label⟩,
       ⟨.trace, "Received " ++ byteCount accepted.length ++ " (" ++ toString occupied
         ++ " buffered): " ++ accepted.hex⟩]
  | stopAsked => [⟨.debug, "Shutdown requested from the worker thread of " ++ label⟩]
  | reported fault => [fault.logLine]
  | stopped => [⟨.info, "Ingestion stopped on " ++ label⟩]
  | consumed _ | emptied _ | discarded _ | issued _ | ended _ | abandoned | called .. | waited _
  | shut _ => []

end Event

end ByteTap
