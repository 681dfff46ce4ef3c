import ByteTap.Buffer
import ByteTap.Engine.Call
import ByteTap.Engine.Event
import ByteTap.Engine.Stage
import ByteTap.Text.Quoted
import ByteTap.Transport

/-!
# The ingestion engine

One worker thread reads from a transport into a buffer, and any number of threads of the owner
look at the buffer, release bytes, wait for data and shut the engine down.

The state has a part behind one lock (`Shared`), two stored permits that wake the worker, a flag
for a shutdown asked for by the consumer, and what only the worker sees.  A permit is stored at
most once however often it is given, and is taken by the place that waits for it.
-/

namespace ByteTap

/-- A registered consumer. -/
structure Registration where
  /-- Which registration it is, counting from one. -/
  number : Nat
  consumer : Consumer
  /-- What it was shown, newest first. -/
  history : List Bytes := []

/-- What lies behind the lock. -/
structure Shared where
  buffer : Buffer
  phase : Phase := .running
  registration : Option Registration := none
  /-- Counts the reads that delivered bytes and were handled. -/
  generation : Nat := 0
  /-- The transport can still deliver data. -/
  isOpen : Bool
  tally : Tally := {}

/-- An ingestion engine on a transport. -/
structure Engine (τ : Type) where
  settings : Settings
  /-- What the transport was called at the start. -/
  label : String
  shared : Shared
  /-- The consumer asked for shutdown. -/
  stopRequested : Bool := false
  /-- A permit to shut down waits for the worker. -/
  shutdownPermit : Bool := false
  /-- A permit to look for room waits for the worker. -/
  spacePermit : Bool := false
  transport : τ
  stage : Stage := .starting
  /-- Failed reads since the last one that did not fail. -/
  failures : Nat := 0
  /-- The full buffer of this episode was reported. -/
  exhaustionReported : Bool := false
  /-- The calls of the owner, in the order in which they were made. -/
  calls : List Call := []
  /-- The number of consumers registered so far. -/
  registrations : Nat := 0
  /-- What happened, newest first. -/
  trace : List Event := []

/-- Why an engine did not start. -/
inductive StartFailure where
  /-- It was refused. -/
  | fault (fault : Fault)
  /-- The start panicked. -/
  | panic (message : String)
  deriving DecidableEq, Repr

namespace Engine

variable {τ : Type}

/-- Adds an event to the history. -/
def note (e : Engine τ) (event : Event) : Engine τ := { e with trace := event :: e.trace }

/-- Adds what a transport writes to the log. -/
def noteAll (e : Engine τ) (notes : List String) : Engine τ :=
  { e with trace := (notes.map Event.noted).reverse ++ e.trace }

/-- Reports a fault. -/
def report (e : Engine τ) (fault : Fault) : Engine τ := e.note (.reported fault)

/-- The worker goes to another place. -/
def goto (e : Engine τ) (stage : Stage) : Engine τ := { e with stage }

/-- Changes what lies behind the lock. -/
def modify (e : Engine τ) (f : Shared → Shared) : Engine τ := { e with shared := f e.shared }

/-- Changes the counters. -/
def count (e : Engine τ) (f : Tally → Tally) : Engine τ :=
  e.modify fun s => { s with tally := f s.tally }

/-- Wakes every parked caller. -/
def wakeAll (e : Engine τ) : Engine τ := { e with calls := e.calls.map Call.wake }

/-- Something arrives at the far end of the transport. -/
def mapTransport (e : Engine τ) (f : τ → τ) : Engine τ := { e with transport := f e.transport }

/-- Registers a consumer under the next number. -/
def register (e : Engine τ) (consumer : Consumer) : Engine τ :=
  { e with
    shared := { e.shared with registration := some { number := e.registrations + 1, consumer } }
    registrations := e.registrations + 1 }

/-- Starts an engine on a transport, with a consumer or without one.  The first read is issued by
the worker's own steps. -/
def spawn [Transport τ] (settings : Settings) (transport : τ) (consumer : Option Consumer) :
    Except StartFailure (Engine τ) :=
  match settings.validate with
  | .error fault => .error (.fault fault)
  | .ok () =>
      match Buffer.allocate settings.capacity.toNat with
      | .error message => .error (.panic message)
      | .ok buffer =>
          let engine : Engine τ :=
            { settings, transport
              label := Transport.label transport
              shared := { buffer, isOpen := Transport.isOpen transport }
              trace := [.spawned] }
          .ok (match consumer with
            | some consumer => engine.register consumer
            | none => engine)

/-! ## What the owner sees -/

/-- The reported faults, oldest first. -/
def faults (e : Engine τ) : List Fault := (e.trace.filterMap Event.fault?).reverse

/-- The engine in words. -/
def describe (e : Engine τ) : String :=
  "IngestEngine \x7b transport: " ++ Text.quote e.label ++ ", capacity: "
    ++ toString e.settings.capacity.toNat ++ ", state: " ++ e.shared.phase.name ++ " \x7d"

end Engine

end ByteTap
