import ByteTap.Context
import ByteTap.Engine

/-!
# Constructing an engine

An engine is constructed with the default settings, with a buffer of some size, with settings of the
caller's, or by a builder that was told one thing after another.  All ways lead through `construct`:
the settings are looked at, the buffer is set aside, and then the worker thread is started under its
name.

What the machine can refuse, an event loop or a thread, is known from its `Host`.
-/

namespace ByteTap

/-- What the machine refuses, if it does. -/
structure Host where
  /-- Why there is no event loop. -/
  loopFailure : Option IoFailure := none
  /-- Why there is no thread. -/
  threadFailure : Option IoFailure := none
  deriving DecidableEq, Repr

namespace Thread

/-- The panic of naming a thread by a text with a NUL in it. -/
def nulInName : String := "thread name may not contain interior null bytes"

/-- The name under which a thread is started: a NUL would end it. -/
def name (text : String) : Except String String :=
  if text.toList.contains '\x00' then .error nulInName else .ok text

end Thread

namespace Engine

variable {τ : Type}

/-- Starts the worker thread of an engine. -/
def launch (host : Host) (e : Engine τ) : Except StartFailure (Engine τ) :=
  match Thread.name e.settings.workerName with
  | .error message => .error (.panic message)
  | .ok _ =>
      match host.threadFailure with
      | some cause => .error (.fault (.workerSpawn cause))
      | none => .ok e

/-- Sets everything up for an engine, and starts its worker. -/
def construct [Transport τ] (host : Host) (settings : Settings) (transport : τ)
    (consumer : Option Consumer) : Except StartFailure (Engine τ) := do
  (← spawn settings transport consumer).launch host

/-- The area into which the worker reads, as large as the buffer.  It is set aside when the worker
enters its loop. -/
def scratch (e : Engine τ) : Except String Buffer := Buffer.allocate e.settings.capacity.toNat

/-- Constructs an engine with settings of the caller's. -/
def ofSettings [Transport τ] (host : Host) (transport : τ) (settings : Settings) :
    Except StartFailure (Engine τ) := construct host settings transport none

/-- Constructs an engine with a buffer of that size. -/
def ofCapacity [Transport τ] (host : Host) (transport : τ) (capacity : UInt64) :
    Except StartFailure (Engine τ) := ofSettings host transport (.ofCapacity capacity)

/-- Constructs an engine with the default settings. -/
def ofDefaults [Transport τ] (host : Host) (transport : τ) : Except StartFailure (Engine τ) :=
  ofSettings host transport {}

end Engine

/-- What a builder has been told. -/
structure Builder where
  settings : Settings := {}
  /-- The event loop of the caller's; without one the builder makes its own. -/
  context : Option Context := none
  sink : Sink := .absent
  consumer : Option Consumer := none

namespace Builder

/-- Replaces all settings. -/
def config (b : Builder) (settings : Settings) : Builder := { b with settings }

/-- Sets the size of the buffer. -/
def capacity (b : Builder) (capacity : UInt64) : Builder :=
  { b with settings := { b.settings with capacity } }

/-- Sets what happens once the buffer is full. -/
def policy (b : Builder) (policy : Policy) : Builder :=
  { b with settings := { b.settings with policy } }

/-- Names the worker thread. -/
def workerName (b : Builder) (workerName : String) : Builder :=
  { b with settings := { b.settings with workerName } }

/-- Constructs the engine. -/
def spawn {τ : Type} [Transport τ] (host : Host) (b : Builder) (transport : τ) :
    Except StartFailure (Engine τ) :=
  match b.context, host.loopFailure with
  | none, some cause => .error (.fault (.contextBuild cause))
  | _, _ => Engine.construct host b.settings transport b.consumer

end Builder

/-- The ways to construct an engine. -/
inductive Construction where
  /-- With the default settings. -/
  | plain
  /-- With a buffer of that size. -/
  | sized (capacity : UInt64)
  /-- With settings of the caller's. -/
  | configured (settings : Settings)
  /-- By a builder. -/
  | built (builder : Builder)

namespace Construction

/-- The settings with which the engine is to run. -/
def settings : Construction → Settings
  | plain => {}
  | sized capacity => .ofCapacity capacity
  | configured settings => settings
  | built builder => builder.settings

/-- Where the faults of the engine go.  Only a builder can be given a sink. -/
def sink : Construction → Sink
  | built builder => builder.sink
  | _ => .absent

/-- Why there is no event loop to run on, if there is none.  But for a builder that was not given
one, the caller has brought it. -/
def loopFailure (host : Host) : Construction → Option IoFailure
  | built { context := none, .. } => host.loopFailure
  | _ => none

/-- Constructs the engine. -/
def start {τ : Type} [Transport τ] (host : Host) (transport : τ) :
    Construction → Except StartFailure (Engine τ)
  | plain => Engine.ofDefaults host transport
  | sized capacity => Engine.ofCapacity host transport capacity
  | configured settings => Engine.ofSettings host transport settings
  | built builder => builder.spawn host transport

end Construction

end ByteTap
