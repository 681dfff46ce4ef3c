import ByteTap.Address
import ByteTap.Engine.Schedule
import ByteTap.Monitor.Load
import ByteTap.Monitor.Watch
import ByteTap.Transport.Line

/-!
# A run of the monitor

Opens the configured source, starts an engine on it, watches the engine and reports.  The source is
opened before the engine's settings are looked at, so a source that cannot be opened is the error
that is reported first.
-/

namespace ByteTap.Monitor

/-- Why a run has no report. -/
inductive RunFailure where
  | configuration (error : ConfigurationError)
  | io (failure : IoFailure)
  | fault (fault : Fault)
  /-- It panicked. -/
  | panic (message : String)
  deriving DecidableEq, Repr

/-- What a failure says. -/
def RunFailure.message : RunFailure → String
  | .configuration error => error.message
  | .io failure => failure.text
  | .fault cause => cause.message
  | .panic text => text

/-- The consumer of a run that drains the buffer. -/
def drainConsumer (o : Options) : Option Consumer := if o.drain then some .all else none

/-- How many bytes of the buffer a report shows. -/
def tailLength : Nat := 32

/-- The last bytes of the buffer. -/
def tail (bytes : Bytes) : Bytes := bytes.drop (bytes.length - tailLength)

/-- What the file or device at a path gives.  A folder can be opened, but not read. -/
def openDevice (s : Surroundings) (written : String) : Except IoFailure Content :=
  if written.toList.contains '\x00' then
    .error ⟨.invalidInput, "file name contained an unexpected NUL byte"⟩
  else match s.files.resolve s.cwd (Path.parse written) with
    | .ok (.file content) => .ok (.rest content)
    | .ok (.folder _) => .ok (.unreadable FileTree.isFolder)
    | .error failure => .error failure

/-- Opens a byte source. -/
def openEndpoint (s : Surroundings) (network : Network) : Endpoint → Except IoFailure Line
  | .tcp address => do pure (.pipe (← network (← Address.parse address)))
  | .device path => do
      pure (.file { label := (Endpoint.device path).text, source := some (← openDevice s path) })

/-- The report on an engine that was watched until the given reason. -/
def report {τ : Type} (endpoint : Endpoint) (reason : StopReason) (elapsedMs : Nat)
    (e : Engine τ) : Report where
  endpoint := endpoint.text
  transport := e.label
  stopReason := reason
  elapsedMs := elapsedMs
  finalPhase := e.shared.phase
  bufferedBytes := e.shared.buffer.occupied
  errorsReported := e.faults.length
  tally := e.shared.tally
  tailHex := (tail e.shared.buffer.filled).hex

/-- Starts the engine of a run. -/
def start (c : Configuration) (line : Line) : Except RunFailure (Engine Line) :=
  match Engine.spawn c.engine line (drainConsumer c.monitor) with
  | .ok e => .ok e
  | .error (.fault fault) => .error (.fault fault)
  | .error (.panic message) => .error (.panic message)

/-- Runs the monitor from a moment on; nothing but what is there from the start arrives.  There is
no report if the run does not end.  An engine whose every read fails never rests, but no wait on it
has a reason to end either, so it is watched like one at rest. -/
def run (s : Surroundings) (network : Network) (started : Moment) (c : Configuration) :
    Except RunFailure (Option Report) := do
  let endpoint ← c.endpoint.resolve.mapError .configuration
  let line ← (openEndpoint s network endpoint).mapError .io
  let e ← start c line
  let deadline ← (Watch.deadline c.monitor started).mapError .panic
  match e.settle.waitIdle with
  | (e, some (.outcome outcome)) =>
      match Watch.atRest deadline outcome, e.perform .close with
      | some reason, (e, some .done) =>
          let elapsedMs := if reason = .durationElapsed then c.durationMs.getD 0 else 0
          pure (some (report endpoint reason elapsedMs e))
      | _, _ => pure none
  | _ => pure none

end ByteTap.Monitor
