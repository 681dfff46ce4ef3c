import ByteTap.Io

/-!
# Faults

Everything that can go wrong with an ingestion engine, as causes.  A fault of construction is the
answer to the caller; a fault of the running engine never stops the worker by surprise, it is
reported: written to the log and handed to the owner's sink, if there is one.
-/

namespace ByteTap

/-- A fault of the ingestion engine. -/
inductive Fault where
  /-- A read failed. -/
  | readFailed (transport : String) (cause : IoFailure)
  /-- The transport was closed, and closing it failed. -/
  | closeFailed (transport : String) (cause : IoFailure)
  /-- The transport went away; nothing is read any more. -/
  | disconnected (transport : String)
  /-- The buffer is full. -/
  | bufferExhausted (capacity : Nat)
  /-- The settings are of no use. -/
  | invalidConfiguration (reason : String)
  /-- The event loop could not be built. -/
  | contextBuild (cause : IoFailure)
  /-- The worker thread could not be started. -/
  | workerSpawn (cause : IoFailure)
  /-- The worker ended in a panic. -/
  | workerPanicked (reason : String)
  deriving DecidableEq, Repr

namespace Fault

/-- What a fault says. -/
def message : Fault → String
  | readFailed transport cause => "Read from " ++ transport ++ " failed: " ++ cause.text
  | closeFailed transport cause => "Closing " ++ transport ++ " failed: " ++ cause.text
  | disconnected transport =>
      "Transport " ++ transport ++ " is no longer open; reading suspended until shutdown"
  | bufferExhausted capacity =>
      "Receive buffer exhausted (capacity: " ++ toString capacity ++ " bytes)"
  | invalidConfiguration reason => "Invalid engine configuration: " ++ reason
  | contextBuild cause => "Failed to build execution context: " ++ cause.text
  | workerSpawn cause => "Failed to spawn ingestion worker thread: " ++ cause.text
  | workerPanicked reason => "Ingestion worker panicked: " ++ reason

/-- The read loop goes on after the fault. -/
def recoverable : Fault → Bool
  | readFailed .. | closeFailed .. | bufferExhausted .. => true
  | _ => false

/-- The failed operation behind the fault, if there is one. -/
def cause? : Fault → Option IoFailure
  | readFailed _ cause | closeFailed _ cause | contextBuild cause | workerSpawn cause => some cause
  | _ => none

end Fault

/-- How much a log line matters. -/
inductive Severity where
  | trace | debug | info | warn | error
  deriving DecidableEq, Repr

/-- The word that starts a log line. -/
def Severity.word : Severity → String
  | trace => "TRACE"
  | debug => "DEBUG"
  | info => "INFO"
  | warn => "WARN"
  | error => "ERROR"

/-- A log line. -/
structure LogLine where
  severity : Severity
  text : String
  deriving DecidableEq, Repr

/-- A log line as text. -/
def LogLine.render (line : LogLine) : String := line.severity.word ++ " " ++ line.text

/-- A reported fault is a warning if the engine goes on after it, and an error otherwise. -/
def Fault.logLine (fault : Fault) : LogLine :=
  ⟨if fault.recoverable then .warn else .error, fault.message⟩

/-- Where reported faults go beside the log. -/
inductive Sink where
  /-- The owner listens. -/
  | attached
  /-- The owner gave no sink. -/
  | absent
  /-- The owner gave a sink and no longer listens to it. -/
  | abandoned
  deriving DecidableEq, Repr

/-- What the owner sees of the reported faults. -/
def Sink.seen (sink : Sink) (reported : List Fault) : List Fault :=
  match sink with
  | .attached => reported
  | .absent | .abandoned => []

end ByteTap
