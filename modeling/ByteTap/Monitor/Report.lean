import ByteTap.Lifecycle
import ByteTap.Text.Quoted

/-!
# The report of a run

What came of watching an engine, as text for people and as JSON with an indentation of two spaces.
-/

namespace ByteTap.Monitor

/-- Why the watching ended. -/
inductive StopReason where
  | durationElapsed
  | disconnected
  | engineStopped
  deriving DecidableEq, Repr

namespace StopReason

/-- The reason as shown to people. -/
def text : StopReason → String
  | durationElapsed => "duration elapsed"
  | disconnected => "transport disconnected"
  | engineStopped => "engine stopped"

/-- The reason as written into documents. -/
def name : StopReason → String
  | durationElapsed => "duration_elapsed"
  | disconnected => "disconnected"
  | engineStopped => "engine_stopped"

end StopReason

/-- What came of a run. -/
structure Report where
  endpoint : String
  transport : String
  stopReason : StopReason
  elapsedMs : Nat
  finalPhase : Phase
  bufferedBytes : Nat
  /-- The number of reported faults. -/
  errorsReported : Nat
  tally : Tally
  /-- The end of what is still buffered, in hexadecimal. -/
  tailHex : String
  deriving DecidableEq, Repr

namespace Report

/-- A line of the text: what it is about, padded, and the value. -/
def line (caption value : String) : String :=
  caption ++ String.ofList (List.replicate (19 - caption.length) ' ') ++ value ++ "\n"

/-- The report for people. -/
def render (r : Report) : String :=
  line "endpoint:" r.endpoint
    ++ line "stopped:" r.stopReason.text
    ++ line "elapsed:" (toString r.elapsedMs ++ " ms")
    ++ line "reads completed:" (toString r.tally.readsCompleted)
    ++ line "bytes received:" (toString r.tally.bytesReceived)
    ++ line "bytes released:" (toString r.tally.bytesReleased)
    ++ line "zero-byte reads:" (toString r.tally.zeroByteReads)
    ++ line "read errors:" (toString r.tally.readErrors)
    ++ line "buffer exhausted:" (toString r.tally.exhaustionEvents)
    ++ line "still buffered:" (toString r.bufferedBytes ++ " bytes")
    ++ (if r.tailHex = "" then "" else line "buffer tail:" r.tailHex)

/-- A JSON object over several lines, inside an indentation; the values are JSON already. -/
def object (indent : String) (entries : List (String × String)) : String :=
  let inner := indent ++ "  "
  "\x7b\n" ++ ",\n".intercalate (entries.map fun (key, value) =>
    inner ++ Text.jsonQuote key ++ ": " ++ value) ++ "\n" ++ indent ++ "\x7d"

/-- The report as JSON. -/
def toJson (r : Report) : String :=
  object ""
    [("endpoint", Text.jsonQuote r.endpoint),
     ("transport", Text.jsonQuote r.transport),
     ("stop_reason", Text.jsonQuote r.stopReason.name),
     ("elapsed_ms", toString r.elapsedMs),
     ("final_state", Text.jsonQuote r.finalPhase.name),
     ("buffered_bytes", toString r.bufferedBytes),
     ("errors_reported", toString r.errorsReported),
     ("stats", object "  " (r.tally.entries.map fun (key, n) => (key, toString n))),
     ("tail_hex", Text.jsonQuote r.tailHex)]

end Report

end ByteTap.Monitor
