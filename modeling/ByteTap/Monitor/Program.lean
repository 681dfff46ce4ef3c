import ByteTap.Monitor.Run
import ByteTap.Text.Terminal

/-!
# The program

From the words of the command line to what is written and the exit code: 0 after a run and for help
and version, 1 for a configuration or a run that fails, 2 for a command line that cannot be read,
and 101 after a panic.
-/

namespace ByteTap.Monitor

/-- How the program ends. -/
structure Exit where
  code : UInt8
  stdout : String := ""
  stderr : String := ""
  deriving DecidableEq, Repr

/-- What is wrong with a command line. -/
def UsageError.message : UsageError → String
  | unknownArgument arg => "error: unexpected argument '" ++ arg ++ "' found"
  | unexpectedValue arg value =>
      "error: unexpected value '" ++ value ++ "' for '" ++ arg ++ "' found; no more were expected"
  | missingValue arg => "error: a value is required for '" ++ arg ++ "' but none was supplied"
  | invalidValue arg value message =>
      "error: invalid value '" ++ value ++ "' for '" ++ arg ++ "': " ++ message
  | conflict arg => "error: the argument '" ++ arg ++ "' cannot be used here"
  | help => helpText
  | version => versionText

namespace Exit

/-- The command line is not carried out. -/
def ofUsage : UsageError → Exit
  | .help => { code := 0, stdout := helpText }
  | .version => { code := 0, stdout := versionText }
  | error => { code := 2, stderr := error.message ++ "\n" }

/-- A text with every line of it indented. -/
def indented (text : String) : String :=
  "\n".intercalate ((Text.parts '\n' text).map ("    " ++ ·))

/-- There is no configuration. -/
def ofConfiguration : ConfigurationError → Exit
  | .panic message => { code := 101, stderr := message ++ "\n" }
  | error =>
      { code := 1
        stderr := "Error: failed to load configuration\n\nCaused by:\n"
          ++ indented error.message ++ "\n" }

/-- No source is named. -/
def ofEndpoint (error : ConfigurationError) : Exit where
  code := 1
  stderr := "Error: " ++ error.message ++ "\n"

/-- The run failed.  The log is written for a terminal. -/
def ofFailure (endpoint : Endpoint) : RunFailure → Exit
  | .panic message => { code := 101, stderr := message ++ "\n" }
  | failure =>
      { code := 1
        stderr := (LogLine.mk .error (Text.forTerminal
          ("Monitoring " ++ endpoint.text ++ " failed: " ++ failure.message))).render ++ "\n" }

/-- The run ended. -/
def ofReport (o : Options) (r : Report) : Exit where
  code := 0
  stdout := if o.json then r.toJson ++ "\n" else r.render

end Exit

/-- The program; there is no exit if the run does not end. -/
def program (s : Surroundings) (network : Network) (started : Moment) (words : List String) :
    Option Exit :=
  match CommandLine.parse words with
  | .error error => some (.ofUsage error)
  | .ok line =>
      match Configuration.load s line with
      | .error error => some (.ofConfiguration error)
      | .ok c =>
          match c.endpoint.resolve with
          | .error error => some (.ofEndpoint error)
          | .ok endpoint =>
              match run s network started c with
              | .error failure => some (.ofFailure endpoint failure)
              | .ok r => r.map (.ofReport c.monitor)

end ByteTap.Monitor
