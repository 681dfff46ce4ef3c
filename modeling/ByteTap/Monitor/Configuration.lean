import ByteTap.Document.Decode

/-!
# Configuration of the monitor

Which byte source to read, how to set up the engine, and how to watch it.  A configuration is valid
if the engine's settings are, if at most one source is named, and if the times make sense; that a
source is named at all is asked only when it is opened.
-/

namespace ByteTap.Monitor

/-- The byte source, as it is configured. -/
structure EndpointSettings where
  /-- The address of a receiver, with a port. -/
  tcp : Option String := none
  /-- The path of a device or file. -/
  device : Option String := none
  deriving DecidableEq, Repr, Inhabited

/-- How the engine is watched. -/
structure Options where
  /-- Release bytes as soon as they were received. -/
  drain : Bool := false
  /-- Stop after that many seconds. -/
  durationSecs : Option UInt64 := none
  /-- The longest wait for data at a time, in milliseconds. -/
  pollIntervalMs : UInt64 := 250
  /-- The least time between two lines about the progress, in milliseconds. -/
  progressIntervalMs : UInt64 := 1000
  /-- Write the report as JSON. -/
  json : Bool := false
  /-- Write more to the log. -/
  verbose : Bool := false
  deriving DecidableEq, Repr, Inhabited

/-- The configuration of a run. -/
structure Configuration where
  endpoint : EndpointSettings := {}
  engine : Settings := {}
  monitor : Options := {}
  deriving DecidableEq, Repr, Inhabited

/-- Why there is no configuration to run with. -/
inductive ConfigurationError where
  /-- The layers could not be read. -/
  | loading (text : String)
  /-- The text of the file is not TOML. -/
  | unreadable
  /-- The values make no sense. -/
  | invalid (text : String)
  /-- A file that was asked for is not there. -/
  | missingFile (path : String)
  /-- Reading the layers panicked. -/
  | panic (message : String)
  deriving DecidableEq, Repr

/-- What an error says. -/
def ConfigurationError.message : ConfigurationError → String
  | loading text => "Configuration loading error: " ++ text
  | unreadable => "Configuration loading error: TOML parse error"
  | invalid text => "Configuration validation error: " ++ text
  | missingFile path => "Configuration file not found: " ++ path
  | panic text => text

/-- A byte source. -/
inductive Endpoint where
  | tcp (address : String)
  | device (path : String)
  deriving DecidableEq, Repr

/-- A byte source in words. -/
def Endpoint.text : Endpoint → String
  | tcp address => "tcp://" ++ address
  | device path => "device://" ++ path

/-- Which source is meant. -/
def EndpointSettings.resolve : EndpointSettings → Except ConfigurationError Endpoint
  | ⟨some address, none⟩ => .ok (.tcp address)
  | ⟨none, some path⟩ => .ok (.device path)
  | ⟨none, none⟩ => .error (.invalid "no endpoint configured; pass --tcp or --device")
  | ⟨some _, some _⟩ =>
      .error (.invalid "configure either a TCP endpoint or a device, not both")

namespace Configuration

/-- What makes a configuration invalid, beside the engine's settings. -/
inductive Flaw where
  | twoEndpoints
  | addressWithoutPort (address : String)
  | zeroPollInterval
  | zeroDuration
  deriving DecidableEq, Repr

/-- What a flaw says. -/
def Flaw.message : Flaw → String
  | twoEndpoints => "configure either a TCP endpoint or a device, not both"
  | addressWithoutPort address => "TCP endpoint '" ++ address ++ "' must be HOST:PORT"
  | zeroPollInterval => "poll interval must be greater than 0"
  | zeroDuration => "duration must be greater than 0"

/-- The address has a colon. -/
def hasPort (address : String) : Bool := address.toList.contains ':'

/-- The first flaw of a configuration, if any. -/
def flaw? (c : Configuration) : Option Flaw :=
  if c.endpoint.tcp.isSome && c.endpoint.device.isSome then some .twoEndpoints
  else match c.endpoint.tcp.filter fun address => !hasPort address with
    | some address => some (.addressWithoutPort address)
    | none =>
        if c.monitor.pollIntervalMs = 0 then some .zeroPollInterval
        else if c.monitor.durationSecs = some 0 then some .zeroDuration
        else none

/-- Refuses a configuration that makes no sense. -/
def validate (c : Configuration) : Except ConfigurationError Unit :=
  match c.engine.validate with
  | .error fault => .error (.invalid fault.message)
  | .ok () =>
      match c.flaw? with
      | some flaw => .error (.invalid flaw.message)
      | none => .ok ()

/-- How long to run, in milliseconds. -/
def durationMs (c : Configuration) : Option Nat :=
  c.monitor.durationSecs.map fun secs => secs.toNat * 1000

/-! ## As documents -/

/-- The shape of the settings of the source. -/
def endpointShape : Decoder.Shape EndpointSettings where
  title := "EndpointConfig"
  start := {}
  fields :=
    [.of "tcp" (.optional (.text "a string")) fun x s => { s with tcp := x },
     .of "device" (.optional (.text "path string")) fun x s => { s with device := x }]

/-- The shape of the options. -/
def optionsShape : Decoder.Shape Options where
  title := "MonitorConfig"
  start := {}
  fields :=
    [.of "drain" .bool fun x s => { s with drain := x },
     .of "duration_secs" (.optional (.word "u64")) fun x s => { s with durationSecs := x },
     .of "poll_interval_ms" (.word "u64") fun x s => { s with pollIntervalMs := x },
     .of "progress_interval_ms" (.word "u64") fun x s => { s with progressIntervalMs := x },
     .of "json" .bool fun x s => { s with json := x },
     .of "verbose" .bool fun x s => { s with verbose := x }]

/-- The shape of a configuration. -/
def shape (dialect : Dialect) : Decoder.Shape Configuration where
  title := "AppConfig"
  start := {}
  fields :=
    [.of "endpoint" (.record dialect endpointShape) fun x s => { s with endpoint := x },
     .of "engine" (Settings.decode dialect) fun x s => { s with engine := x },
     .of "monitor" (.record dialect optionsShape) fun x s => { s with monitor := x }]

/-- Reads a configuration; what is not there has its default. -/
def decode (dialect : Dialect) : Decoder Configuration := Decoder.record dialect (shape dialect)

/-- A value or nothing, as a document. -/
def orNull {α : Type} (f : α → Document) : Option α → Document
  | some a => f a
  | none => .null

/-- A configuration as a document. -/
def toDocument (c : Configuration) : Document :=
  .table (.ofList
    [("endpoint", .table (.ofList
      [("tcp", orNull .text c.endpoint.tcp), ("device", orNull .text c.endpoint.device)])),
     ("engine", c.engine.toDocument),
     ("monitor", .table (.ofList
      [("drain", .bool c.monitor.drain),
       ("duration_secs", orNull .natural c.monitor.durationSecs),
       ("poll_interval_ms", .natural c.monitor.pollIntervalMs),
       ("progress_interval_ms", .natural c.monitor.progressIntervalMs),
       ("json", .bool c.monitor.json),
       ("verbose", .bool c.monitor.verbose)]))])

/-! ## As a file -/

/-- A line of a configuration file. -/
def line (key value : String) : String := key ++ " = " ++ value ++ "\n"

/-- A line of a configuration file, if there is a value. -/
def lineIfSome (key : String) : Option String → String
  | some value => line key value
  | none => ""

/-- A configuration as the text of a file.  The texts in it hold no quotes, backslashes and control
characters. -/
def toFile (c : Configuration) : String :=
  let quoted (s : String) : String := "\"" ++ s ++ "\""
  "[endpoint]\n"
    ++ lineIfSome "tcp" (c.endpoint.tcp.map quoted)
    ++ lineIfSome "device" (c.endpoint.device.map quoted)
    ++ "\n[engine]\n"
    ++ line "capacity" (toString c.engine.capacity.toNat)
    ++ line "capacity_policy" (quoted c.engine.policy.name)
    ++ line "error_backoff_ms" (toString c.engine.errorBackoffMs.toNat)
    ++ line "max_error_backoff_ms" (toString c.engine.maxErrorBackoffMs.toNat)
    ++ line "worker_name" (quoted c.engine.workerName)
    ++ "\n[monitor]\n"
    ++ line "drain" (toString c.monitor.drain)
    ++ lineIfSome "duration_secs" (c.monitor.durationSecs.map fun n => toString n.toNat)
    ++ line "poll_interval_ms" (toString c.monitor.pollIntervalMs.toNat)
    ++ line "progress_interval_ms" (toString c.monitor.progressIntervalMs.toNat)
    ++ line "json" (toString c.monitor.json)
    ++ line "verbose" (toString c.monitor.verbose)

/-- A configuration to start from. -/
def sample : Configuration where
  endpoint := { tcp := some "192.168.3.1:28784" }
  monitor := { durationSecs := some 60 }

end Configuration

end ByteTap.Monitor
