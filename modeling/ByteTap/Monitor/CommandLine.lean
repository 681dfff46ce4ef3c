import ByteTap.Number.Word
import ByteTap.Policy

/-!
# The command line

Options with a value, written `--name value` or `--name=value`, and switches without one; some have
a short form of one letter, and short forms can be joined behind one dash.

The words are read from left to right.  An option whose value is a word of its own is looked at only
when the next known option or switch comes, or the end; a word that has no place is refused at once.
That decides which of two errors is reported.
-/

namespace ByteTap.Monitor

/-- What a command line asks for. -/
structure CommandLine where
  tcp : Option String := none
  device : Option String := none
  capacity : Option UInt64 := none
  policy : Option Policy := none
  drain : Bool := false
  durationSecs : Option UInt64 := none
  /-- The configuration file. -/
  config : Option String := none
  verbose : Bool := false
  json : Bool := false
  deriving DecidableEq, Repr, Inhabited

/-- The options with a value. -/
inductive ValueOption where
  | tcp | device | capacity | policy | duration | config
  deriving DecidableEq, Repr

/-- The switches. -/
inductive Switch where
  | drain | verbose | json
  deriving DecidableEq, Repr

/-- What a name on the command line stands for. -/
inductive Flag where
  | option (option : ValueOption)
  | switch (switch : Switch)
  | help
  | version
  deriving DecidableEq, Repr

/-- Why a command line is not carried out. -/
inductive UsageError where
  /-- A word has no place. -/
  | unknownArgument (arg : String)
  /-- A switch was given a value. -/
  | unexpectedValue (arg value : String)
  /-- An option was given no value, or an empty one where that means nothing. -/
  | missingValue (arg : String)
  /-- A value cannot be read. -/
  | invalidValue (arg value message : String)
  /-- Something was given twice, or beside what it excludes. -/
  | conflict (arg : String)
  /-- The help was asked for. -/
  | help
  /-- The version was asked for. -/
  | version
  deriving DecidableEq, Repr

namespace ValueOption

/-- The long name. -/
def name : ValueOption → String
  | tcp => "tcp"
  | device => "device"
  | capacity => "capacity"
  | policy => "policy"
  | duration => "duration"
  | config => "config"

/-- The word that stands for the value in texts. -/
def placeholder : ValueOption → String
  | tcp => "HOST:PORT"
  | device => "PATH"
  | capacity => "CAPACITY"
  | policy => "POLICY"
  | duration => "SECS"
  | config => "CONFIG"

/-- The option in messages. -/
def display (o : ValueOption) : String := "--" ++ o.name ++ " <" ++ o.placeholder ++ ">"

end ValueOption

namespace Switch

/-- The long name. -/
def name : Switch → String
  | drain => "drain"
  | verbose => "verbose"
  | json => "json"

/-- The switch in messages. -/
def display (s : Switch) : String := "--" ++ s.name

end Switch

namespace Flag

/-- The long names. -/
def ofLong? : String → Option Flag
  | "tcp" => some (option .tcp)
  | "device" => some (option .device)
  | "capacity" => some (option .capacity)
  | "policy" => some (option .policy)
  | "duration" => some (option .duration)
  | "config" => some (option .config)
  | "drain" => some (switch .drain)
  | "verbose" => some (switch .verbose)
  | "json" => some (switch .json)
  | "help" => some help
  | "version" => some version
  | _ => none

/-- The short names. -/
def ofShort? : Char → Option Flag
  | 'c' => some (option .config)
  | 'v' => some (switch .verbose)
  | 'h' => some help
  | 'V' => some version
  | _ => none

/-- What stands for the value, and in messages. -/
def display : Flag → String
  | option o => o.display
  | switch s => s.display
  | help => "--help"
  | version => "--version"

end Flag

/-! ## Values -/

/-- Puts the value of an option into the command line. -/
def CommandLine.set (line : CommandLine) (o : ValueOption) (value : String) :
    Except UsageError CommandLine :=
  let number (put : UInt64 → CommandLine) : Except UsageError CommandLine :=
    match Word.parse value with
    | .ok n => .ok (put n)
    | .error e => .error (.invalidValue o.display value e.message)
  let path (put : String → CommandLine) : Except UsageError CommandLine :=
    if value = "" then .error (.missingValue o.display) else .ok (put value)
  match o with
  | .tcp => .ok { line with tcp := some value }
  | .device => path fun p => { line with device := some p }
  | .capacity => number fun n => { line with capacity := some n }
  | .policy =>
      match Policy.parse value with
      | .ok p => .ok { line with policy := some p }
      | .error fault => .error (.invalidValue o.display value fault.message)
  | .duration => number fun n => { line with durationSecs := some n }
  | .config => path fun p => { line with config := some p }

/-- Turns a switch on. -/
def CommandLine.turnOn (line : CommandLine) : Switch → CommandLine
  | .drain => { line with drain := true }
  | .verbose => { line with verbose := true }
  | .json => { line with json := true }

/-! ## Words -/

namespace CommandLine

/-- What has been read. -/
structure Reading where
  line : CommandLine := {}
  /-- What was given, newest first. -/
  given : List Flag := []
  /-- An option that is not yet looked at, with its value if that has come. -/
  pending : Option (ValueOption × Option String) := none
  /-- Only words follow that are no options. -/
  onlyWords : Bool := false

namespace Reading

/-- Notes that something was given, unless it was given before. -/
def give (r : Reading) (flag : Flag) : Except UsageError Reading :=
  if r.given.contains flag then .error (.conflict flag.display)
  else .ok { r with given := flag :: r.given }

/-- Takes an option with its value. -/
def take (r : Reading) (o : ValueOption) : Option String → Except UsageError Reading
  | none => .error (.missingValue o.display)
  | some value => do
      let r ← r.give (.option o)
      pure { r with line := ← r.line.set o value }

/-- Looks at the option that is pending. -/
def resolve (r : Reading) : Except UsageError Reading :=
  match r.pending with
  | none => .ok r
  | some (o, value) => { r with pending := none }.take o value

/-- A known name, with the value that is attached to it, if any. -/
def known (r : Reading) (flag : Flag) (attached : Option String) : Except UsageError Reading :=
  match flag, attached with
  | .option o, some value => do (← r.resolve).take o (some value)
  | .option o, none => do pure { ← r.resolve with pending := some (o, none) }
  | _, some value => .error (.unexpectedValue flag.display value)
  | .switch s, none => do
      let r ← (← r.resolve).give flag
      pure { r with line := r.line.turnOn s }
  | .help, none => do
      let _ ← r.resolve
      .error .help
  | .version, none => do
      let _ ← r.resolve
      .error .version

/-- The letters behind one dash. -/
def letters (r : Reading) : List Char → Except UsageError Reading
  | [] => .ok r
  | c :: rest =>
      match Flag.ofShort? c with
      | none => .error (.unknownArgument (String.ofList ['-', c]))
      | some (.option o) =>
          r.known (.option o) (match rest with
            | [] => none
            | '=' :: value => some (String.ofList value)
            | value => some (String.ofList value))
      | some flag => do letters (← r.known flag none) rest

/-- A word that is no option: the value that is waited for, or nothing that has a place. -/
def plain (r : Reading) (word : String) : Except UsageError Reading :=
  match r.pending, r.onlyWords with
  | some (o, none), false => .ok { r with pending := some (o, some word) }
  | _, _ => .error (.unknownArgument word)

/-- A name behind two dashes. -/
def long (r : Reading) (cs : List Char) : Except UsageError Reading :=
  let name := String.ofList (cs.takeWhile (· ≠ '='))
  let attached := match cs.dropWhile (· ≠ '=') with
    | [] => none
    | _ :: value => some (String.ofList value)
  match Flag.ofLong? name with
  | some flag => r.known flag attached
  | none => .error (.unknownArgument ("--" ++ name))

/-- The next word. -/
def word (r : Reading) (text : String) : Except UsageError Reading :=
  if r.onlyWords then r.plain text
  else match text.toList with
    | ['-', '-'] => .ok { r with onlyWords := true }
    | '-' :: '-' :: cs => r.long cs
    | '-' :: c :: cs => r.letters (c :: cs)
    | _ => r.plain text

/-- A flag names a byte source. -/
def isEndpoint : Flag → Bool
  | .option .tcp | .option .device => true
  | _ => false

/-- The end of the line: of two byte sources, the one given first is at fault. -/
def finish (r : Reading) : Except UsageError CommandLine := do
  let r ← r.resolve
  match r.given.filter isEndpoint with
  | [_, first] => .error (.conflict first.display)
  | _ => pure r.line

end Reading

/-- Reads the words of a command line. -/
def parse (words : List String) : Except UsageError CommandLine := do
  (← words.foldlM Reading.word {}).finish

end CommandLine

/-! ## Texts -/

/-- The name and number of this version. -/
def versionText : String := "rxstream-cli 0.1.0\n"

/-- A line of the help about one name: the name, padded, and what it does. -/
def helpLine (names about : String) : String :=
  names ++ String.ofList (List.replicate (29 - names.length) ' ') ++ about ++ "\n"

/-- The help. -/
def helpText : String :=
  "Command-line tap for serial and TCP receivers built on rxstream-core\n"
    ++ "\nUsage: rxstream [OPTIONS]\n\nOptions:\n"
    ++ helpLine "      --tcp <HOST:PORT>" "Receiver reachable over TCP (HOST:PORT)"
    ++ helpLine "      --device <PATH>" "Serial device node or other readable byte source"
    ++ helpLine "      --capacity <CAPACITY>" "Receive buffer capacity in bytes"
    ++ helpLine "      --policy <POLICY>" "What to do when the buffer fills up"
    ++ helpLine "      --drain"
      "Release bytes as soon as they are reported instead of accumulating them"
    ++ helpLine "      --duration <SECS>" "Stop after this many seconds"
    ++ helpLine "  -c, --config <CONFIG>"
      "Configuration file path (defaults to ./rxstream.toml when present)"
    ++ helpLine "  -v, --verbose" "Enable verbose logging"
    ++ helpLine "      --json" "Print the final report as JSON"
    ++ helpLine "  -h, --help" "Print help"
    ++ helpLine "  -V, --version" "Print version"

end ByteTap.Monitor
