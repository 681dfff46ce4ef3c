import ByteTap.Document.Layer
import ByteTap.Document.Toml
import ByteTap.Document.Wrapped
import ByteTap.FileTree
import ByteTap.Monitor.CommandLine
import ByteTap.Monitor.Configuration

/-!
# Loading the configuration

Four layers, the later over the earlier: the built-in defaults, a file, the environment and the
command line.  The file that the command line names has to be there; the file that is looked for
otherwise may be absent.

An endpoint on the command line replaces whichever one the other layers name.
-/

namespace ByteTap.Monitor

/-- What a run finds around it. -/
structure Surroundings where
  files : FileTree
  /-- The working folder, by its steps from the root. -/
  cwd : List String := []
  /-- The environment variables, in order. -/
  environment : List (String × String) := []

/-- The file that is looked for if none is named. -/
def defaultFile : String := "rxstream.toml"

/-- The letters with which the environment variables start. -/
def variableStart : String := "RXSTREAM_"

/-- The text that bytes write in UTF-8. -/
def decodeUtf8? (bytes : Bytes) : Option String := String.fromUTF8? ⟨bytes.toArray⟩

namespace Surroundings

/-- The layer of a file.  A file that is not found has nothing in it. -/
def fileLayer (s : Surroundings) (written : String) : Except ConfigurationError Layer :=
  let path := Path.parse written
  match s.files.search s.cwd path with
  | none => .ok ⟨.file written, .table .nil⟩
  | some found =>
      let origin := Origin.file (found.name s.cwd path)
      match decodeUtf8? found.content with
      | none =>
          .error (.loading ("stream did not contain valid UTF-8\n"
            ++ ((origin.describe?.map (" in " ++ ·)).getD "")))
      | some text =>
          match (Document.Toml.parse? text).bind Table.unwrapEntries? with
          | none => .error .unreadable
          | some entries => .ok ⟨origin, .table entries⟩

/-- The layer of the environment. -/
def environmentLayer (s : Surroundings) : Except ConfigurationError Layer :=
  (Layer.ofEnvironment variableStart s.environment).mapError .panic

end Surroundings

namespace CommandLine

/-- A value at the end of a path of keys, if there is one. -/
def entry {α : Type} (path : List String) (f : α → Document) : Option α → List Document
  | some a => [.nest path (f a)]
  | none => []

/-- What the command line sets, key by key. -/
def settings (c : CommandLine) : List Document :=
  let on (set : Bool) : Option Bool := if set then some true else none
  entry ["endpoint", "tcp"] .text c.tcp
    ++ entry ["endpoint", "device"] .text c.device
    ++ entry ["engine", "capacity"] .natural c.capacity
    ++ entry ["engine", "capacity_policy"] (fun p => .text p.name) c.policy
    ++ entry ["monitor", "duration_secs"] .natural c.durationSecs
    ++ entry ["monitor", "drain"] .bool (on c.drain)
    ++ entry ["monitor", "json"] .bool (on c.json)
    ++ entry ["monitor", "verbose"] .bool (on c.verbose)

/-- The layers of the command line. -/
def layers (c : CommandLine) : List Layer := c.settings.map (⟨.flags, ·⟩)

end CommandLine

namespace Configuration

/-- The layer of the defaults. -/
def defaultLayer : Layer := ⟨.builtIn, toDocument {}⟩

/-- Reads a configuration out of its layers. -/
def ofLayers (layers : List Layer) : Except ConfigurationError Configuration :=
  (Layer.read layers (decode .layered)).mapError .loading

/-- An endpoint on the command line replaces the one of the other kind. -/
def replaceEndpoint (c : Configuration) (line : CommandLine) : Configuration :=
  let endpoint := c.endpoint
  let endpoint := if line.tcp.isSome then { endpoint with device := none } else endpoint
  let endpoint := if line.device.isSome then { endpoint with tcp := none } else endpoint
  { c with endpoint }

/-- Refuses a configuration that makes no sense. -/
def checked (c : Configuration) : Except ConfigurationError Configuration := do
  c.validate
  pure c

/-- A file that was named and is not there is an error. -/
def requireFile (s : Surroundings) (line : CommandLine) : Except ConfigurationError Unit :=
  match line.config with
  | some written =>
      if s.files.reaches s.cwd (Path.parse written) then .ok () else .error (.missingFile written)
  | none => .ok ()

/-- Loads the configuration that a command line asks for.  The environment is read even if the file
cannot be, so its panic comes before what is wrong with the file. -/
def load (s : Surroundings) (line : CommandLine) : Except ConfigurationError Configuration := do
  requireFile s line
  let environment ← s.environmentLayer
  let file ← s.fileLayer (line.config.getD defaultFile)
  let c ← ofLayers ([defaultLayer, file, environment] ++ line.layers)
  (c.replaceEndpoint line).checked

/-- Loads the configuration of a file alone. -/
def loadFile (s : Surroundings) (written : String) : Except ConfigurationError Configuration := do
  let file ← s.fileLayer written
  (← ofLayers [defaultLayer, file]).checked

end Configuration

end ByteTap.Monitor
