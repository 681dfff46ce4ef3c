import ByteTap.Document.Decode
import ByteTap.Document.Inline
import ByteTap.Text.Parts

/-!
# Layers of configuration

A configuration is read out of several documents laid over one another.  Where a value does not fit,
the message names the key and where it came from: the last layer that has something at that key.
-/

namespace ByteTap

/-- Where a layer comes from. -/
inductive Origin where
  /-- Built in. -/
  | builtIn
  /-- A file, by its name as it is shown. -/
  | file (name : String)
  /-- The environment variables that start with the given letters. -/
  | environment (start : String)
  /-- The command line. -/
  | flags
  deriving DecidableEq, Repr

namespace Origin

/-- A path of keys as the owner of the origin writes it. -/
def writeKey (path : List String) : Origin → String
  | environment _ => String.ofList ((".".intercalate path).toList.map Char.toUpper)
  | _ => ".".intercalate ("default" :: path)

/-- The origin in a message, if it is worth naming. -/
def describe? : Origin → Option String
  | file name => some (name ++ " TOML file")
  | environment start => some ("`" ++ start ++ "` environment variable(s)")
  | builtIn | flags => none

end Origin

/-- A layer of configuration. -/
structure Layer where
  origin : Origin
  content : Document

namespace Layer

/-- The document that comes of all layers, the later over the earlier. -/
def combine (layers : List Layer) : Document :=
  layers.foldl (fun d layer => d.merge layer.content) (.table .nil)

/-- A document has something at a path of keys.  A list counts for everything in it. -/
def reaches : List String → Document → Bool
  | [], _ => true
  | key :: path, .table entries =>
      match entries.find? key with
      | some d => reaches path d
      | none => false
  | _ :: _, .list _ => true
  | _ :: _, _ => false

/-- The origin of what stands at a path of keys. -/
def originOf (layers : List Layer) (path : List String) : Origin :=
  ((layers.filter fun layer => reaches path layer.content).getLast?.map Layer.origin).getD .builtIn

/-- A mismatch in words, with the key at fault and where it came from. -/
def explain (layers : List Layer) (m : Mismatch) : String :=
  let origin := originOf layers m.path
  m.problem.layeredText
    ++ (if m.path.isEmpty then "" else " for key " ++ Text.quote (origin.writeKey m.path))
    ++ (match origin.describe? with
      | some source => " in " ++ source
      | none => "")

/-- Reads a value out of several layers. -/
def read {α : Type} (layers : List Layer) (decode : Decoder α) : Except String α :=
  (decode (combine layers)).mapError (explain layers)

/-! ## The environment -/

/-- A name with a point in place of every two underscores. -/
def pointed : List Char → List Char
  | '_' :: '_' :: cs => '.' :: pointed cs
  | c :: cs => c :: pointed cs
  | [] => []

/-- The path of keys that a variable sets, if it starts with the given letters in any case: what
follows them in small letters, cut at points and double underscores, no part of it empty. -/
def variablePath? (start name : String) : Option (List String) :=
  let cs := (Text.trimChars name.toList).map Char.toLower
  let start := start.toList.map Char.toLower
  if cs.take start.length = start then
    let path := Text.split '.' (pointed (Text.trimChars (cs.drop start.length)))
    if path.contains [] then none else some (path.map String.ofList)
  else none

/-- What the environment variables that start with the given letters set, laid over a document; or
the panic of reading the first of them whose value cannot be read without one. -/
def layEnvironment (start : String) : Document → List (String × String) → Except String Document
  | d, [] => .ok d
  | d, (name, text) :: rest =>
      match variablePath? start name with
      | none => layEnvironment start d rest
      | some path => do
          layEnvironment start (d.merge (.nest path (← Document.Inline.parse text))) rest

/-- The layer of the environment variables that start with the given letters.  Of two variables for
one key, the later counts. -/
def ofEnvironment (start : String) (environment : List (String × String)) :
    Except String Layer := do
  pure ⟨.environment start, ← layEnvironment start (.table .nil) environment⟩

end Layer

end ByteTap
