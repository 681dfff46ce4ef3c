import ByteTap.Monitor.Program

/-!
# The command

Collects what the program looks at, lets it decide, and writes what it decided.
-/

namespace ByteTap.Main

open ByteTap.Monitor

/-- The environment variables. -/
def environment : IO (List (String × String)) := do
  let bytes ← IO.FS.readBinFile "/proc/self/environ"
  let lines := Text.parts '\x00' ((decodeUtf8? bytes.toList).getD "")
  pure (lines.filterMap fun line =>
    match line.toList.span (· ≠ '=') with
    | (name, _ :: value) => some (String.ofList name, String.ofList value)
    | _ => none)

/-- Adds what stands at some steps from the root to a tree of files. -/
def add (files : FileTree) (steps : List String) : IO FileTree := do
  let found ← try
      let bytes ← IO.FS.readBinFile ("/" ++ "/".intercalate steps)
      pure (some (FileTree.file bytes.toList))
    catch
      | .noFileOrDirectory .. => pure none
      | _ => pure (some FileTree.empty)
  pure (match found with
    | some tree => files.put steps tree
    | none => files)

/-- The steps to a path from the root. -/
def stepsTo (cwd : List String) (written : String) : List String :=
  let path := Path.parse written
  if path.absolute then path.steps else cwd ++ path.steps

/-- A folder and the folders above it. -/
def upward (cwd : List String) : List (List String) :=
  (List.range (cwd.length + 1)).map cwd.take

/-- What is around the program: of the files, those it can look at. -/
def surroundings (words : List String) : IO Surroundings := do
  let cwd := (Path.parse (toString (← IO.currentDir))).steps
  let line := (CommandLine.parse words).toOption.getD {}
  let written := line.config.getD defaultFile
  let files ← ((upward cwd).map (stepsTo · written)).foldlM add
    (FileTree.empty.makeFolder cwd)
  let s : Surroundings := { files, cwd, environment := ← environment }
  match Configuration.load s line with
  | .ok { endpoint := { device := some path, .. }, .. } =>
      pure { s with files := ← add files (stepsTo cwd path) }
  | _ => pure s

end ByteTap.Main

open ByteTap ByteTap.Monitor in
/-- Runs the program and gives its exit code. -/
def main (words : List String) : IO UInt32 := do
  let s ← Main.surroundings words
  let started := Moment.ofSeconds ((← IO.monoMsNow) / 1000)
  match program s Network.isolated started words with
  | some exit =>
      IO.print exit.stdout
      IO.eprint exit.stderr
      pure exit.code.toUInt32
  | none =>
      repeat IO.sleep 1000
      pure 0
