import ByteTap.Monitor.Load
import ByteTap.Proofs.FileTree
import ByteTap.Proofs.Outcome

/-!
# The file that is named

The path of a configuration file on the command line is looked at twice.  `requireFile` asks whether
it leads anywhere, and `fileLayer` looks for a file by it, upwards if it is relative.  The two agree
where the path leads nowhere (`load_of_nowhere`) and where it leads to a file (`load_of_file`).  A
folder is enough for the first and nothing to the second (`load_of_folder`): the run goes on without
the file, or with one of a folder above.

`named_file_counts_iff` puts the three together, and `folder_passes_for_file` is a run that goes on
with the defaults.
-/

namespace ByteTap.Monitor

open Monitor.Configuration

/-- The layer of a file that was found. -/
def Surroundings.foundLayer (s : Surroundings) (written : String) (found : FileTree.Found) :
    Except ConfigurationError Layer :=
  let origin := Origin.file (found.name s.cwd (Path.parse written))
  match decodeUtf8? found.content with
  | none =>
      .error (.loading ("stream did not contain valid UTF-8\n"
        ++ ((origin.describe?.map (" in " ++ ·)).getD "")))
  | some text =>
      match (Document.Toml.parse? text).bind Table.unwrapEntries? with
      | none => .error .unreadable
      | some entries => .ok ⟨origin, .table entries⟩

/-- Loads the configuration that a command line asks for, with a file layer that is given. -/
def Configuration.loadOver (s : Surroundings) (line : CommandLine)
    (fileLayer : Except ConfigurationError Layer) : Except ConfigurationError Configuration := do
  let environment ← s.environmentLayer
  let file ← fileLayer
  let c ← ofLayers ([defaultLayer, file, environment] ++ line.layers)
  (c.replaceEndpoint line).checked

/-- A file is found that the path does not lead to: the nearest one in the folders above. -/
structure FoundAbove (s : Surroundings) (written : String) (found : FileTree.Found) : Prop where
  relative : (Path.parse written).absolute = false
  nearest : s.files.Searched (Path.parse written) s.cwd found.base
  present : s.files.content? found.base (Path.parse written) = some found.content
  elsewhere : found.base ≠ s.cwd

section

variable {s : Surroundings} {line : CommandLine} {written : String}

theorem fileLayer_of_none (absent : s.files.search s.cwd (Path.parse written) = none) :
    s.fileLayer written = .ok ⟨.file written, .table .nil⟩ := by
  unfold Surroundings.fileLayer
  dsimp only
  rw [absent]

theorem fileLayer_of_some {found : FileTree.Found}
    (searched : s.files.search s.cwd (Path.parse written) = some found) :
    s.fileLayer written = s.foundLayer written found := by
  unfold Surroundings.fileLayer
  dsimp only
  rw [searched]
  rfl

/-- A path that leads nowhere is refused before anything else is looked at. -/
theorem load_of_nowhere (named : line.config = some written) {failure : IoFailure}
    (nowhere : s.files.resolve s.cwd (Path.parse written) = .error failure) :
    load s line = .error (.missingFile written) := by
  unfold load requireFile FileTree.reaches
  rw [named]
  dsimp only
  rw [nowhere]
  rfl

/-- Where a path leads somewhere, only the search for a file counts. -/
theorem load_of_somewhere (named : line.config = some written) {place : FileTree}
    (somewhere : s.files.resolve s.cwd (Path.parse written) = .ok place) :
    load s line = loadOver s line (s.fileLayer written) := by
  unfold load requireFile FileTree.reaches
  rw [named]
  dsimp only
  rw [somewhere]
  rfl

/-- The content of the file that a path leads to is what counts. -/
theorem load_of_file (named : line.config = some written) {content : Bytes}
    (file : s.files.resolve s.cwd (Path.parse written) = .ok (.file content)) :
    load s line =
      loadOver s line (s.foundLayer written ⟨(Path.parse written).base s.cwd, content⟩) := by
  have present : s.files.content? s.cwd (Path.parse written) = some content := by
    unfold FileTree.content?
    rw [file]
  rw [load_of_somewhere named file, fileLayer_of_some (FileTree.search_of_content present)]

/-- A folder is passed over: nothing counts for the file, or a file above does. -/
theorem load_of_folder (named : line.config = some written)
    {entries : List (String × FileTree)}
    (folder : s.files.resolve s.cwd (Path.parse written) = .ok (.folder entries)) :
    load s line = loadOver s line (.ok ⟨.file written, .table .nil⟩) ∨
      ∃ found, FoundAbove s written found ∧
        load s line = loadOver s line (s.foundLayer written found) := by
  have absent : s.files.content? s.cwd (Path.parse written) = none := by
    unfold FileTree.content?
    rw [folder]
  rw [load_of_somewhere named folder]
  cases searched : s.files.search s.cwd (Path.parse written) with
  | none => exact .inl (by rw [fileLayer_of_none searched])
  | some found =>
    refine .inr ⟨found, ?_, by rw [fileLayer_of_some searched]⟩
    have relative : (Path.parse written).absolute = false := by
      cases absolute : (Path.parse written).absolute with
      | false => rfl
      | true =>
        -- An absolute path is looked up once, and it leads to the folder.
        unfold FileTree.search at searched
        rw [absolute, absent] at searched
        cases searched
    obtain ⟨nearest, present⟩ := FileTree.searched_of_search relative searched
    have elsewhere : found.base ≠ s.cwd := by
      intro here
      rw [here, absent] at present
      cases present
    exact { relative, nearest, present, elsewhere }

end

/-- What comes of a file that is named.  A path that leads nowhere is refused, and where it leads to
a file, the content of that file counts.  Where it leads to a folder, the folder is passed over, for
a file above or for nothing.  So a configuration that is loaded is always that of the file at the
path, unless there is a folder and one can be loaded without it. -/
theorem named_file_counts_iff {line : CommandLine} {written : String}
    (named : line.config = some written) (s : Surroundings) :
    (∀ failure, s.files.resolve s.cwd (Path.parse written) = .error failure →
      load s line = .error (.missingFile written)) ∧
    (∀ content, s.files.resolve s.cwd (Path.parse written) = .ok (.file content) →
      load s line =
        loadOver s line (s.foundLayer written ⟨(Path.parse written).base s.cwd, content⟩)) ∧
    (∀ entries, s.files.resolve s.cwd (Path.parse written) = .ok (.folder entries) →
      load s line = loadOver s line (.ok ⟨.file written, .table .nil⟩) ∨
        ∃ found, FoundAbove s written found ∧
          load s line = loadOver s line (s.foundLayer written found)) ∧
    ((∀ c, load s line = .ok c →
        ∃ content, s.files.resolve s.cwd (Path.parse written) = .ok (.file content) ∧
          loadOver s line (s.foundLayer written ⟨(Path.parse written).base s.cwd, content⟩) =
            .ok c) ↔
      ∀ entries, s.files.resolve s.cwd (Path.parse written) = .ok (.folder entries) →
        ∀ c, loadOver s line (s.fileLayer written) ≠ .ok c) := by
  refine ⟨fun _ => load_of_nowhere named, fun _ => load_of_file named,
    fun _ => load_of_folder named, ?_⟩
  cases resolved : s.files.resolve s.cwd (Path.parse written) with
  | error failure => simp [load_of_nowhere named resolved]
  | ok place =>
    cases place with
    | file content => simp [load_of_file named resolved]
    | folder entries => simp [load_of_somewhere named resolved]

/-- A working folder in which a folder has the name of a configuration file, with such a file in the
folder above. -/
def folderBelowFile : Surroundings where
  files := .folder
    [("app.toml", .file "[engine]\ncapacity = 16\n".toUTF8.toList),
      ("work", .folder [("app.toml", .empty)])]
  cwd := ["work"]

/-- The file above is loaded in the place of the folder that was named. -/
theorem named_file_counts_iff_of_file_above :
    ∃ found, FoundAbove folderBelowFile "app.toml" found ∧
      loadOver folderBelowFile { config := some "app.toml" }
        (folderBelowFile.foundLayer "app.toml" found) = .ok { engine := { capacity := 16 } } := by
  have loaded : (load folderBelowFile { config := some "app.toml" }).toOption =
      some { engine := { capacity := 16 } } := by
    decide +kernel
  have without : (loadOver folderBelowFile { config := some "app.toml" }
      (.ok ⟨.file "app.toml", .table .nil⟩)).toOption = some {} := by
    decide +kernel
  have named : CommandLine.config { config := some "app.toml" } = some "app.toml" := rfl
  obtain ⟨-, -, folder, -⟩ := named_file_counts_iff named folderBelowFile
  rcases folder [] rfl with nothing | ⟨found, above, instead⟩
  · rw [nothing, without] at loaded
    exact absurd loaded (by decide)
  · rw [instead] at loaded
    exact ⟨found, above, eq_ok_of_toOption loaded⟩

/-- A folder that is named lets the defaults through. -/
theorem folder_passes_for_file :
    ¬ ∀ (line : CommandLine) (written : String) (s : Surroundings) (c : Configuration),
      line.config = some written → load s line = .ok c →
      ∃ content, s.files.resolve s.cwd (Path.parse written) = .ok (.file content) := by
  intro counts
  have loaded : (load { files := .folder [("conf", .empty)] } { config := some "conf" }).toOption =
      some {} := by
    decide +kernel
  obtain ⟨content, file⟩ :=
    counts { config := some "conf" } "conf" _ _ rfl (eq_ok_of_toOption loaded)
  cases file

end ByteTap.Monitor
