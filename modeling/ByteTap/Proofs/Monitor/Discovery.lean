import ByteTap.Monitor.Load
import ByteTap.Proofs.FileTree
import ByteTap.Proofs.Outcome

/-!
# Which file is picked up

Without a file on the command line, the one in the working folder is picked up.  If there is none,
the search does not end there: the nearest one in a folder above is picked up instead, so that a
folder inherits what lies above it.

* `load_of_search`: what is loaded depends on the tree of files through the file that is found;
* `nearest_file_counts`: the file in the working folder stands alone where it is there, and
  otherwise what is loaded is what the folder above loads;
* `file_above_picked_up`: a file above the working folder makes a difference.
-/

namespace ByteTap

/-- What comes of some layers does not depend on where they come from. -/
theorem Layer.combine_congr {layers others : List Layer}
    (same : others.map Layer.content = layers.map Layer.content) :
    combine others = combine layers := by
  have contents (layers : List Layer) :
      combine layers = (layers.map Layer.content).foldl Document.merge (.table .nil) := by
    rw [List.foldl_map]
    rfl
  rw [contents, contents, same]

namespace Monitor

open Monitor.Configuration

/-- The configuration file in a folder, if it is there. -/
def configurationIn? (files : FileTree) (folder : List String) : Option Bytes :=
  files.content? folder (Path.parse defaultFile)

section

variable {s t : Surroundings} {line : CommandLine} {c : Configuration}

theorem ofLayers_of_contents {layers others : List Layer}
    (same : others.map Layer.content = layers.map Layer.content) (read : ofLayers layers = .ok c) :
    ofLayers others = .ok c := by
  have decoded := mapError_eq_ok.1 (mapError_eq_ok.1 read)
  rw [← Layer.combine_congr same] at decoded
  exact mapError_eq_ok.2 (mapError_eq_ok.2 decoded)

/-- A file reads the same from wherever it is found; only the name it is shown by may differ. -/
theorem fileLayer_of_search {written : String} {file : Layer}
    (same : t.files.search t.cwd (Path.parse written) = s.files.search s.cwd (Path.parse written))
    (read : s.fileLayer written = .ok file) :
    ∃ other, t.fileLayer written = .ok other ∧ other.content = file.content := by
  unfold Surroundings.fileLayer at read ⊢
  dsimp only at read ⊢
  rw [same]
  cases searched : s.files.search s.cwd (Path.parse written) with
  | none =>
    rw [searched] at read
    cases read
    exact ⟨_, rfl, rfl⟩
  | some found =>
    rw [searched] at read
    dsimp only at read ⊢
    cases decoded : decodeUtf8? found.content with
    | none =>
      rw [decoded] at read
      cases read
    | some text =>
      rw [decoded] at read
      dsimp only at read ⊢
      cases parsed : (Document.Toml.parse? text).bind Table.unwrapEntries? with
      | none =>
        rw [parsed] at read
        cases read
      | some entries =>
        rw [parsed] at read
        cases read
        exact ⟨_, rfl, rfl⟩

theorem load_unnamed (unnamed : line.config = none) (s : Surroundings) :
    load s line = (do
      let environment ← s.environmentLayer
      let file ← s.fileLayer defaultFile
      let c ← ofLayers ([defaultLayer, file, environment] ++ line.layers)
      (c.replaceEndpoint line).checked) := by
  unfold load requireFile
  rw [unnamed]
  rfl

/-- Where the same file is found, the same configuration is loaded. -/
theorem load_of_search (unnamed : line.config = none) (around : t.environment = s.environment)
    (same : t.files.search t.cwd (Path.parse defaultFile) =
      s.files.search s.cwd (Path.parse defaultFile))
    (loaded : load s line = .ok c) : load t line = .ok c := by
  rw [load_unnamed unnamed] at loaded ⊢
  obtain ⟨environment, environmentRead, loaded⟩ := bind_eq_ok.1 loaded
  obtain ⟨file, fileRead, loaded⟩ := bind_eq_ok.1 loaded
  obtain ⟨merged, read, loaded⟩ := bind_eq_ok.1 loaded
  obtain ⟨other, otherRead, content⟩ := fileLayer_of_search same fileRead
  have variablesRead : t.environmentLayer = .ok environment := by
    unfold Surroundings.environmentLayer at environmentRead ⊢
    rw [around]
    exact environmentRead
  have contents : ([defaultLayer, other, environment] ++ line.layers).map Layer.content =
      ([defaultLayer, file, environment] ++ line.layers).map Layer.content := by
    simp only [List.map_append, List.map_cons, content]
  have merges := ofLayers_of_contents contents read
  exact bind_eq_ok.2 ⟨environment, variablesRead,
    bind_eq_ok.2 ⟨other, otherRead, bind_eq_ok.2 ⟨merged, merges, loaded⟩⟩⟩

/-- From one working folder, the same file found makes for the same messages too. -/
theorem load_congr {files : FileTree} (unnamed : line.config = none)
    (same : files.search s.cwd (Path.parse defaultFile) =
      s.files.search s.cwd (Path.parse defaultFile)) :
    load { s with files } line = load s line := by
  have own : ({ s with files } : Surroundings).fileLayer defaultFile = s.fileLayer defaultFile := by
    unfold Surroundings.fileLayer
    dsimp only
    rw [same]
  rw [load_unnamed unnamed, load_unnamed unnamed, own]
  rfl

end

/-- The configuration file in the working folder counts alone where it is there, or where nothing
lies above.  In general the folders count that are searched for the file; where the working folder
has none, the same configuration is loaded as from the folder above. -/
theorem nearest_file_counts {line : CommandLine} (unnamed : line.config = none)
    (s : Surroundings) :
    (∀ files, configurationIn? files s.cwd = configurationIn? s.files s.cwd →
      (configurationIn? s.files s.cwd).isSome = true ∨ s.cwd = [] →
      load { s with files } line = load s line) ∧
    (∀ files, (∀ folder, s.files.Searched (Path.parse defaultFile) s.cwd folder →
        configurationIn? files folder = configurationIn? s.files folder) →
      load { s with files } line = load s line) ∧
    ∀ above step, s.cwd = above ++ [step] → configurationIn? s.files s.cwd = none →
      ∀ c, load s line = .ok c ↔ load { s with cwd := above } line = .ok c := by
  have relative : (Path.parse defaultFile).absolute = false := by
    decide
  have searched (files : FileTree)
      (same : ∀ folder, s.files.Searched (Path.parse defaultFile) s.cwd folder →
        configurationIn? files folder = configurationIn? s.files folder) :
      load { s with files } line = load s line :=
    load_congr unnamed (FileTree.search_congr relative same)
  refine ⟨?_, searched, ?_⟩
  · rintro files same alone
    refine searched files fun folder among => ?_
    -- Of the folders that are searched only the working folder is left.
    have own : folder = s.cwd := by
      rcases alone with present | top
      · exact among.eq_of_isSome present
      · rw [top] at among ⊢
        exact List.prefix_nil.1 among.above
    rw [own]
    exact same
  · rintro above step lies absent c
    have same : s.files.search s.cwd (Path.parse defaultFile) =
        s.files.search above (Path.parse defaultFile) := by
      rw [lies] at absent ⊢
      rw [FileTree.search_concat relative]
      unfold configurationIn? at absent
      rw [absent]
    constructor
    · exact load_of_search unnamed rfl same.symm
    · exact load_of_search unnamed rfl same

/-- A working folder with nothing in it. -/
def bareFolder : Surroundings where
  files := .folder [("work", .empty)]
  cwd := ["work"]

/-- The same with a configuration file in the folder above. -/
def fileAbove : Surroundings where
  files := .folder
    [("rxstream.toml", .file "[engine]\ncapacity = 16\n".toUTF8.toList), ("work", .empty)]
  cwd := ["work"]

/-- The capacity is taken from the file above the working folder. -/
theorem nearest_file_counts_of_file_above :
    configurationIn? fileAbove.files fileAbove.cwd = none ∧
      load fileAbove {} = .ok { engine := { capacity := 16 } } := by
  have absent : configurationIn? fileAbove.files fileAbove.cwd = none := by
    decide
  have loaded : (load { fileAbove with cwd := [] } {}).toOption =
      some { engine := { capacity := 16 } } := by
    decide +kernel
  have unnamed : CommandLine.config {} = none := rfl
  obtain ⟨-, -, inherits⟩ := nearest_file_counts unnamed fileAbove
  exact ⟨absent, (inherits [] "work" rfl absent _).2 (eq_ok_of_toOption loaded)⟩

/-- Two trees with the same working folder, the file absent in both, from which different
configurations are loaded. -/
theorem file_above_picked_up :
    ¬ ∀ (line : CommandLine) (s : Surroundings) (files : FileTree), line.config = none →
      configurationIn? files s.cwd = configurationIn? s.files s.cwd →
      load { s with files } line = load s line := by
  intro alone
  have same := alone {} bareFolder fileAbove.files rfl (by decide)
  have above : (load { bareFolder with files := fileAbove.files } {}).toOption =
      some { engine := { capacity := 16 } } := by
    decide +kernel
  have bare : (load bareFolder {}).toOption = some {} := by
    decide +kernel
  rw [same, bare] at above
  exact absurd above (by decide)

end Monitor

end ByteTap
