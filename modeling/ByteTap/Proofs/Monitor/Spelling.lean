import ByteTap.Proofs.Document.Word
import ByteTap.Proofs.Monitor.Endpoint
import ByteTap.Proofs.Policy

/-!
# The policy in every layer

The policy can be written in the file, in the environment and on the command line.  A text for it
below the command line has to be its name; on the command line the letters may also be capitals.

* `policy_of_load`: with a text below the command line, what is loaded has the policy of that name;
* `policy_of_named`: a policy on the command line is loaded whatever lies below it;
* `load_of_name`: with the name of a policy below it, the command line may as well give that policy;
* `loadedAlike_iff`: so a text has one meaning in all layers unless it is `Capitalised`, and then it
  has one on the command line alone.
-/

namespace ByteTap.Monitor

open Monitor.Configuration

/-- A text stands for the policy: in the environment, or else in the file. -/
inductive Written (file environment : Document) (text : String) : Prop where
  | inEnvironment (there : environment.lookup Leaf.policy.path = some (.text text))
  | inFile (there : file.lookup Leaf.policy.path = some (.text text))
      (unset : environment.lookup Leaf.policy.path = none)
      (sectioned : isSectioned environment = true)

/-- A text stands for the policy below a command line that says nothing about it. -/
structure WrittenBelow (s : Surroundings) (line : CommandLine) (text : String) : Prop where
  unset : line.policy = none
  written : ∃ file environment, s.fileLayer (line.config.getD defaultFile) = .ok file ∧
    s.environmentLayer = .ok environment ∧ Written file.content environment.content text

/-- A text below the command line leads to the same configuration as on the command line, or to none
in both places. -/
def LoadedAlike (text : String) : Prop :=
  ∀ s line, WrittenBelow s line text → ∀ c, load s line = .ok c ↔
    ∃ changed, line.set .policy text = .ok changed ∧ load s changed = .ok c

section

variable {s : Surroundings} {line changed : CommandLine} {file environment : Layer} {d : Document}
  {text : String} {p : Policy} {c : Configuration}

/-! ## The command line -/

theorem set_policy_eq_ok :
    line.set .policy text = .ok changed ↔
      ∃ p, Policy.Spells text p ∧ changed = { line with policy := some p } := by
  simp only [← Policy.parse_eq_ok]
  unfold CommandLine.set
  dsimp only
  cases Policy.parse text with
  | error fault => exact ⟨nofun, nofun⟩
  | ok p =>
    constructor
    · rintro ⟨⟩
      exact ⟨p, rfl, rfl⟩
    · rintro ⟨_, ⟨⟩, rfl⟩
      rfl

theorem lookup_policy (line : CommandLine) (d : Document) :
    (line.layers.foldl (fun d layer => d.merge layer.content) d).lookup Leaf.policy.path =
      (line.policy.map fun p => .text p.name).or (d.lookup Leaf.policy.path) := by
  have switches := CommandLine.foldl_settings line .policy (d.lookup Leaf.policy.path)
  exact (lookup_foldl_layers line d "engine" "capacity_policy").trans switches

theorem tidy_over (line : CommandLine) (tidy : d.Tidy true) :
    (line.layers.foldl (fun d layer => d.merge layer.content) d).Tidy true :=
  Layer.tidy_foldl tidy fun _ among => (fits_of_mem_layers among).tidy.allow

/-- A policy that stands in a document already is laid over it without a trace. -/
theorem foldl_layers_of_policy (unset : line.policy = none) (tidy : d.Tidy true)
    (there : d.lookup Leaf.policy.path = some (.text p.name)) :
    (CommandLine.layers { line with policy := some p }).foldl
        (fun d layer => d.merge layer.content) d =
      line.layers.foldl (fun d layer => d.merge layer.content) d := by
  -- On the command line the policy comes after the source and the capacity.
  let front : CommandLine := { tcp := line.tcp, device := line.device, capacity := line.capacity }
  let back : CommandLine := { line with tcp := none, device := none, capacity := none }
  have without : line.layers = front.layers ++ back.layers := by
    simp [CommandLine.layers, CommandLine.settings, CommandLine.entry, unset, front, back]
  have among : CommandLine.layers { line with policy := some p } =
      front.layers ++ ⟨.flags, .nest Leaf.policy.path (.text p.name)⟩ :: back.layers := by
    simp [CommandLine.layers, CommandLine.settings, CommandLine.entry, unset, front, back,
      Leaf.path, Leaf.heading, Leaf.key]
  have still := (lookup_policy front d).trans there
  rw [without, among, List.foldl_append, List.foldl_append, List.foldl_cons,
    Document.merge_nest_of_lookup (tidy_over front tidy) still rfl]

/-! ## Loading -/

/-- Once the layers are there, to load is to read what they come to and to check it. -/
theorem load_eq_ok (line : CommandLine)
    (fileRead : s.fileLayer (line.config.getD defaultFile) = .ok file)
    (environmentRead : s.environmentLayer = .ok environment) :
    load s line = .ok c ↔ requireFile s line = .ok () ∧ ∃ merged,
      decode .layered (line.layers.foldl (fun d layer => d.merge layer.content)
        (Layer.combine [defaultLayer, file, environment])) = .ok merged ∧
      (merged.replaceEndpoint line).checked = .ok c := by
  constructor
  · intro loaded
    obtain ⟨⟨⟩, required, loaded⟩ := bind_eq_ok.1 loaded
    obtain ⟨_, same, loaded⟩ := bind_eq_ok.1 loaded
    cases environmentRead.symm.trans same
    obtain ⟨_, same, loaded⟩ := bind_eq_ok.1 loaded
    cases fileRead.symm.trans same
    obtain ⟨merged, read, checked⟩ := bind_eq_ok.1 loaded
    have decoded := mapError_eq_ok.1 (mapError_eq_ok.1 read)
    rw [Layer.combine, List.foldl_append] at decoded
    exact ⟨required, merged, decoded, checked⟩
  · rintro ⟨required, merged, decoded, checked⟩
    have read : ofLayers ([defaultLayer, file, environment] ++ line.layers) = .ok merged := by
      refine mapError_eq_ok.2 (mapError_eq_ok.2 ?_)
      rw [Layer.combine, List.foldl_append]
      exact decoded
    rw [load_eq_checked required fileRead environmentRead read]
    exact checked

theorem Written.lookup_combine (written : Written file.content environment.content text)
    (table : environment.content.isTable = true) :
    (Layer.combine [defaultLayer, file, environment]).lookup Leaf.policy.path =
      some (.text text) := by
  show ((Document.merge _ file.content).merge environment.content).lookup _ = _
  cases written with
  | inEnvironment there =>
    rw [Document.lookup_merge (Document.leads_of_lookup there), there, Document.overlay_of_leaf rfl]
  | inFile there unset sectioned =>
    rw [Document.lookup_merge (leads_of_isSectioned table sectioned .policy), unset]
    show (Document.merge _ file.content).lookup _ = _
    rw [Document.lookup_merge (Document.leads_of_lookup there), there, Document.overlay_of_leaf rfl]

/-- Checking a configuration and replacing its source leave the policy as it was read. -/
theorem policy_of_checked {merged : Configuration}
    (checked : (merged.replaceEndpoint line).checked = .ok c) :
    c.engine.policy = merged.engine.policy := by
  obtain ⟨-, -, same⟩ := bind_eq_ok.1 checked
  cases same
  rfl

/-- The policy that is loaded is the one that all layers together have. -/
theorem decode_of_load {value : Document}
    (fileRead : s.fileLayer (line.config.getD defaultFile) = .ok file)
    (environmentRead : s.environmentLayer = .ok environment) (loaded : load s line = .ok c)
    (there : (line.policy.map fun p => .text p.name).or
      ((Layer.combine [defaultLayer, file, environment]).lookup Leaf.policy.path) = some value) :
    Policy.decode .layered value = .ok c.engine.policy := by
  obtain ⟨-, merged, decoded, checked⟩ := (load_eq_ok line fileRead environmentRead).1 loaded
  have below := tidy_below (of_fileLayer fileRead).2 (of_environmentLayer environmentRead).2
  rw [policy_of_checked checked]
  exact Leaf.policy.of_decode decoded (tidy_over line below) ((lookup_policy line _).trans there)

/-- Of what is written below the command line, only the name of a policy loads. -/
theorem policy_of_load (below : WrittenBelow s line text) (loaded : load s line = .ok c) :
    text = c.engine.policy.name := by
  obtain ⟨file, environment, fileRead, environmentRead, written⟩ := below.written
  have there := written.lookup_combine (of_environmentLayer environmentRead).1
  have own : Policy.decode .layered (.text text) = .ok c.engine.policy :=
    decode_of_load fileRead environmentRead loaded (by rw [below.unset]; exact there)
  exact Policy.decode_text_eq_ok.1 own

/-- The policy on the command line is the one that is loaded. -/
theorem policy_of_named (named : line.policy = some p) (loaded : load s line = .ok c) :
    c.engine.policy = p := by
  obtain ⟨-, -, rest⟩ := bind_eq_ok.1 loaded
  obtain ⟨environment, environmentRead, rest⟩ := bind_eq_ok.1 rest
  obtain ⟨file, fileRead, -⟩ := bind_eq_ok.1 rest
  have own : Policy.decode .layered (.text p.name) = .ok c.engine.policy :=
    decode_of_load fileRead environmentRead loaded (by rw [named]; rfl)
  exact Except.ok.inj (own.symm.trans (Policy.decode_text_eq_ok.2 rfl))

/-- To repeat on the command line what is written below changes nothing. -/
theorem load_of_name (below : WrittenBelow s line p.name) :
    load s line = .ok c ↔ load s { line with policy := some p } = .ok c := by
  obtain ⟨file, environment, fileRead, environmentRead, written⟩ := below.written
  obtain ⟨table, set⟩ := of_environmentLayer environmentRead
  have there := written.lookup_combine table
  have tidy := tidy_below (of_fileLayer fileRead).2 set
  have again := foldl_layers_of_policy below.unset tidy there
  rw [load_eq_ok line fileRead environmentRead,
    load_eq_ok { line with policy := some p } fileRead environmentRead, again]
  rfl

/-! ## A text in the environment -/

/-- An environment with a text for the policy, and no file. -/
def inEnvironment (text : String) : Surroundings where
  files := .folder []
  environment := [("RXSTREAM_ENGINE__CAPACITY_POLICY", text)]

theorem fileLayer_inEnvironment (text : String) :
    (inEnvironment text).fileLayer defaultFile = .ok ⟨.file defaultFile, .table .nil⟩ :=
  rfl

/-- What spells a policy is a word, which needs no quotes. -/
theorem environmentLayer_inEnvironment (spelled : Policy.Spells text p) :
    (inEnvironment text).environmentLayer =
      .ok ⟨.environment variableStart, .nest Leaf.policy.path (.text text)⟩ := by
  have path : Layer.variablePath? variableStart "RXSTREAM_ENGINE__CAPACITY_POLICY" =
      some Leaf.policy.path := by
    decide +kernel
  have other : ∀ b : Bool, text ≠ toString b := by
    rintro b rfl
    have folded := Policy.foldCase_eq_name.2 spelled
    cases b <;> cases p <;> exact absurd folded (by decide)
  have itself := Document.Inline.parse_of_word (Policy.isAlpha_of_spells spelled) other
  unfold Surroundings.environmentLayer Layer.ofEnvironment inEnvironment Layer.layEnvironment
  rw [path]
  dsimp only
  rw [itself]
  rfl

theorem writtenBelow_inEnvironment (spelled : Policy.Spells text p) :
    WrittenBelow (inEnvironment text) {} text where
  unset := rfl
  written := ⟨_, _, fileLayer_inEnvironment text, environmentLayer_inEnvironment spelled,
    .inEnvironment rfl⟩

theorem load_inEnvironment (spelled : Policy.Spells text p) :
    load (inEnvironment text) { policy := some p } = .ok { engine := { policy := p } } := by
  refine (load_eq_ok { policy := some p } (fileLayer_inEnvironment text)
    (environmentLayer_inEnvironment spelled)).2 ⟨rfl, { engine := { policy := p } }, ?_, ?_⟩
  all_goals cases p <;> rfl

/-- A text is loaded alike from both places, unless it spells a policy with a capital. -/
theorem loadedAlike_iff : LoadedAlike text ↔ ¬ Policy.Capitalised text := by
  constructor
  · rintro alike ⟨p, spelled, different⟩
    -- The command line takes the policy in spite of the environment, which alone is refused.
    have below := writtenBelow_inEnvironment spelled
    have loaded := (alike _ _ below _).2
      ⟨{ policy := some p }, set_policy_eq_ok.2 ⟨p, spelled, rfl⟩, load_inEnvironment spelled⟩
    exact different (policy_of_load below loaded)
  · intro plain s line below c
    constructor
    · intro loaded
      obtain rfl := policy_of_load below loaded
      have set : line.set .policy c.engine.policy.name =
          .ok { line with policy := some c.engine.policy } :=
        set_policy_eq_ok.2 ⟨_, Policy.spells_name _, rfl⟩
      exact ⟨_, set, (load_of_name below).1 loaded⟩
    · rintro ⟨changed, set, loaded⟩
      obtain ⟨p, spelled, rfl⟩ := set_policy_eq_ok.1 set
      have same : text = p.name := by
        by_contra different
        exact plain ⟨p, spelled, different⟩
      subst same
      exact (load_of_name below).2 loaded

end

/-- The command line and a document read the same policy off a text, or none both, unless the text
spells a policy with a capital in it; and just so it leads to the same configuration below the
command line and on it.  What is loaded with a text below the command line has the policy of that
name, and with a text on the command line the policy that it spells.  Where a configuration is
written, a policy is written as its name, which both read as that policy. -/
theorem policy_read_alike_iff (text : String) :
    (∀ dialect, (Policy.parse text).toOption = (Policy.decode dialect (.text text)).toOption ↔
      ¬ Policy.Capitalised text) ∧
    (LoadedAlike text ↔ ¬ Policy.Capitalised text) ∧
    (∀ s line c, WrittenBelow s line text → load s line = .ok c → text = c.engine.policy.name) ∧
    (∀ s line changed c, CommandLine.set line .policy text = .ok changed → load s changed = .ok c →
      Policy.Spells text c.engine.policy) ∧
    ∀ c : Configuration,
      c.toDocument.lookup Leaf.policy.path = some (.text c.engine.policy.name) ∧
        Policy.parse c.engine.policy.name = .ok c.engine.policy ∧
        ∀ dialect, Policy.decode dialect (.text c.engine.policy.name) = .ok c.engine.policy := by
  refine ⟨fun _ => Policy.toOption_eq_iff, loadedAlike_iff, fun _ _ _ => policy_of_load, ?_, ?_⟩
  · intro s line changed c set loaded
    obtain ⟨p, spelled, rfl⟩ := set_policy_eq_ok.1 set
    rw [policy_of_named rfl loaded]
    exact spelled
  · intro c
    exact ⟨Leaf.policy.lookup_toDocument c, Policy.parse_eq_ok.2 (Policy.spells_name _),
      fun _ => Policy.decode_text_eq_ok.2 rfl⟩

/-- A file with a policy that begins with a capital. -/
def capitalInFile : Surroundings where
  files := .folder [("rxstream.toml", .file
    "[engine]\ncapacity_policy = \"Discard\"\n".toUTF8.toList)]
  environment := []

theorem writtenBelow_capitalInFile : WrittenBelow capitalInFile {} "Discard" where
  unset := rfl
  written := by
    have inFile : (capitalInFile.fileLayer defaultFile).toOption.any
        (fun file => (file.content.lookup Leaf.policy.path).any (Document.isText "Discard")) =
          true := by
      decide +kernel
    obtain ⟨file, read, there⟩ := exists_of_any inFile
    exact ⟨file, _, read, rfl, .inFile (Document.eq_of_isText there) rfl rfl⟩

/-- The capital keeps the file from being loaded, but the command line takes it; a text in small
letters is read alike. -/
theorem policy_read_alike_iff_of_capital :
    (∀ c, load capitalInFile {} ≠ .ok c) ∧
    (CommandLine.set {} .policy "Discard" = .ok { policy := some .discard } ∧
      load capitalInFile { policy := some .discard } = .ok { engine := { policy := .discard } } ∧
      Policy.Spells "Discard" .discard) ∧
    load (inEnvironment "discard") {} = .ok { engine := { policy := .discard } } := by
  obtain ⟨-, -, below, above, -⟩ := policy_read_alike_iff "Discard"
  refine ⟨?_, ?_, ?_⟩
  · intro c loaded
    have named := below _ _ c writtenBelow_capitalInFile loaded
    have other : ∀ p : Policy, "Discard" ≠ p.name := by
      intro p
      cases p <;> decide
    exact other _ named
  · have loaded : load capitalInFile { policy := some .discard } =
        .ok { engine := { policy := .discard } } :=
      eq_ok_of_toOption (by decide +kernel)
    exact ⟨rfl, loaded, above _ {} _ _ rfl loaded⟩
  · obtain ⟨-, alike, -⟩ := policy_read_alike_iff "discard"
    have plain := Policy.not_capitalised_name .discard
    have spelled := Policy.spells_name .discard
    exact (alike.2 plain _ _ (writtenBelow_inEnvironment spelled) _).2
      ⟨_, rfl, load_inEnvironment spelled⟩

theorem capital_refused_in_documents :
    ¬ ∀ text dialect, (Policy.parse text).toOption =
      (Policy.decode dialect (.text text)).toOption := by
  intro alike
  exact absurd (alike "Discard" .plain) (by decide +kernel)

end ByteTap.Monitor
