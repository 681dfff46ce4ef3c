import ByteTap.Monitor.Load
import ByteTap.Proofs.Document.Reading
import ByteTap.Proofs.Document.Overlay

/-!
# Which layer a setting comes from

The defaults, a file, the environment and the command line are laid over one another, and the
configuration is read out of what comes of it.

* `Leaf`: a setting, with its place in a document, how it is read and written there, and what the
  command line says about it;
* `Leaf.of_decode`: a setting is read off its own place in the merged document;
* `lookup_combine`: what stands at that place was laid over by every layer that has something there;
* `Leaf.of_layers`: no setting can be read from a table, so that the last of them counts;
* `layer_precedence`: so every setting comes from the last layer that sets it, whatever the layers
  do to the others.

The settings of the endpoint are left out: one on the command line replaces the other kind, too.
-/

namespace ByteTap.Monitor

/-- A setting of the engine or of the monitor. -/
inductive Leaf where
  | capacity | policy | errorBackoffMs | maxErrorBackoffMs | workerName
  | drain | durationSecs | pollIntervalMs | progressIntervalMs | json | verbose
  deriving DecidableEq, Repr

namespace Leaf

/-- The type of a setting. -/
abbrev Value : Leaf → Type
  | capacity | errorBackoffMs | maxErrorBackoffMs | pollIntervalMs | progressIntervalMs => UInt64
  | policy => Policy
  | workerName => String
  | drain | json | verbose => Bool
  | durationSecs => Option UInt64

/-- The section in which a setting stands. -/
def heading : Leaf → String
  | capacity | policy | errorBackoffMs | maxErrorBackoffMs | workerName => "engine"
  | drain | durationSecs | pollIntervalMs | progressIntervalMs | json | verbose => "monitor"

/-- The key of a setting in its section. -/
def key : Leaf → String
  | capacity => "capacity"
  | policy => "capacity_policy"
  | errorBackoffMs => "error_backoff_ms"
  | maxErrorBackoffMs => "max_error_backoff_ms"
  | workerName => "worker_name"
  | drain => "drain"
  | durationSecs => "duration_secs"
  | pollIntervalMs => "poll_interval_ms"
  | progressIntervalMs => "progress_interval_ms"
  | json => "json"
  | verbose => "verbose"

/-- The place of a setting in a document. -/
def path (leaf : Leaf) : List String := [leaf.heading, leaf.key]

/-- What a setting is in a configuration. -/
def get (c : Configuration) : (leaf : Leaf) → leaf.Value
  | capacity => c.engine.capacity
  | policy => c.engine.policy
  | errorBackoffMs => c.engine.errorBackoffMs
  | maxErrorBackoffMs => c.engine.maxErrorBackoffMs
  | workerName => c.engine.workerName
  | drain => c.monitor.drain
  | durationSecs => c.monitor.durationSecs
  | pollIntervalMs => c.monitor.pollIntervalMs
  | progressIntervalMs => c.monitor.progressIntervalMs
  | json => c.monitor.json
  | verbose => c.monitor.verbose

/-- What a document says that a setting is. -/
def decode : (leaf : Leaf) → Decoder leaf.Value
  | capacity => Decoder.word "usize"
  | policy => Policy.decode .layered
  | errorBackoffMs | maxErrorBackoffMs | pollIntervalMs | progressIntervalMs => Decoder.word "u64"
  | workerName => Decoder.text "a string"
  | drain | json | verbose => Decoder.bool
  | durationSecs => Decoder.optional (Decoder.word "u64")

/-- A setting as a document. -/
def write : (leaf : Leaf) → leaf.Value → Document
  | capacity | errorBackoffMs | maxErrorBackoffMs | pollIntervalMs | progressIntervalMs =>
      .natural
  | policy => fun p => .text p.name
  | workerName => .text
  | drain | json | verbose => .bool
  | durationSecs => Configuration.orNull .natural

/-- What the command line says that a setting is.  A switch can only be turned on. -/
def flag? (line : CommandLine) : (leaf : Leaf) → Option leaf.Value
  | capacity => line.capacity
  | policy => line.policy
  | drain => if line.drain then some true else none
  | durationSecs => line.durationSecs.map some
  | json => if line.json then some true else none
  | verbose => if line.verbose then some true else none
  | errorBackoffMs | maxErrorBackoffMs | workerName | pollIntervalMs | progressIntervalMs => none

theorem decode_write (leaf : Leaf) (value : leaf.Value) :
    leaf.decode (leaf.write value) = .ok value := by
  cases leaf with
  | policy => cases value <;> rfl
  | durationSecs => cases value <;> rfl
  | _ => rfl

theorem isTable_write (leaf : Leaf) (value : leaf.Value) : (leaf.write value).isTable = false := by
  cases leaf with
  | durationSecs => cases value <;> rfl
  | _ => rfl

/-- The defaults say something about every setting. -/
theorem lookup_toDocument (leaf : Leaf) (c : Configuration) :
    (Configuration.toDocument c).lookup leaf.path = some (leaf.write (leaf.get c)) := by
  cases leaf <;>
    simp [Configuration.toDocument, path, heading, key, Document.lookup, Table.ofList,
      Table.find?_insert, Settings.toDocument, write, get]

theorem get_replaceEndpoint (leaf : Leaf) (c : Configuration) (line : CommandLine) :
    leaf.get (c.replaceEndpoint line) = leaf.get c := by
  cases leaf <;> rfl

/-- The sections of a configuration are read each from the table under its heading. -/
theorem readsInto_sections :
    Decoder.ReadsInto (Configuration.shape .layered) "engine" (Settings.decode .layered)
        Configuration.engine ∧
      Decoder.ReadsInto (Configuration.shape .layered) "monitor"
        (.record .layered Configuration.optionsShape) Configuration.monitor := by
  constructor
  all_goals
    constructor
    · simp [Configuration.shape, Decoder.Field.of]
    · simp only [Configuration.shape, List.forall_mem_cons]
      refine ⟨?_, ?_, ?_, nofun⟩
      all_goals
        first
        | exact .inl ⟨rfl, Decoder.Field.sets_of fun x s => rfl⟩
        | exact .inr ⟨by decide, Decoder.Field.keeps_of fun x s => rfl⟩

/-- A setting is read from a field of a section, and the section from one of the document. -/
theorem readsInto (leaf : Leaf) :
    ∃ (σ : Type) (shape : Decoder.Shape σ) (part : Configuration → σ) (own : σ → leaf.Value),
      Decoder.ReadsInto (Configuration.shape .layered) leaf.heading (.record .layered shape) part ∧
        Decoder.ReadsInto shape leaf.key leaf.decode own ∧ ∀ c, own (part c) = leaf.get c := by
  cases leaf
  all_goals
    first
    | refine ⟨Settings, Settings.shape .layered, Configuration.engine,
        fun s => get { engine := s } _, readsInto_sections.1, ⟨?_, ?_⟩, fun c => rfl⟩
    | refine ⟨Options, Configuration.optionsShape, Configuration.monitor,
        fun o => get { monitor := o } _, readsInto_sections.2, ⟨?_, ?_⟩, fun c => rfl⟩
    · simp [Settings.shape, Configuration.optionsShape, key, Decoder.Field.of]
    · simp only [Settings.shape, Configuration.optionsShape, List.forall_mem_cons]
      first
      | refine ⟨?_, ?_, ?_, ?_, ?_, ?_, nofun⟩
      | refine ⟨?_, ?_, ?_, ?_, ?_, nofun⟩
      all_goals
        first
        | exact .inl ⟨rfl, Decoder.Field.sets_of fun x s => rfl⟩
        | exact .inr ⟨by decide, Decoder.Field.keeps_of fun x s => rfl⟩

theorem heading_cases (leaf : Leaf) : leaf.heading = "engine" ∨ leaf.heading = "monitor" := by
  cases leaf
  all_goals
    first
    | exact .inl rfl
    | exact .inr rfl

/-- A setting is read off its own place in the document. -/
theorem of_decode {leaf : Leaf} {d value : Document} {c : Configuration}
    (read : Configuration.decode .layered d = .ok c) (tidy : d.Tidy true)
    (there : d.lookup leaf.path = some value) : leaf.decode value = .ok (leaf.get c) := by
  obtain ⟨σ, shape, part, own, outer, ofSection, same⟩ := leaf.readsInto
  rw [← same]
  exact outer.nested ofSection read tidy there

/-- No setting is read from a table, unless there is a null in it. -/
theorem leafy (leaf : Leaf) : leaf.decode.Leafy := by
  cases leaf with
  | policy => exact Decoder.leafy_choice _ _
  | workerName => exact Decoder.leafy_text _
  | durationSecs => exact (Decoder.leafy_word _).optional
  | drain => exact Decoder.leafy_bool
  | json => exact Decoder.leafy_bool
  | verbose => exact Decoder.leafy_bool
  | _ => exact Decoder.leafy_word _

end Leaf

/-! ## Laying the layers over one another -/

/-- The sections of the settings are tables, as far as a document has them. -/
def isSectioned (content : Document) : Bool :=
  ["engine", "monitor"].all fun heading => (content.lookup [heading]).all Document.isTable

theorem isTable_of_isSectioned {content d : Document} (sectioned : isSectioned content = true)
    (leaf : Leaf) (found : content.lookup [leaf.heading] = some d) : d.isTable = true := by
  unfold isSectioned at sectioned
  simp only [List.all_cons, List.all_nil, Bool.and_true, Bool.and_eq_true] at sectioned
  rcases leaf.heading_cases with engine | monitor
  · rw [engine] at found
    simpa [found] using sectioned.1
  · rw [monitor] at found
    simpa [found] using sectioned.2

/-- A document whose sections are tables leads to the place of every setting. -/
theorem leads_of_isSectioned {content : Document} (table : content.isTable = true)
    (sectioned : isSectioned content = true) (leaf : Leaf) :
    content.Leads leaf.path := by
  cases content with
  | table entries =>
    have under : ∀ value, entries.find? leaf.heading = some value → value.isTable = true := by
      intro value found
      refine isTable_of_isSectioned sectioned leaf ?_
      simp [Document.lookup, found]
    refine ⟨entries, rfl, ?_⟩
    intro value found
    cases value with
    | table own => exact ⟨own, rfl, fun _ _ => trivial⟩
    | _ => cases under _ found
  | _ => cases table

namespace CommandLine

/-- What the command line sets stands at the end of two keys, and is neither a table nor null. -/
theorem of_mem_settings {line : CommandLine} {d : Document} (among : d ∈ line.settings) :
    ∃ heading key value, d = .nest [heading, key] value ∧ value.Tidy false ∧
      value.isTable = false := by
  have entered {α : Type} {heading key : String} {f : α → Document} {o : Option α}
      (among : d ∈ entry [heading, key] f o)
      (plain : ∀ a, (f a).Tidy false ∧ (f a).isTable = false) :
      ∃ heading key value, d = .nest [heading, key] value ∧ value.Tidy false ∧
        value.isTable = false := by
    cases o with
    | none => cases among
    | some a =>
      rw [entry, List.mem_singleton] at among
      exact ⟨heading, key, f a, among, plain a⟩
  simp only [settings, List.mem_append] at among
  rcases among with ((((((among | among) | among) | among) | among) | among) | among) | among
  all_goals exact entered among fun _ => ⟨trivial, rfl⟩

theorem lookup_nest (home own heading key : String) (value : Document) :
    (Document.nest [heading, key] value).lookup [home, own] =
      if heading = home ∧ key = own then some value else none := by
  rw [Document.lookup_cons]
  show (if heading = home then some _ else none).bind _ = _
  by_cases under : heading = home
  · rw [if_pos under]
    show (if key = own then some value else none).bind (Document.lookup []) = _
    by_cases here : key = own
    · rw [if_pos here, if_pos ⟨under, here⟩]
      rfl
    · rw [if_neg here, if_neg fun both => here both.2]
      rfl
  · rw [if_neg under, if_neg fun both => under both.1]
    rfl

/-- An entry of the command line counts at its own place and nowhere else. -/
theorem foldl_entry {α : Type} (home own heading key : String) (f : α → Document)
    (o : Option α) (start : Option Document) :
    ((entry [heading, key] f o).map (Document.lookup [home, own])).foldl
        (fun earlier later => later.or earlier) start =
      if heading = home ∧ key = own then (o.map f).or start else start := by
  cases o with
  | none =>
    split <;> rfl
  | some a =>
    show ((Document.nest [heading, key] (f a)).lookup [home, own]).or start = _
    rw [lookup_nest]
    split <;> rfl

/-- At the place of a setting only its own flag counts. -/
theorem foldl_settings (line : CommandLine) (leaf : Leaf) (start : Option Document) :
    (line.settings.map (Document.lookup leaf.path)).foldl (fun earlier later => later.or earlier)
        start = ((leaf.flag? line).map leaf.write).or start := by
  simp only [Leaf.path, settings, List.map_append, List.foldl_append, foldl_entry]
  -- each setting is compared with the places of all entries
  cases leaf with
  | durationSecs =>
    simp [Leaf.heading, Leaf.key, Leaf.flag?, Leaf.write]
    rfl
  | _ => simp [Leaf.heading, Leaf.key, Leaf.flag?, Leaf.write]

end CommandLine

/-! ## The layers -/

/-- A layer as it can be laid over the defaults. -/
structure Fits (content : Document) : Prop where
  table : content.isTable = true
  tidy : content.Tidy false
  sectioned : isSectioned content = true

theorem tidy_orNull {α : Type} {f : α → Document} (fit : ∀ a, (f a).Tidy true) (o : Option α) :
    (Configuration.orNull f o).Tidy true := by
  cases o with
  | none => rfl
  | some a => exact fit a

/-- A configuration is written in order, with a null for what is not set. -/
theorem tidy_toDocument (c : Configuration) : (Configuration.toDocument c).Tidy true := by
  have endpoint : (Table.ofList
      [("tcp", Configuration.orNull .text c.endpoint.tcp),
       ("device", Configuration.orNull .text c.endpoint.device)]).Tidy true := by
    apply Table.tidy_ofList
    simp only [List.forall_mem_cons]
    have text (o : Option String) : (Configuration.orNull .text o).Tidy true := by
      apply tidy_orNull
      exact fun _ => trivial
    exact ⟨text c.endpoint.tcp, text c.endpoint.device, nofun⟩
  have engine : c.engine.toDocument.Tidy true := by
    apply Table.tidy_ofList
    simp only [List.forall_mem_cons]
    exact ⟨trivial, trivial, trivial, trivial, trivial, nofun⟩
  apply Table.tidy_ofList
  simp only [List.forall_mem_cons]
  have duration : (Configuration.orNull .natural c.monitor.durationSecs).Tidy true := by
    apply tidy_orNull
    exact fun _ => trivial
  refine ⟨endpoint, engine, ?_, nofun⟩
  apply Table.tidy_ofList
  simp only [List.forall_mem_cons]
  exact ⟨trivial, duration, trivial, trivial, trivial, trivial, nofun⟩

theorem isSectioned_toDocument (c : Configuration) :
    isSectioned (Configuration.toDocument c) = true := by
  simp [isSectioned, Configuration.toDocument, Document.lookup, Table.ofList, Table.find?_insert,
    Settings.toDocument, Document.isTable]

theorem isSectioned_nest (heading key : String) (value : Document) :
    isSectioned (.nest [heading, key] value) = true := by
  have own (other : String) :
      ((Document.nest [heading, key] value).lookup [other]).all Document.isTable = true := by
    show ((if heading = other then _ else none).bind (Document.lookup [])).all _ = true
    split <;> rfl
  simp [isSectioned, own]

section

variable {s : Surroundings} {line : CommandLine} {file environment : Layer} {rest : List Layer}
  {c : Configuration}

/-- Whatever was found in a file, its layer is a table in order, without a null. -/
theorem of_fileLayer {written : String} (read : s.fileLayer written = .ok file) :
    file.content.isTable = true ∧ file.content.Tidy false := by
  unfold Surroundings.fileLayer at read
  dsimp only at read
  split at read
  · cases read
    exact ⟨rfl, trivial⟩
  · split at read
    · cases read
    · split at read
      · cases read
      · next entries parsed =>
        cases read
        obtain ⟨t, own, unwrapped⟩ := Option.bind_eq_some_iff.1 parsed
        have tidy := Document.Toml.tidy_parse? own
        exact ⟨rfl, tidy.unwrapEntries entries unwrapped⟩

theorem of_environmentLayer (read : s.environmentLayer = .ok environment) :
    environment.content.isTable = true ∧ environment.content.Tidy false := by
  have read := mapError_eq_ok.1 read
  exact (Layer.tidy_ofEnvironment read).symm

/-- What the layers below the command line come to is tidy. -/
theorem tidy_below (own : file.content.Tidy false) (set : environment.content.Tidy false) :
    (Layer.combine [Configuration.defaultLayer, file, environment]).Tidy true := by
  apply Layer.tidy_combine
  simp only [List.forall_mem_cons]
  exact ⟨tidy_toDocument {}, own.allow, set.allow, List.forall_mem_nil _⟩

/-- Every layer of the command line can be laid over the others. -/
theorem fits_of_mem_layers {layer : Layer} (among : layer ∈ line.layers) : Fits layer.content := by
  obtain ⟨d, set, rfl⟩ := List.mem_map.1 among
  obtain ⟨heading, key, value, rfl, tidy, -⟩ := CommandLine.of_mem_settings set
  exact ⟨rfl, tidy.nest [heading, key], isSectioned_nest heading key value⟩

theorem leads_of_fits (fits : ∀ layer ∈ rest, Fits layer.content) (leaf : Leaf) :
    ∀ layer ∈ Configuration.defaultLayer :: rest, layer.content.Leads leaf.path := by
  intro layer among
  rcases List.mem_cons.1 among with rfl | among
  · exact leads_of_isSectioned rfl (isSectioned_toDocument {}) leaf
  · have own := fits layer among
    exact leads_of_isSectioned own.table own.sectioned leaf

/-- What stands at the place of a setting in the merged document. -/
theorem lookup_combine (fits : ∀ layer ∈ rest, Fits layer.content) (leaf : Leaf) :
    (Layer.combine (Configuration.defaultLayer :: rest)).lookup leaf.path =
      (rest.map fun layer => layer.content.lookup leaf.path).foldl Document.overlay
        (some (leaf.write (leaf.get {}))) := by
  rw [← leaf.lookup_toDocument]
  exact Layer.lookup_combine (leads_of_fits fits leaf)

/-- A setting is what the last layer says that has anything at its place. -/
theorem Leaf.of_layers (fits : ∀ layer ∈ rest, Fits layer.content)
    (read : Configuration.ofLayers (Configuration.defaultLayer :: rest) = .ok c) (leaf : Leaf) :
    ∃ d, (rest.map fun layer => layer.content.lookup leaf.path).foldl
        (fun earlier later => later.or earlier) (some (leaf.write (leaf.get {}))) = some d ∧
      leaf.decode d = .ok (leaf.get c) := by
  have decoded := mapError_eq_ok.1 (mapError_eq_ok.1 read)
  have tidy : (Layer.combine (Configuration.defaultLayer :: rest)).Tidy true := by
    apply Layer.tidy_combine
    intro layer among
    rcases List.mem_cons.1 among with rfl | among
    · exact tidy_toDocument {}
    · exact (fits layer among).tidy.allow
  have there := lookup_combine fits leaf
  have some : ((Layer.combine (Configuration.defaultLayer :: rest)).lookup leaf.path).isSome := by
    rw [there]
    exact Document.foldl_overlay_isSome rfl
  obtain ⟨d, found⟩ := Option.isSome_iff_exists.1 some
  have own := leaf.of_decode decoded tidy found
  rw [there] at found
  refine ⟨d, Document.foldl_or_of_overlay found ?_, own⟩
  -- the setting was read, so no table stands there, and laying over is replacing
  refine leaf.leafy.isTable_eq_false ?_ ⟨_, own⟩
  refine Document.foldl_overlay_solid ?_ ?_ d found
  · rintro _ ⟨⟩ table
    rw [leaf.isTable_write] at table
    cases table
  · intro found among d there _
    obtain ⟨layer, within, rfl⟩ := List.mem_map.1 among
    exact (fits layer within).tidy.lookup there

/-- Where a setting comes from: the command line, or else the environment, or else the file, or
else the defaults. -/
def Leaf.InOrder (leaf : Leaf) (file environment : Document) (line : CommandLine)
    (c : Configuration) : Prop :=
  match leaf.flag? line with
  | some value => leaf.get c = value
  | none =>
      match environment.lookup leaf.path with
      | some d => leaf.decode d = .ok (leaf.get c)
      | none =>
          match file.lookup leaf.path with
          | some d => leaf.decode d = .ok (leaf.get c)
          | none => leaf.get c = leaf.get {}

/-- The last layer that says something about a setting is the first in the order of precedence. -/
theorem Leaf.inOrder_of_layers (fitting : Fits file.content) (fits : Fits environment.content)
    (read : Configuration.ofLayers ([Configuration.defaultLayer, file, environment] ++ line.layers)
      = .ok c) (leaf : Leaf) : leaf.InOrder file.content environment.content line c := by
  have all : ∀ layer ∈ [file, environment] ++ line.layers, Fits layer.content := by
    intro layer among
    rcases List.mem_append.1 among with among | set
    · simp only [List.mem_cons, List.not_mem_nil, or_false] at among
      rcases among with rfl | rfl
      · exact fitting
      · exact fits
    · exact fits_of_mem_layers set
  obtain ⟨d, last, own⟩ := leaf.of_layers all read
  rw [List.map_append, List.foldl_append] at last
  have switches : line.layers.map (fun layer => layer.content.lookup leaf.path) =
      line.settings.map (Document.lookup leaf.path) := by
    rw [CommandLine.layers, List.map_map]
    rfl
  rw [switches, CommandLine.foldl_settings] at last
  unfold InOrder
  cases flag : leaf.flag? line with
  | some value =>
    rw [flag] at last
    cases last
    rw [leaf.decode_write] at own
    exact (Except.ok.inj own).symm
  | none =>
    rw [flag] at last
    change (environment.content.lookup leaf.path).or ((file.content.lookup leaf.path).or _) = _
      at last
    cases set : environment.content.lookup leaf.path with
    | some later =>
      rw [set] at last
      cases last
      exact own
    | none =>
      rw [set] at last
      cases there : file.content.lookup leaf.path with
      | some earlier =>
        rw [there] at last
        cases last
        exact own
      | none =>
        rw [there] at last
        cases last
        rw [leaf.decode_write] at own
        exact (Except.ok.inj own).symm

end

/-- Every setting comes from the last layer that sets it, each for itself. -/
theorem layer_precedence {s : Surroundings} {line : CommandLine} {c : Configuration}
    (loaded : Configuration.load s line = .ok c)
    (fileSections : ∀ file, s.fileLayer (line.config.getD defaultFile) = .ok file →
      isSectioned file.content = true)
    (environmentSections : ∀ environment, s.environmentLayer = .ok environment →
      isSectioned environment.content = true) :
    ∃ file environment, s.fileLayer (line.config.getD defaultFile) = .ok file ∧
      s.environmentLayer = .ok environment ∧
      ∀ leaf : Leaf, leaf.InOrder file.content environment.content line c := by
  obtain ⟨-, -, loaded⟩ := bind_eq_ok.1 loaded
  obtain ⟨environment, environmentRead, loaded⟩ := bind_eq_ok.1 loaded
  obtain ⟨file, fileRead, loaded⟩ := bind_eq_ok.1 loaded
  obtain ⟨merged, read, loaded⟩ := bind_eq_ok.1 loaded
  refine ⟨file, environment, fileRead, environmentRead, ?_⟩
  obtain ⟨fileTable, fileTidy⟩ := of_fileLayer fileRead
  obtain ⟨environmentTable, environmentTidy⟩ := of_environmentLayer environmentRead
  have own : Fits file.content := ⟨fileTable, fileTidy, fileSections file fileRead⟩
  have set : Fits environment.content :=
    ⟨environmentTable, environmentTidy, environmentSections environment environmentRead⟩
  intro leaf
  have inOrder := leaf.inOrder_of_layers own set read
  -- What is checked afterwards and an endpoint on the command line leave the setting as it is.
  obtain ⟨-, -, same⟩ := bind_eq_ok.1 loaded
  cases same
  unfold Leaf.InOrder at inOrder ⊢
  rw [leaf.get_replaceEndpoint]
  exact inOrder

/-- A file and an environment that set different things. -/
def twoSources : Surroundings where
  files := .folder [("rxstream.toml", .file
    ("[engine]\ncapacity=1024\ncapacity_policy=\"discard\"\n".toUTF8.toList ++
      "[monitor]\nduration_secs=30\n".toUTF8.toList))]
  environment := [("RXSTREAM_ENGINE__CAPACITY", "2048")]

/-- What is made of them and the option of a duration. -/
def threeChoices : Configuration where
  engine := { capacity := 2048, policy := .discard }
  monitor := { durationSecs := some 5 }

/-- The capacity comes from the environment, the duration from the command line, the policy from the
file and the rest from the defaults. -/
theorem layer_precedence_of_two_sources :
    Configuration.load twoSources { durationSecs := some 5 } = .ok threeChoices ∧
      ∃ file environment, twoSources.fileLayer defaultFile = .ok file ∧
        twoSources.environmentLayer = .ok environment ∧
        ∀ leaf : Leaf, leaf.InOrder file.content environment.content { durationSecs := some 5 }
          threeChoices := by
  have loaded : (Configuration.load twoSources { durationSecs := some 5 }).toOption =
      some threeChoices := by
    decide +kernel
  have inFile : (twoSources.fileLayer defaultFile).toOption.all
      (fun file => isSectioned file.content) = true := by
    decide +kernel
  have inEnvironment : twoSources.environmentLayer.toOption.all
      (fun environment => isSectioned environment.content) = true := by
    decide +kernel
  refine ⟨eq_ok_of_toOption loaded, ?_⟩
  apply layer_precedence (eq_ok_of_toOption loaded)
  · intro file read
    change twoSources.fileLayer defaultFile = .ok file at read
    rw [read] at inFile
    exact inFile
  · intro environment read
    rw [read] at inEnvironment
    exact inEnvironment

end ByteTap.Monitor
