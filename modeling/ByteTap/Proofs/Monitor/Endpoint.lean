import ByteTap.Proofs.Monitor.CommandLine
import ByteTap.Proofs.Monitor.Precedence

/-!
# A source on the command line

A source that the command line names is the one that is opened, whatever the layers below it name:
the command line is laid over them last, and the source of the other kind is taken out.

* `lookup_tcp`, `lookup_device`: what the command line leaves of the layers below it;
* `overlays_decode`: layers that are well typed one by one are so together;
* `validate_of_alone`: all that can be wrong with a source that stands alone is an address without a
  port;
* `endpoint_of_command_line`: the named source wins, and nothing but such an address of its own is
  in its way.
-/

namespace ByteTap.Monitor

open Monitor.Configuration

/-- The source that a command line names. -/
def CommandLine.endpoint? (line : CommandLine) : Option Endpoint :=
  (line.tcp.map .tcp).or (line.device.map .device)

/-- A source as it is configured where no other is. -/
def Endpoint.alone : Endpoint → EndpointSettings
  | tcp address => { tcp := some address }
  | device path => { device := some path }

/-- A document fits a configuration by itself. -/
def WellTyped (content : Document) : Prop := (decode .layered).Accepts content

section

variable {line : CommandLine} {layer : Layer} {d : Document} {c : Configuration}

/-! ## The command line over the other layers -/

theorem leads_of_mem_layers (among : layer ∈ line.layers) (home own : String) :
    layer.content.Leads [home, own] := by
  obtain ⟨d, set, rfl⟩ := List.mem_map.1 among
  obtain ⟨heading, key, value, rfl, -⟩ := CommandLine.of_mem_settings set
  refine ⟨_, rfl, fun inner found => ?_⟩
  rw [Table.find?] at found
  split at found
  · cases found
    exact ⟨_, rfl, fun _ _ => trivial⟩
  · cases found

/-- At the end of such a path stands the last thing that the command line sets there, or what stood
there before. -/
theorem lookup_foldl_layers (line : CommandLine) (d : Document) (home own : String) :
    (line.layers.foldl (fun d layer => d.merge layer.content) d).lookup [home, own] =
      (line.settings.map (Document.lookup [home, own])).foldl
        (fun earlier later => later.or earlier) (d.lookup [home, own]) := by
  have switches : line.layers.map (fun layer => layer.content.lookup [home, own]) =
      line.settings.map (Document.lookup [home, own]) := by
    rw [CommandLine.layers, List.map_map]
    rfl
  rw [Layer.foldl_merge_lookup fun layer among => leads_of_mem_layers among home own, switches]
  apply Document.foldl_overlay_of_leaves
  intro found among value there
  obtain ⟨d, set, rfl⟩ := List.mem_map.1 among
  obtain ⟨heading, key, leaf, rfl, -, plain⟩ := CommandLine.of_mem_settings set
  rw [CommandLine.lookup_nest] at there
  split at there
  · cases there
    exact plain
  · cases there

theorem lookup_tcp (line : CommandLine) (d : Document) :
    (line.layers.foldl (fun d layer => d.merge layer.content) d).lookup ["endpoint", "tcp"] =
      (line.tcp.map .text).or (d.lookup ["endpoint", "tcp"]) := by
  rw [lookup_foldl_layers]
  simp [CommandLine.settings, CommandLine.foldl_entry]

theorem lookup_device (line : CommandLine) (d : Document) :
    (line.layers.foldl (fun d layer => d.merge layer.content) d).lookup ["endpoint", "device"] =
      (line.device.map .text).or (d.lookup ["endpoint", "device"]) := by
  rw [lookup_foldl_layers]
  simp [CommandLine.settings, CommandLine.foldl_entry]

/-- The source is read from the table under its heading, and no other field touches it. -/
theorem readsInto_endpoint :
    Decoder.ReadsInto (shape .layered) "endpoint" (.record .layered endpointShape)
      Configuration.endpoint := by
  constructor
  · simp [shape, Decoder.Field.of]
  · simp only [shape, List.forall_mem_cons]
    refine ⟨.inl ⟨rfl, Decoder.Field.sets_of fun x s => rfl⟩, ?_, ?_, List.forall_mem_nil _⟩
    all_goals exact .inr ⟨by decide, Decoder.Field.keeps_of fun x s => rfl⟩

theorem readsInto_kinds :
    Decoder.ReadsInto endpointShape "tcp" (.optional (.text "a string")) EndpointSettings.tcp ∧
      Decoder.ReadsInto endpointShape "device" (.optional (.text "path string"))
        EndpointSettings.device := by
  constructor
  all_goals
    constructor
    · simp [endpointShape, Decoder.Field.of]
    · simp only [endpointShape, List.forall_mem_cons]
      refine ⟨?_, ?_, List.forall_mem_nil _⟩
      all_goals
        first
        | exact .inl ⟨rfl, Decoder.Field.sets_of fun x s => rfl⟩
        | exact .inr ⟨by decide, Decoder.Field.keeps_of fun x s => rfl⟩

/-- What the command line names is read, whatever lies below it. -/
theorem endpoint_of_decode (tidy : d.Tidy true)
    (read : decode .layered (line.layers.foldl (fun d layer => d.merge layer.content) d) = .ok c) :
    (∀ address ∈ line.tcp, c.endpoint.tcp = some address) ∧
      ∀ path ∈ line.device, c.endpoint.device = some path := by
  have tidy : (line.layers.foldl (fun d layer => d.merge layer.content) d).Tidy true :=
    Layer.tidy_foldl tidy fun layer among => (fits_of_mem_layers among).tidy.allow
  obtain ⟨tcp, device⟩ := readsInto_kinds
  constructor
  · rintro address named
    have there := lookup_tcp line d
    rw [named] at there
    have own := readsInto_endpoint.nested tcp read tidy there
    exact (Except.ok.inj own).symm
  · rintro path named
    have there := lookup_device line d
    rw [named] at there
    have own := readsInto_endpoint.nested device read tidy there
    exact (Except.ok.inj own).symm

/-! ## Layers that are well typed -/

theorem overlays_of {α β : Type} {name : String} {decode : Decoder β} {put : β → α → α}
    (overlays : decode.Overlays) : (Decoder.Field.of name decode put).Overlays :=
  ⟨β, decode, put, rfl, overlays⟩

/-- Where a configuration can be read from two documents, so it can from one laid over the other. -/
theorem overlays_decode : (decode .layered).Overlays := by
  have text (what : String) := Decoder.leafy_text what
  have word (name : String) := Decoder.leafy_word name
  have endpoint : (Decoder.record .layered endpointShape).Overlays := by
    apply Decoder.overlays_record rfl
    simp only [endpointShape, List.forall_mem_cons]
    exact ⟨overlays_of (text _).optional.overlays, overlays_of (text _).optional.overlays,
      List.forall_mem_nil _⟩
  have engine : (Settings.decode .layered).Overlays := by
    apply Decoder.overlays_record rfl
    simp only [Settings.shape, List.forall_mem_cons]
    exact ⟨overlays_of (word _).overlays, overlays_of (Decoder.leafy_choice _ _).overlays,
      overlays_of (word _).overlays, overlays_of (word _).overlays, overlays_of (text _).overlays,
      List.forall_mem_nil _⟩
  have monitor : (Decoder.record .layered optionsShape).Overlays := by
    have bool := Decoder.leafy_bool
    apply Decoder.overlays_record rfl
    simp only [optionsShape, List.forall_mem_cons]
    exact ⟨overlays_of bool.overlays, overlays_of (word _).optional.overlays,
      overlays_of (word _).overlays, overlays_of (word _).overlays, overlays_of bool.overlays,
      overlays_of bool.overlays, List.forall_mem_nil _⟩
  apply Decoder.overlays_record rfl
  simp only [shape, List.forall_mem_cons]
  exact ⟨overlays_of endpoint, overlays_of engine, overlays_of monitor, List.forall_mem_nil _⟩

theorem wellTyped_of_mem_layers (among : layer ∈ line.layers) : WellTyped layer.content := by
  obtain ⟨d, set, rfl⟩ := List.mem_map.1 among
  have entered {α : Type} {path : List String} {f : α → Document} {o : Option α}
      (among : d ∈ CommandLine.entry path f o) (fits : ∀ a, WellTyped (.nest path (f a))) :
      WellTyped d := by
    cases o with
    | none => cases among
    | some a =>
      cases List.mem_singleton.1 among
      exact fits a
  simp only [CommandLine.settings, List.mem_append] at set
  rcases set with ((((((set | set) | set) | set) | set) | set) | set) | set
  -- This is the policy, which is written by its name.
  case inl.inl.inl.inl.inr =>
    refine entered set fun policy => ?_
    cases policy <;> exact ⟨_, rfl⟩
  all_goals exact entered set fun _ => ⟨_, rfl⟩

/-- A file and an environment that are well typed can be read together, and with the command line
over them. -/
theorem exists_merged {file environment : Layer} (fileTidy : file.content.Tidy false)
    (environmentTidy : environment.content.Tidy false) (own : WellTyped file.content)
    (set : WellTyped environment.content) (line : CommandLine) :
    ∃ merged, ofLayers ([defaultLayer, file, environment] ++ line.layers) = .ok merged := by
  have defaults : WellTyped (Document.merge (.table .nil) defaultLayer.content) := ⟨{}, rfl⟩
  have whole : WellTyped (Layer.combine ([defaultLayer, file, environment] ++ line.layers)) := by
    have nothing : (Document.table .nil).Tidy true := trivial
    have tidy := nothing.merge (tidy_toDocument {})
    have tidies : ∀ layer ∈ file :: environment :: line.layers, layer.content.Tidy false := by
      simp only [List.forall_mem_cons]
      exact ⟨fileTidy, environmentTidy, fun layer among => (fits_of_mem_layers among).tidy⟩
    have each : ∀ layer ∈ file :: environment :: line.layers, WellTyped layer.content := by
      simp only [List.forall_mem_cons]
      exact ⟨own, set, fun layer among => wellTyped_of_mem_layers among⟩
    -- The defaults are the first layer, and what all others are laid over.
    have overlaid := Layer.accepts_foldl overlays_decode tidy defaults tidies each
    exact overlaid
  obtain ⟨merged, read⟩ := whole
  exact ⟨merged, mapError_eq_ok.2 (mapError_eq_ok.2 read)⟩

end

/-! ## The source -/

section

variable {words : List String} {line : CommandLine} {endpoint : Endpoint}
  {file environment : Layer} {merged c : Configuration}

/-- What a command line names, it names once. -/
theorem named_cases (accepted : CommandLine.parse words = .ok line)
    (named : line.endpoint? = some endpoint) :
    (∃ address, endpoint = .tcp address ∧ line.tcp = some address ∧ line.device = none) ∨
      ∃ path, endpoint = .device path ∧ line.tcp = none ∧ line.device = some path := by
  unfold CommandLine.endpoint? at named
  rcases CommandLine.parse_names_one accepted with none | none
  · rw [none] at named
    obtain ⟨path, some, rfl⟩ := Option.map_eq_some_iff.1 named
    exact .inr ⟨path, rfl, none, some⟩
  · rw [none, Option.map_none, Option.or_none] at named
    obtain ⟨address, some, rfl⟩ := Option.map_eq_some_iff.1 named
    exact .inl ⟨address, rfl, some, none⟩

theorem resolve_alone (endpoint : Endpoint) : endpoint.alone.resolve = .ok endpoint := by
  cases endpoint <;> rfl

/-- The named source is put in the place of all others. -/
theorem replaceEndpoint_eq_alone (accepted : CommandLine.parse words = .ok line)
    (named : line.endpoint? = some endpoint) (fileTidy : file.content.Tidy false)
    (environmentTidy : environment.content.Tidy false)
    (read : ofLayers ([defaultLayer, file, environment] ++ line.layers) = .ok merged) :
    (merged.replaceEndpoint line).endpoint = endpoint.alone := by
  have decoded := mapError_eq_ok.1 (mapError_eq_ok.1 read)
  rw [Layer.combine, List.foldl_append] at decoded
  obtain ⟨tcp, device⟩ := endpoint_of_decode (tidy_below fileTidy environmentTidy) decoded
  rcases named_cases accepted named with ⟨address, rfl, some, none⟩ | ⟨path, rfl, none, some⟩
  · have own := tcp address some
    simp [replaceEndpoint, some, none, own, Endpoint.alone]
  · have own := device path some
    simp [replaceEndpoint, some, none, own, Endpoint.alone]

/-- The only flaw of a source that stands alone is an address without a port. -/
theorem flaw?_of_alone (alone : c.endpoint = endpoint.alone)
    (poll : c.monitor.pollIntervalMs ≠ 0) (duration : c.monitor.durationSecs ≠ some 0)
    (flaw : Flaw) :
    c.flaw? = some flaw ↔
      ∃ address, endpoint = .tcp address ∧ hasPort address = false ∧
        flaw = .addressWithoutPort address := by
  have single : (c.endpoint.tcp.isSome && c.endpoint.device.isSome) = false := by
    rw [alone]
    cases endpoint <;> rfl
  have timed (kept : c.endpoint.tcp.filter (fun address => !hasPort address) = none) :
      c.flaw? = none := by
    simp [flaw?, single, kept, poll, duration]
  cases endpoint with
  | device path =>
    rw [timed (by rw [alone]; rfl)]
    exact ⟨nofun, nofun⟩
  | tcp address =>
    cases port : hasPort address with
    | true =>
      rw [timed (by rw [alone]; exact Option.filter_eq_none_iff.2 (by rintro _ ⟨⟩; simp [port]))]
      refine ⟨nofun, ?_⟩
      rintro ⟨_, ⟨⟩, portless, -⟩
      cases port.symm.trans portless
    | false =>
      have refused : c.flaw? = some (.addressWithoutPort address) := by
        have kept : c.endpoint.tcp.filter (fun address => !hasPort address) = some address := by
          rw [alone]
          exact Option.filter_eq_some_iff.2 ⟨rfl, by simp [port]⟩
        simp [flaw?, single, kept]
      rw [refused]
      constructor
      · rintro ⟨⟩
        exact ⟨address, rfl, port, rfl⟩
      · rintro ⟨_, ⟨⟩, -, rfl⟩
        rfl

/-- With one source and nothing else amiss, only an address without a port is refused. -/
theorem validate_of_alone (alone : c.endpoint = endpoint.alone)
    (engine : c.engine.validate = .ok ()) (poll : c.monitor.pollIntervalMs ≠ 0)
    (duration : c.monitor.durationSecs ≠ some 0) (error : ConfigurationError) :
    c.validate = .error error ↔
      ∃ address, endpoint = .tcp address ∧ hasPort address = false ∧
        error = .invalid (Flaw.message (.addressWithoutPort address)) := by
  have flaws := flaw?_of_alone alone poll duration
  unfold Configuration.validate
  rw [engine]
  cases found : c.flaw? with
  | none =>
    refine ⟨nofun, ?_⟩
    rintro ⟨address, named, portless, -⟩
    cases found.symm.trans ((flaws _).2 ⟨address, named, portless, rfl⟩)
  | some flaw =>
    obtain ⟨address, rfl, portless, rfl⟩ := (flaws flaw).1 found
    constructor
    · rintro ⟨⟩
      exact ⟨address, rfl, portless, rfl⟩
    · rintro ⟨_, ⟨⟩, -, rfl⟩
      rfl

theorem checked_eq_error {error : ConfigurationError} :
    c.checked = .error error ↔ c.validate = .error error := by
  unfold checked
  cases c.validate with
  | error other => exact ⟨fun same => congrArg _ (Except.error.inj same),
      fun same => congrArg _ (Except.error.inj same)⟩
  | ok _ => exact ⟨nofun, nofun⟩

/-- What is loaded once all layers can be read. -/
theorem load_eq_checked {s : Surroundings} (required : requireFile s line = .ok ())
    (fileRead : s.fileLayer (line.config.getD defaultFile) = .ok file)
    (environmentRead : s.environmentLayer = .ok environment)
    (read : ofLayers ([defaultLayer, file, environment] ++ line.layers) = .ok merged) :
    load s line = (merged.replaceEndpoint line).checked := by
  unfold load
  rw [required, environmentRead, fileRead]
  show (do (Configuration.replaceEndpoint (← ofLayers _) line).checked) = _
  rw [read]
  rfl

/-- A source on the command line is the one that is opened, whatever the file and the environment
say.  Where these are well typed and the other settings make sense, nothing but an address without a
port on the command line itself keeps the configuration from being loaded. -/
theorem endpoint_of_command_line (accepted : CommandLine.parse words = .ok line)
    (named : line.endpoint? = some endpoint) (s : Surroundings) :
    (∀ c, load s line = .ok c → c.endpoint.resolve = .ok endpoint ∧ c.endpoint = endpoint.alone) ∧
    ∀ file environment,
      (∀ written ∈ line.config, s.files.reaches s.cwd (Path.parse written) = true) →
      s.fileLayer (line.config.getD defaultFile) = .ok file →
      s.environmentLayer = .ok environment →
      WellTyped file.content → WellTyped environment.content →
      ∃ merged, ofLayers ([defaultLayer, file, environment] ++ line.layers) = .ok merged ∧
        (merged.engine.validate = .ok () → merged.monitor.pollIntervalMs ≠ 0 →
          merged.monitor.durationSecs ≠ some 0 →
          ∀ error, load s line = .error error ↔
            ∃ address, endpoint = .tcp address ∧ hasPort address = false ∧
              error = .invalid (Flaw.message (.addressWithoutPort address))) := by
  constructor
  · intro c loaded
    obtain ⟨-, -, loaded⟩ := bind_eq_ok.1 loaded
    obtain ⟨environment, environmentRead, loaded⟩ := bind_eq_ok.1 loaded
    obtain ⟨file, fileRead, loaded⟩ := bind_eq_ok.1 loaded
    obtain ⟨merged, read, loaded⟩ := bind_eq_ok.1 loaded
    obtain ⟨-, -, same⟩ := bind_eq_ok.1 loaded
    cases same
    have alone := replaceEndpoint_eq_alone accepted named (of_fileLayer fileRead).2
      (of_environmentLayer environmentRead).2 read
    rw [alone]
    exact ⟨resolve_alone endpoint, rfl⟩
  · intro file environment present fileRead environmentRead own set
    have fileTidy := (of_fileLayer fileRead).2
    have environmentTidy := (of_environmentLayer environmentRead).2
    obtain ⟨merged, read⟩ := exists_merged fileTidy environmentTidy own set line
    refine ⟨merged, read, fun engine poll duration error => ?_⟩
    have required : requireFile s line = .ok () := by
      unfold requireFile
      cases named : line.config with
      | none => rfl
      | some written => exact if_pos (present written named)
    have alone := replaceEndpoint_eq_alone accepted named fileTidy environmentTidy read
    rw [load_eq_checked required fileRead environmentRead read, checked_eq_error]
    exact validate_of_alone alone engine poll duration error

end

/-- A file and an environment that name a source of each kind, one of them without a port. -/
def everySource : Surroundings where
  files := .folder [("rxstream.toml", .file
    "[endpoint]\ntcp = \"10.0.0.5\"\ndevice = \"/dev/ttyS0\"\n".toUTF8.toList)]
  environment := [("RXSTREAM_ENDPOINT__DEVICE", "/dev/ttyS1")]

/-- A device on the command line is the source in spite of them, and an address without a port there
is refused. -/
theorem endpoint_of_command_line_over_every_source :
    (∃ c, load everySource { device := some "/dev/ttyUSB0" } = .ok c ∧
      c.endpoint.resolve = .ok (.device "/dev/ttyUSB0")) ∧
    load everySource { tcp := some "10.0.0.9" } =
      .error (.invalid "TCP endpoint '10.0.0.9' must be HOST:PORT") := by
  constructor
  · have accepted : CommandLine.parse ["--device", "/dev/ttyUSB0"] =
        .ok { device := some "/dev/ttyUSB0" } := eq_ok_of_toOption (by decide +kernel)
    have loaded : ((load everySource { device := some "/dev/ttyUSB0" }).toOption.any
        fun _ => true) = true := by
      decide +kernel
    obtain ⟨c, loaded, -⟩ := exists_of_any loaded
    exact ⟨c, loaded, ((endpoint_of_command_line accepted rfl everySource).1 c loaded).1⟩
  · have accepted : CommandLine.parse ["--tcp=10.0.0.9"] = .ok { tcp := some "10.0.0.9" } :=
      eq_ok_of_toOption (by decide +kernel)
    have inFile : ((everySource.fileLayer defaultFile).toOption.any
        fun file => (decode .layered file.content).isOk) = true := by
      decide +kernel
    have inEnvironment : (everySource.environmentLayer.toOption.any
        fun environment => (decode .layered environment.content).isOk) = true := by
      decide +kernel
    obtain ⟨file, fileRead, own⟩ := exists_of_any inFile
    obtain ⟨environment, environmentRead, set⟩ := exists_of_any inEnvironment
    obtain ⟨merged, read, refused⟩ := (endpoint_of_command_line accepted rfl everySource).2 file
      environment nofun fileRead environmentRead (Decoder.accepts_of_isOk own)
      (Decoder.accepts_of_isOk set)
    have whole : (do
        let file ← everySource.fileLayer defaultFile
        let environment ← everySource.environmentLayer
        ofLayers ([defaultLayer, file, environment] ++
          CommandLine.layers { tcp := some "10.0.0.9" })).toOption =
        some { endpoint := { tcp := some "10.0.0.9", device := some "/dev/ttyS1" } } := by
      decide +kernel
    rw [fileRead, environmentRead] at whole
    cases Except.ok.inj (read.symm.trans (eq_ok_of_toOption whole))
    exact (refused rfl (by decide) (by decide) _).2 ⟨_, rfl, by decide, rfl⟩

end ByteTap.Monitor
