import ByteTap.Engine.Construction
import ByteTap.Proofs.Engine.Reachable
import ByteTap.Proofs.Settings
import ByteTap.Transport.Line

/-!
# Which settings an engine can be constructed with

Three places of the construction can panic: the buffer is set aside, the worker thread gets its
name, and the worker sets its scratch area aside.  `validate` stands before all of them.  It keeps
every name away at which the second would panic (`name_of_validate`), but it only asks that there be
a buffer at all: `construct_of_large` is the panic that it lets through, and
`construction_panics_iff` says that there is no other, whichever way the engine is constructed.
-/

namespace ByteTap

/-- A thread can be started under every name that `validate` lets through. -/
theorem Settings.name_of_validate {s : Settings} (valid : s.validate = .ok ()) :
    Thread.name s.workerName = .ok s.workerName := by
  have clean := defect?_of_validate valid
  unfold defect? at clean
  unfold Thread.name
  cases nul : s.workerName.toList.contains '\x00' with
  | false => rfl
  | true =>
    rw [if_pos nul] at clean
    repeat' split at clean
    all_goals cases clean

namespace Engine

variable {τ : Type} [Transport τ] (host : Host) (transport : τ) (consumer : Option Consumer)
  {settings : Settings}

/-- Settings that `validate` refuses are refused before anything is set up. -/
theorem construct_of_invalid {fault : Fault} (refused : settings.validate = .error fault) :
    construct host settings transport consumer = .error (.fault fault) := by
  unfold construct spawn
  rw [refused]
  rfl

/-- A buffer that cannot be in memory is not refused. -/
theorem construct_of_large (valid : settings.validate = .ok ())
    (large : Buffer.largest < settings.capacity.toNat) :
    construct host settings transport consumer = .error (.panic Buffer.overflowText) := by
  have overflows : Buffer.allocate settings.capacity.toNat = .error Buffer.overflowText :=
    if_pos large
  unfold construct spawn
  rw [valid, overflows]
  rfl

/-- With every other buffer all depends on the thread. -/
theorem construct_of_fits (valid : settings.validate = .ok ())
    (fits : settings.capacity.toNat ≤ Buffer.largest) :
    ∃ e, spawn settings transport consumer = .ok e ∧
      construct host settings transport consumer =
        match host.threadFailure with
        | some cause => .error (.fault (.workerSpawn cause))
        | none => .ok e := by
  obtain ⟨e, spawned⟩ := exists_spawn valid fits transport consumer
  have same : e.settings = settings := by
    obtain ⟨-, -, rfl⟩ := eq_of_spawn spawned
    rfl
  refine ⟨e, spawned, ?_⟩
  have named := Settings.name_of_validate valid
  unfold construct
  rw [spawned]
  show e.launch host = _
  unfold launch
  rw [same]
  cases host.threadFailure <;> simp [named]

/-- The worker of an engine that was started has an area to read into. -/
theorem scratch_of_spawn {e : Engine τ} (spawned : spawn settings transport consumer = .ok e) :
    e.scratch = .ok (.empty e.settings.capacity.toNat) := by
  obtain ⟨-, fits, rfl⟩ := eq_of_spawn spawned
  exact if_neg (Nat.not_lt.2 fits)

end Engine

namespace Construction

variable {τ : Type} [Transport τ] (host : Host) (transport : τ) (way : Construction)

/-- All ways lead through `Engine.construct`, once there is an event loop. -/
theorem start_eq :
    ∃ consumer, way.start host transport =
      match way.loopFailure host with
      | some cause => .error (.fault (.contextBuild cause))
      | none => Engine.construct host way.settings transport consumer := by
  cases way with
  | plain => exact ⟨none, rfl⟩
  | sized capacity => exact ⟨none, rfl⟩
  | configured settings => exact ⟨none, rfl⟩
  | built b =>
    refine ⟨b.consumer, ?_⟩
    obtain ⟨settings, context, sink, consumer⟩ := b
    cases context with
    | some context => rfl
    | none =>
      show Builder.spawn _ _ _ = match host.loopFailure with | some _ => _ | none => _
      unfold Builder.spawn
      cases host.loopFailure <;> rfl

/-- An engine is constructed with a panic exactly if `validate` lets settings through whose buffer
is larger than memory can be.  An engine that is constructed runs with the settings it was given,
under the name it was given, and with an area to read into; and one is constructed from all valid
settings whose buffer is not too large, unless the machine refuses the event loop or the thread. -/
theorem construction_panics_iff :
    (∀ message, way.start host transport = .error (.panic message) ↔
      message = Buffer.overflowText ∧ way.loopFailure host = none ∧
        way.settings.validate = .ok () ∧ Buffer.largest < way.settings.capacity.toNat) ∧
    ((∃ e, way.start host transport = .ok e) ↔
      way.loopFailure host = none ∧ host.threadFailure = none ∧
        way.settings.validate = .ok () ∧ way.settings.capacity.toNat ≤ Buffer.largest) ∧
    ∀ e, way.start host transport = .ok e →
      e.settings = way.settings ∧
      Thread.name e.settings.workerName = .ok e.settings.workerName ∧
      e.scratch = .ok (.empty e.settings.capacity.toNat) := by
  obtain ⟨consumer, start⟩ := way.start_eq host transport
  rw [start]
  cases loop : way.loopFailure host with
  | some cause => simp
  | none =>
    dsimp only
    cases valid : way.settings.validate with
    | error fault => simp [Engine.construct_of_invalid host transport consumer valid]
    | ok =>
      by_cases large : Buffer.largest < way.settings.capacity.toNat
      · rw [Engine.construct_of_large host transport consumer valid large]
        have never : ¬ way.settings.capacity.toNat ≤ Buffer.largest := Nat.not_le.2 large
        simp [large, never, eq_comm]
      · have fits := Nat.not_lt.1 large
        obtain ⟨e, spawned, constructed⟩ :=
          Engine.construct_of_fits host transport consumer valid fits
        rw [constructed]
        cases thread : host.threadFailure with
        | some cause => simp [large]
        | none =>
          have same : e.settings = way.settings := by
            obtain ⟨-, -, rfl⟩ := Engine.eq_of_spawn spawned
            rfl
          refine ⟨fun message => by simp [large], by simp [fits], ?_⟩
          rintro _ ⟨⟩
          refine ⟨same, ?_, Engine.scratch_of_spawn transport consumer spawned⟩
          rw [same]
          exact Settings.name_of_validate valid

/-- A builder that was told a size and a name constructs an engine with them. -/
theorem construction_panics_iff_of_small_buffer :
    ∃ e, Construction.start {} (Line.silent {})
      (.built ((Builder.capacity {} 32).workerName "gnss-rx")) = .ok e ∧
      e.settings.workerName = "gnss-rx" ∧ e.scratch = .ok (.empty 32) := by
  obtain ⟨-, starts, runs⟩ := construction_panics_iff {} (Line.silent {})
    (.built ((Builder.capacity {} 32).workerName "gnss-rx"))
  obtain ⟨e, started⟩ := starts.2 ⟨rfl, rfl, by rfl, by decide⟩
  obtain ⟨same, -, scratch⟩ := runs e started
  rw [same] at scratch
  exact ⟨e, started, by rw [same]; rfl, scratch⟩

/-- A buffer of 2⁶³ bytes passes `validate`, and the construction panics. -/
theorem valid_settings_panic :
    ¬ ∀ way : Construction, way.settings.validate = .ok () →
      ∀ message, way.start {} (Line.silent {}) ≠ .error (.panic message) := by
  intro never
  exact never (.sized 0x8000000000000000) (by rfl) Buffer.overflowText (by rfl)

end Construction

end ByteTap
