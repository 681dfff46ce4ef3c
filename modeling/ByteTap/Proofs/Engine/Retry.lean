import ByteTap.Proofs.Engine.Backoff

/-!
# From one failed read to the next

`Timed` histories have the waits that are due; here they are put in relation to the reads, which are
issued and end in turn, and to the settings.

* `Paired`: in a history no read ends that was not issued;
* `Settings.Timed.waits_between`: so between a failed read and the next one stands the one wait for
  it, and
* `Settings.Timed.waitsInRow_eq`: the waits in a row of failures are those for one, two, three and
  so on of them;
* `retries_take_time_iff`: every such wait takes time exactly if the settings have one for the first
  failure, which they need not have to be valid (`retry_at_once`);
* `backoff_doubles`: how the waits grow in a row, at most sixteen times (`maximum_out_of_reach`).
-/

namespace ByteTap

/-- How long the worker waited. -/
@[simp] def Event.waited? : Event → Option UInt64
  | waited delay => some delay
  | _ => none

/-! ## Reads in a history -/

/-- A read was issued, and has neither ended nor been dropped. -/
@[simp] def inFlight : List Event → Bool
  | [] => false
  | .issued _ :: _ => true
  | .ended _ :: _ | .abandoned :: _ => false
  | _ :: older => inFlight older

/-- Every read that ended had been issued. -/
@[simp] def Paired : List Event → Prop
  | [] => True
  | .ended _ :: older => inFlight older = true ∧ Paired older
  | _ :: older => Paired older

@[simp] theorem inFlight_noted (notes : List String) (older : List Event) :
    inFlight ((notes.map Event.noted).reverse ++ older) = inFlight older :=
  eq_of_noted (fun _ _ => rfl) notes older

@[simp] theorem inFlight_asked (asked : Bool) (older : List Event) :
    inFlight ((if asked then [.stopAsked] else []) ++ older) = inFlight older := by
  cases asked <;> rfl

@[simp] theorem paired_noted (notes : List String) (older : List Event) :
    Paired ((notes.map Event.noted).reverse ++ older) = Paired older :=
  eq_of_noted (fun _ _ => rfl) notes older

@[simp] theorem paired_asked (asked : Bool) (older : List Event) :
    Paired ((if asked then [.stopAsked] else []) ++ older) = Paired older := by
  cases asked <;> rfl

section

variable {history newer older between : List Event} {result : Except IoFailure Bytes}

theorem Paired.of_append (paired : Paired (newer ++ older)) : Paired older := by
  induction newer with
  | nil => exact paired
  | cons event newer ih =>
    refine ih ?_
    cases event with
    | ended result => exact paired.2
    | _ => exact paired

/-- After a read has ended, none is in flight or ends before the next one is issued. -/
theorem Paired.unended (paired : Paired (between ++ .ended result :: older))
    (next : ∀ room, .issued room ∉ between) :
    inFlight (between ++ .ended result :: older) = false ∧ ∀ other, .ended other ∉ between := by
  induction between with
  | nil => exact ⟨rfl, fun _ => List.not_mem_nil⟩
  | cons event between ih =>
    have later : ∀ room, .issued room ∉ between :=
      fun room among => next room (List.mem_cons_of_mem event among)
    cases event with
    | issued room => exact absurd List.mem_cons_self (next room)
    | ended other =>
      obtain ⟨flying, paired⟩ := paired
      have landed := (ih paired later).1
      exact absurd (landed.symm.trans flying) Bool.false_ne_true
    | abandoned =>
      obtain ⟨-, none⟩ := ih paired later
      exact ⟨rfl, by simpa using none⟩
    | _ =>
      obtain ⟨landed, none⟩ := ih paired later
      exact ⟨landed, by simpa using none⟩

/-- The waits and the failures since a read ended, if no other has ended. -/
theorem since_ended (result : Except IoFailure Bytes) (older : List Event)
    (none : ∀ other, .ended other ∉ between) :
    waitsSince (between ++ .ended result :: older) = between.filterMap Event.waited? ∧
      failuresIn (between ++ .ended result :: older) =
        failuresAfter (failuresIn older) result := by
  induction between with
  | nil => exact ⟨rfl, rfl⟩
  | cons event between ih =>
    have later : ∀ other, .ended other ∉ between :=
      fun other among => none other (List.mem_cons_of_mem event among)
    obtain ⟨waits, failures⟩ := ih later
    cases event with
    | ended other => exact absurd List.mem_cons_self (none other)
    | waited delay => exact ⟨congrArg (delay :: ·) waits, failures⟩
    | _ => exact ⟨waits, failures⟩

end

namespace Settings

/-- The waits in a row of that many failed reads, newest first. -/
def waits (s : Settings) : Nat → List UInt64
  | 0 => []
  | failures + 1 => s.backoff (failures + 1) :: s.waits failures

/-- The wait that is due completes the row of those before it. -/
theorem due_append_waits (s : Settings) (failures : Nat) :
    s.due failures ++ s.waits (failures - 1) = s.waits failures := by
  cases failures with
  | zero => rfl
  | succ before => rfl

section

variable {s : Settings} {history older between : List Event}

/-- What is due before a read was waited for when it was issued. -/
theorem Timed.waitsSince_of_inFlight (timed : s.Timed history) (flying : inFlight history = true) :
    waitsSince history = s.due (failuresIn history) := by
  induction history with
  | nil => cases flying
  | cons event older ih =>
    cases event with
    | issued room => exact timed.1
    | waited delay =>
      obtain ⟨⟨some, none, -⟩, timed⟩ := timed
      have waits := ih timed flying
      rw [none, s.due_of_pos some] at waits
      cases waits
    | ended result => cases flying
    | abandoned => cases flying
    | _ => exact ih timed flying

/-- Since a read ended, nothing was waited for or what was due. -/
theorem Timed.waitsSince_cases (timed : s.Timed history) :
    waitsSince history = [] ∨ waitsSince history = s.due (failuresIn history) := by
  induction history with
  | nil => exact .inl rfl
  | cons event older ih =>
    cases event with
    | issued room => exact .inr timed.1
    | waited delay =>
      obtain ⟨⟨some, none, rfl⟩, timed⟩ := timed
      refine .inr ?_
      show _ :: waitsSince older = s.due (failuresIn older)
      rw [none, s.due_of_pos some]
    | ended result => exact .inl rfl
    | _ => exact ih timed

/-- The waits in a row of failures are those for all of them but the last, and the one for the last
if there was time for it. -/
theorem Timed.waitsInRow_eq (timed : s.Timed history) (paired : Paired history) :
    waitsInRow history = waitsSince history ++ s.waits (failuresIn history - 1) := by
  induction history with
  | nil => rfl
  | cons event older ih =>
    cases event with
    | ended result =>
      obtain ⟨flying, paired⟩ := paired
      cases result with
      | ok bytes => rfl
      | error cause =>
        have own : s.Timed older := timed
        have waited := own.waitsSince_of_inFlight flying
        show waitsInRow older = s.waits (failuresIn older)
        rw [ih own paired, waited, due_append_waits]
    | waited delay => exact congrArg (delay :: ·) (ih timed.2 paired)
    | issued room => exact ih timed.2 paired
    | _ => exact ih timed paired

/-- Between a failed read and the next one stands the one wait for it. -/
theorem Timed.waits_between {room : Nat} {cause : IoFailure}
    (timed : s.Timed (.issued room :: (between ++ .ended (.error cause) :: older)))
    (none : ∀ other, .ended other ∉ between) :
    between.filterMap Event.waited? = [s.backoff (failuresIn older + 1)] := by
  obtain ⟨waits, failures⟩ := since_ended (.error cause) older none
  rw [← waits, timed.1, failures]
  exact s.due_of_pos (Nat.succ_pos _)

end

end Settings

namespace Engine

variable {τ : Type} {arrives : τ → τ → Prop} {e e' : Engine τ}

/-- Reads are issued and end in turn. -/
structure TakesTurns (e : Engine τ) : Prop where
  paired : Paired e.trace
  reading : ∀ room, e.stage = .reading room → inFlight e.trace = true

theorem TakesTurns.call (turns : TakesTurns e) (step : CallStep e e') : TakesTurns e' := by
  obtain ⟨paired, reading⟩ := turns
  constructor
  · cases step <;> exact paired
  · cases step <;> exact reading

variable [Transport τ]

theorem TakesTurns.worker (turns : TakesTurns e) (step : WorkerStep e e') : TakesTurns e' := by
  obtain ⟨paired, reading⟩ := turns
  constructor
  · cases step
    -- Only here does a read end that was issued in an earlier step.
    case readEnded room polled result place unpermitted poll ended =>
      have flying := reading room place
      simp [flying, paired]
    all_goals simp [paired]
  · cases step <;> simp

theorem Reachable.takesTurns (reachable : Reachable arrives e) : TakesTurns e := by
  refine reachable.invariant ?_ TakesTurns.worker TakesTurns.call ?_
  · intro settings transport consumer e spawned
    obtain ⟨-, -, registration, registrations, rfl⟩ := spawn_eq_ok spawned
    exact ⟨trivial, nofun⟩
  · exact fun turns _ => ⟨turns.paired, turns.reading⟩

/-! ## The wait before the next read -/

/-- A read failed and the worker issued the next one, after the given waits, newest first. -/
def RetriedAfter (e : Engine τ) (waits : List UInt64) : Prop :=
  ∃ newer room between cause older,
    e.trace = newer ++ .issued room :: (between ++ .ended (.error cause) :: older) ∧
      (∀ room, .issued room ∉ between) ∧ between.filterMap Event.waited? = waits

/-- Before it tries again the worker waits once, and this wait takes time exactly if the settings
have one for the first failure. -/
theorem Reachable.waits_before_retry (reachable : Reachable arrives e) {waits : List UInt64}
    (retried : e.RetriedAfter waits) :
    ∃ delay, waits = [delay] ∧ (0 < delay ↔ 0 < e.settings.errorBackoffMs) := by
  obtain ⟨newer, room, between, cause, older, history, next, rfl⟩ := retried
  obtain ⟨valid, timed, -⟩ := reachable.punctual
  have paired := reachable.takesTurns.paired
  rw [history] at timed paired
  -- reads alternate, so no other read ended between this failure and the next issue
  have failed : Paired (between ++ .ended (.error cause) :: older) := paired.of_append
  have retry : e.settings.Timed (.issued room :: _) := timed.of_append
  exact ⟨_, retry.waits_between (failed.unended next).2, Settings.backoff_pos_iff valid _⟩

/-- A script of two failures. -/
def twoFailures : Script := { steps := List.replicate 2 (.failure .timedOut) }

/-- The turns in which both of them are read, with the wait between them. -/
def bothReads : List Label := List.replicate 6 .worker ++ .timer :: List.replicate 2 .worker

/-- Whatever its settings are, an engine comes to try again, with the wait for one failure. -/
theorem retriedAfter_bothReads {s : Settings} {start : Engine Script}
    (spawned : spawn s twoFailures none = .ok start) :
    (start.run bothReads).RetriedAfter [s.backoff 1] ∧
      (start.run bothReads).shared.phase = .running ∧
      Transport.isOpen (start.run bothReads).transport = true := by
  obtain ⟨valid, -, rfl⟩ := eq_of_spawn spawned
  have room : s.capacity.toNat ≠ 0 := by
    intro none
    have empty : s.capacity = 0 := UInt64.toNat_inj.1 none
    simp [Settings.defect?, empty] at valid
  have free : (Buffer.empty s.capacity.toNat).isFull = false := by
    simpa [Buffer.isFull, Buffer.empty] using room.symm
  have spare : (Buffer.empty s.capacity.toNat).spare = s.capacity.toNat := rfl
  let n := s.capacity.toNat
  let cause : IoFailure := ⟨.timedOut, "scripted read failure"⟩
  suffices followed : (run _ bothReads).trace =
      .ended (.error cause) :: .issued n :: .armed n :: .waited (s.backoff 1) ::
        .reported (.readFailed "scripted" cause) :: .ended (.error cause) :: .issued n ::
        .armed n :: .started :: [.spawned] ∧
      (run _ bothReads).shared.phase = .running ∧
      Transport.isOpen (run _ bothReads).transport = true by
    obtain ⟨history, still⟩ := followed
    exact ⟨⟨[_], _, [_, _, _], _, _, history, by simp, rfl⟩, still⟩
  simp [n, cause, bothReads, twoFailures, List.replicate, run, next, work, arm, applyStopRequest,
    free, spare, issue, Transport.startRead, Transport.issue, Transport.poll, Transport.isOpen,
    Transport.label, Script.poll, Script.answer, Script.takeStep, Script.finish, room, follow,
    noteAll, complete, conclude, report, settleRead, wakeFromBackoff, proceed, note, goto, modify]

/-- Whether the worker always takes time before it tries again depends on one setting alone. -/
theorem retries_take_time_iff {s : Settings} (valid : s.validate = .ok ())
    (fits : s.capacity.toNat ≤ Buffer.largest) :
    (∀ (τ : Type) [Transport τ] (arrives : τ → τ → Prop) (e : Engine τ) (waits : List UInt64),
        Reachable arrives e → e.settings = s → e.RetriedAfter waits →
        ∃ delay, waits = [delay] ∧ 0 < delay) ↔
      0 < s.errorBackoffMs := by
  constructor
  · intro always
    obtain ⟨start, spawned⟩ := exists_spawn valid fits twoFailures none
    have started : Reachable Script.Pushed start := .started s twoFailures none spawned
    have steps : Steps Script.Pushed start (start.run bothReads) := steps_run start bothReads
    have own : start.settings = s := by
      obtain ⟨-, -, rfl⟩ := eq_of_spawn spawned
      rfl
    have retried := (retriedAfter_bothReads spawned).1
    obtain ⟨delay, same, some⟩ :=
      always _ _ _ _ (started.steps steps) (steps.settings_same.trans own) retried
    cases same
    exact (Settings.backoff_pos_iff (Settings.defect?_of_validate valid) 1).1 some
  · rintro some τ _ arrives e waits reachable rfl retried
    obtain ⟨delay, same, positive⟩ := reachable.waits_before_retry retried
    exact ⟨delay, same, positive.2 some⟩

/-- A first wait of three milliseconds is enough. -/
theorem retries_take_time_iff_of_three :
    (∀ (τ : Type) [Transport τ] (arrives : τ → τ → Prop) (e : Engine τ) (waits : List UInt64),
        Reachable arrives e → e.settings = { errorBackoffMs := 3 } → e.RetriedAfter waits →
        ∃ delay, waits = [delay] ∧ 0 < delay) ↔
      0 < (3 : UInt64) :=
  retries_take_time_iff (s := { errorBackoffMs := 3 }) rfl (by decide)

/-- Settings can be valid and have no wait at all.  Then the worker tries again at once, though the
engine runs and the transport is open. -/
theorem retry_at_once :
    ¬ ∀ (s : Settings) (e : Engine Script) (waits : List UInt64), s.validate = .ok () →
        e.settings = s → Reachable Script.Pushed e → e.shared.phase = .running →
        Transport.isOpen e.transport = true → e.RetriedAfter waits →
        ∃ delay ∈ waits, 0 < delay := by
  intro always
  have started : Reachable Script.Pushed _ := .started { errorBackoffMs := 0 } twoFailures none rfl
  have ended := started.steps (steps_run _ bothReads)
  obtain ⟨retried, running, isOpen⟩ :=
    retriedAfter_bothReads (s := { errorBackoffMs := 0 }) rfl
  obtain ⟨delay, among, some⟩ := always _ _ _ rfl rfl ended running isOpen retried
  cases List.mem_singleton.1 among
  exact absurd some (by decide)

end Engine

/-! ## How the waits grow -/

namespace Settings

/-- The wait doubles from failure to failure, until it is as long as it may be or has doubled 16
times, and is the same from then on. -/
structure Doubles (s : Settings) : Prop where
  first : s.backoff 1 = s.errorBackoffMs
  doubled : ∀ failures, 0 < failures → failures ≤ 16 →
    (s.backoff (failures + 1)).toNat =
      min s.maxErrorBackoffMs.toNat (2 * (s.backoff failures).toNat)
  longest : ∀ failures more, failures ≤ more → s.backoff failures = s.maxErrorBackoffMs →
    s.backoff more = s.maxErrorBackoffMs
  last : ∀ failures, 16 < failures → s.backoff failures = s.backoff 17
  /-- Whether it ever is as long as it may be. -/
  reaches : (∃ failures, ∀ more, failures ≤ more → s.backoff more = s.maxErrorBackoffMs) ↔
    s.maxErrorBackoffMs.toNat ≤ s.errorBackoffMs.toNat * 2 ^ 16

variable {s : Settings}

theorem backoff_eq_max_iff {failures : Nat} (many : 16 < failures) :
    s.backoff failures = s.maxErrorBackoffMs ↔
      s.maxErrorBackoffMs.toNat ≤ s.errorBackoffMs.toNat * 2 ^ 16 := by
  rw [← UInt64.toNat_inj, toNat_backoff, s.delay_eq_max_iff many]

/-- The two settings alone decide whether the longest wait is ever reached. -/
theorem reaches_max_iff :
    (∃ failures, ∀ more, failures ≤ more → s.backoff more = s.maxErrorBackoffMs) ↔
      s.maxErrorBackoffMs.toNat ≤ s.errorBackoffMs.toNat * 2 ^ 16 := by
  constructor
  · rintro ⟨failures, ever⟩
    have many : 16 < failures + 17 := by omega
    exact (backoff_eq_max_iff many).1 (ever _ (Nat.le_add_right _ _))
  · intro near
    exact ⟨17, fun more le => (backoff_eq_max_iff le).2 near⟩

theorem doubles (valid : s.defect? = none) : s.Doubles where
  first := backoff_one valid
  doubled failures some few := by
    rw [toNat_backoff, toNat_backoff]
    exact s.delay_succ some few
  longest failures more le reached := by
    have grows := s.backoff_mono le
    rw [reached] at grows
    exact UInt64.le_antisymm (s.backoff_le_maxErrorBackoffMs more) grows
  last failures many := by
    rw [← UInt64.toNat_inj, toNat_backoff, toNat_backoff, s.delay_of_many many,
      s.delay_of_many (by decide)]
  reaches := reaches_max_iff

end Settings

namespace Engine

/-- The waits in a row of failures are those for one of them, for two and so on; the one for the
last may still be to come. -/
theorem waitsInRow_eq_waits {τ : Type} [Transport τ] {arrives : τ → τ → Prop} {e : Engine τ}
    (reachable : Reachable arrives e) :
    ∃ failures, failuresIn e.trace - 1 ≤ failures ∧ failures ≤ failuresIn e.trace ∧
      waitsInRow e.trace = e.settings.waits failures := by
  have timed := reachable.punctual.timed
  have row := timed.waitsInRow_eq reachable.takesTurns.paired
  rcases timed.waitsSince_cases with none | due
  · rw [none] at row
    exact ⟨_, Nat.le_refl _, Nat.sub_le _ _, row⟩
  · rw [due, Settings.due_append_waits] at row
    exact ⟨_, Nat.sub_le _ _, Nat.le_refl _, row⟩

end Engine

/-- With valid settings the wait doubles up to its maximum or 16 times, and in a row of failures the
worker waits as long as this says. -/
theorem backoff_doubles {s : Settings} (valid : s.validate = .ok ()) :
    s.Doubles ∧ ∀ (τ : Type) [Transport τ] (arrives : τ → τ → Prop) (e : Engine τ),
      Engine.Reachable arrives e → e.settings = s →
      ∃ failures, failuresIn e.trace - 1 ≤ failures ∧ failures ≤ failuresIn e.trace ∧
        waitsInRow e.trace = s.waits failures := by
  refine ⟨Settings.doubles (Settings.defect?_of_validate valid), ?_⟩
  rintro τ _ arrives e reachable rfl
  exact Engine.waitsInRow_eq_waits reachable

/-- A first wait of one millisecond doubles to 65536, far below the longest of a million. -/
theorem backoff_doubles_of_far_maximum :
    Settings.Doubles { errorBackoffMs := 1, maxErrorBackoffMs := 1000000 } ∧
      ∀ (τ : Type) [Transport τ] (arrives : τ → τ → Prop) (e : Engine τ),
        Engine.Reachable arrives e →
        e.settings = { errorBackoffMs := 1, maxErrorBackoffMs := 1000000 } →
        ∃ failures, failuresIn e.trace - 1 ≤ failures ∧ failures ≤ failuresIn e.trace ∧
          waitsInRow e.trace =
            Settings.waits { errorBackoffMs := 1, maxErrorBackoffMs := 1000000 } failures :=
  backoff_doubles (s := { errorBackoffMs := 1, maxErrorBackoffMs := 1000000 }) rfl

/-- The waits do not always come to the longest one: after the sixteenth doubling they stay. -/
theorem maximum_out_of_reach :
    ¬ ∀ s : Settings, s.validate = .ok () → 1 ≤ s.errorBackoffMs →
        ∃ failures, ∀ more, failures ≤ more → s.backoff more = s.maxErrorBackoffMs := by
  intro always
  have reaches := always { errorBackoffMs := 1, maxErrorBackoffMs := 65537 } rfl (by decide)
  exact absurd (Settings.reaches_max_iff.1 reaches) (by decide)

end ByteTap
