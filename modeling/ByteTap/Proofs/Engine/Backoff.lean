import ByteTap.Proofs.Engine.Ledger
import ByteTap.Proofs.Settings
import ByteTap.Proofs.Transport.Script

/-!
# Waiting between failed reads

After a failed read that leaves the transport open the worker waits before it arms the next one, the
longer the more reads have failed in a row.  It keeps the number of them to itself; here the waits
are compared with the history, in which every read is found with its end.

* `failuresIn`: how many reads have failed since the last one that did not;
* `Timed`: before every read of a history stands the wait that is due for it, and no other;
* `Stage.OnTime`: the number in the worker's mind is that of the history, wherever it stands;
* `WorkerStep.punctual`: every step of the worker keeps both;
* `backoff_applied`: the waits of every run.
-/

namespace ByteTap

/-! ## Waits in a history

A history is newest first. -/

/-- How many reads have failed in a row once a read has ended. -/
@[simp] def failuresAfter (before : Nat) : Except IoFailure Bytes → Nat
  | .error _ => before + 1
  | .ok _ => 0

/-- How many reads have failed since the last one that did not. -/
@[simp] def failuresIn : List Event → Nat
  | [] => 0
  | .ended result :: older => failuresAfter (failuresIn older) result
  | _ :: older => failuresIn older

/-- The waits since a read ended, newest first. -/
@[simp] def waitsSince : List Event → List UInt64
  | [] => []
  | .ended _ :: _ => []
  | .waited delay :: older => delay :: waitsSince older
  | _ :: older => waitsSince older

/-- The waits since a read ended that did not fail, newest first. -/
@[simp] def waitsInRow : List Event → List UInt64
  | [] => []
  | .ended (.ok _) :: _ => []
  | .waited delay :: older => delay :: waitsInRow older
  | _ :: older => waitsInRow older

@[simp] theorem failuresIn_noted (notes : List String) (older : List Event) :
    failuresIn ((notes.map Event.noted).reverse ++ older) = failuresIn older :=
  eq_of_noted (fun _ _ => rfl) notes older

@[simp] theorem waitsSince_noted (notes : List String) (older : List Event) :
    waitsSince ((notes.map Event.noted).reverse ++ older) = waitsSince older :=
  eq_of_noted (fun _ _ => rfl) notes older

@[simp] theorem failuresIn_asked (asked : Bool) (older : List Event) :
    failuresIn ((if asked then [.stopAsked] else []) ++ older) = failuresIn older := by
  cases asked <;> rfl

@[simp] theorem waitsSince_asked (asked : Bool) (older : List Event) :
    waitsSince ((if asked then [.stopAsked] else []) ++ older) = waitsSince older := by
  cases asked <;> rfl

namespace Settings

/-- The waits before a read, after that many failed ones in a row. -/
def due (s : Settings) (failures : Nat) : List UInt64 :=
  if failures = 0 then [] else [s.backoff failures]

@[simp] theorem due_zero (s : Settings) : s.due 0 = [] := rfl

/-- After a failure one wait is due. -/
theorem due_of_pos (s : Settings) {failures : Nat} (some : 0 < failures) :
    s.due failures = [s.backoff failures] :=
  if_neg (Nat.pos_iff_ne_zero.1 some)

/-- Before every read stands the wait that is due for it, and no other; and there are no waits but
those that are due. -/
@[simp] def Timed (s : Settings) : List Event → Prop
  | [] => True
  | .issued _ :: older => waitsSince older = s.due (failuresIn older) ∧ Timed s older
  | .waited delay :: older =>
      (0 < failuresIn older ∧ waitsSince older = [] ∧ delay = s.backoff (failuresIn older)) ∧
        Timed s older
  | _ :: older => Timed s older

@[simp] theorem timed_noted (s : Settings) (notes : List String) (older : List Event) :
    s.Timed ((notes.map Event.noted).reverse ++ older) = s.Timed older :=
  eq_of_noted (fun _ _ => rfl) notes older

@[simp] theorem timed_asked (s : Settings) (asked : Bool) (older : List Event) :
    s.Timed ((if asked then [.stopAsked] else []) ++ older) = s.Timed older := by
  cases asked <;> rfl

variable {s : Settings} {history newer older : List Event}

theorem Timed.of_append (timed : s.Timed (newer ++ older)) : s.Timed older := by
  induction newer with
  | nil => exact timed
  | cons event newer ih =>
    refine ih ?_
    cases event with
    | issued room => exact timed.2
    | waited delay => exact timed.2
    | _ => exact timed

/-- Each wait in a row of failures is the one for some of them. -/
theorem Timed.of_mem_waitsInRow (timed : s.Timed history) {delay : UInt64}
    (among : delay ∈ waitsInRow history) :
    ∃ failures, failures ≤ failuresIn history ∧ delay = s.backoff failures := by
  induction history with
  | nil => cases among
  | cons event older ih =>
    cases event with
    -- a failed read goes on with the row, any other starts a new one
    | ended result =>
      cases result with
      | ok bytes => cases among
      | error cause =>
        obtain ⟨failures, le, same⟩ := ih timed among
        exact ⟨failures, Nat.le_succ_of_le le, same⟩
    | waited last =>
      obtain ⟨⟨-, -, computed⟩, timed⟩ := timed
      rcases List.mem_cons.1 among with rfl | among
      · exact ⟨failuresIn older, Nat.le_refl _, computed⟩
      · exact ih timed among
    | issued room => exact ih timed.2 among
    | _ => exact ih timed among

/-- The waits in a row of failures never get shorter. -/
theorem Timed.ascending (timed : s.Timed history) :
    (waitsInRow history).Pairwise fun later earlier => earlier ≤ later := by
  induction history with
  | nil => exact .nil
  | cons event older ih =>
    cases event with
    | ended result =>
      cases result with
      | ok bytes => exact .nil
      | error cause => exact ih timed
    -- the latest wait is for more failures than those before it in the row
    | waited last =>
      obtain ⟨⟨-, -, rfl⟩, timed⟩ := timed
      refine .cons (fun earlier among => ?_) (ih timed)
      obtain ⟨failures, le, rfl⟩ := timed.of_mem_waitsInRow among
      exact s.backoff_mono le
    | issued room => exact ih timed.2
    | _ => exact ih timed

end Settings

/-- What the worker at that place has in mind of the history: how many reads failed in a row, and
what is due before the next one. -/
def Stage.OnTime (s : Settings) (failures : Nat) (history : List Event) : Stage → Prop
  | .completing _ result =>
      failuresIn history = failuresAfter failures result ∧ waitsSince history = []
  | .reportingFailure _ _ handled | .settling _ handled =>
      failuresIn history = (if handled.failed then failures + 1 else 0) ∧ waitsSince history = []
  | .backingOff delay _ _ =>
      failuresIn history = failures ∧ 0 < failures ∧ waitsSince history = [] ∧
        delay = s.backoff failures
  | .reading _ => failuresIn history = failures
  | .starting | .arming | .reportingDrop _ | .issuing _ | .recordingFull | .reportingFull |
      .stalled | .rechecking =>
      failuresIn history = failures ∧ waitsSince history = s.due failures
  | _ => True

/-- Of the history only the row of failures and the waits in it count. -/
theorem Stage.onTime_congr {stage : Stage} {s : Settings} {failures : Nat}
    {history history' : List Event} (row : failuresIn history' = failuresIn history)
    (waits : waitsSince history' = waitsSince history) :
    stage.OnTime s failures history' ↔ stage.OnTime s failures history := by
  cases stage <;> simp only [OnTime, row, waits]

/-- The worker has handled a failed read that left the engine running, and has not yet decided what
follows it. -/
def Stage.owesWait : Stage → Bool
  | .reportingFailure _ _ handled | .settling _ handled => handled.running && handled.failed
  | _ => false

namespace Engine

variable {τ : Type} {arrives : τ → τ → Prop} {e e' : Engine τ}

/-- The waits so far were those that were due, and the worker knows what is due next. -/
structure Punctual (e : Engine τ) : Prop where
  valid : e.settings.defect? = none
  timed : e.settings.Timed e.trace
  onTime : e.stage.OnTime e.settings e.failures e.trace

theorem CallStep.punctual (step : CallStep e e') (punctual : Punctual e) : Punctual e' := by
  obtain ⟨valid, timed, onTime⟩ := punctual
  constructor
  · rw [step.same_worker.settings, valid]
  · cases step <;> exact timed
  · have failures : e'.failures = e.failures := by cases step <;> rfl
    rw [step.same_worker.stage, step.same_worker.settings, failures]
    exact (Stage.onTime_congr (by cases step <;> rfl) (by cases step <;> rfl)).2 onTime

variable [Transport τ]

/-- A read is issued after the waits that were due for it, and a wait that ends was due. -/
theorem WorkerStep.timed (step : WorkerStep e e') (punctual : Punctual e) :
    e.settings.Timed e'.trace := by
  obtain ⟨-, timed, onTime⟩ := punctual
  have wait {delay : UInt64} {room : Nat} {full : Bool}
      (place : e.stage = .backingOff delay room full) :
      e.settings.Timed (.waited delay :: e.trace) := by
    rw [place] at onTime
    obtain ⟨failures, some, nothing, due⟩ := onTime
    rw [← failures] at some due
    exact ⟨⟨some, nothing, due⟩, timed⟩
  have issued {room : Nat} (place : e.stage = .issuing room) :
      e.settings.Timed (.issued room :: .armed room :: e.trace) := by
    rw [place] at onTime
    obtain ⟨failures, waits⟩ := onTime
    rw [← failures] at waits
    exact ⟨waits, timed⟩
  cases step
  case issueEnded place _ _ _ => simpa using issued place
  case issuePending place _ _ _ => simpa using issued place
  case backoffRearm place _ => exact wait place
  case backoffStall place _ _ _ _ => exact wait place
  case backoffFull place _ _ _ _ => exact wait place
  -- No other step tells of a read that is issued, or of a wait.
  all_goals simpa using timed

/-- The worker counts the failures as the history does, and has in mind what is due next. -/
theorem WorkerStep.onTime (step : WorkerStep e e')
    (onTime : e.stage.OnTime e.settings e.failures e.trace) :
    e'.stage.OnTime e'.settings e'.failures e'.trace := by
  -- A read that did not fail ends the row, and nothing is due.
  have rowEnds {room : Nat} {handled : Handled} (place : e.stage = .settling room handled)
      (unfailed : handled.failed = false) : failuresIn e.trace = 0 ∧ waitsSince e.trace = [] := by
    rw [place] at onTime
    simpa [Stage.OnTime, unfailed] using onTime
  -- After the wait that was due there has been one wait, and it is no longer due.
  have waitEnds {delay : UInt64} {room : Nat} {full : Bool}
      (place : e.stage = .backingOff delay room full) :
      failuresIn (.waited delay :: e.trace) = e.failures ∧
        waitsSince (.waited delay :: e.trace) = e.settings.due e.failures := by
    rw [place] at onTime
    obtain ⟨failures, some, nothing, due⟩ := onTime
    exact ⟨failures, by simp [nothing, due, Settings.due_of_pos _ some]⟩
  cases step
  -- The end of a read is the last thing in the history, and is counted once it is settled.
  case issueEnded place _ _ _ =>
    rw [place] at onTime
    simp [Stage.OnTime, onTime.1]
  case readEnded place _ _ _ =>
    rw [place] at onTime
    have failures : failuresIn e.trace = e.failures := onTime
    simp [Stage.OnTime, failures]
  case completeFailed place =>
    rw [place] at onTime
    exact onTime
  case settleFailed place _ failed _ =>
    rw [place] at onTime
    obtain ⟨failures, nothing⟩ := onTime
    rw [failed] at failures
    exact ⟨failures, Nat.succ_pos _, nothing, rfl⟩
  case settleRearm place _ unfailed _ => exact rowEnds place unfailed
  case settleStall place _ unfailed _ _ _ _ => exact rowEnds place unfailed
  case settleFull place _ unfailed _ _ _ _ => exact rowEnds place unfailed
  case backoffRearm place _ => exact waitEnds place
  case backoffStall place _ _ _ _ => exact waitEnds place
  case backoffFull place _ _ _ _ => exact waitEnds place
  -- The other steps hand on what the worker has in mind, or leave the loop.
  all_goals
    have place := ‹e.stage = _›
    rw [place] at onTime
    simp_all [Stage.OnTime]

theorem WorkerStep.punctual (step : WorkerStep e e') (punctual : Punctual e) : Punctual e' where
  valid := by rw [step.settings_same, punctual.valid]
  timed := by
    rw [step.settings_same]
    exact step.timed punctual
  onTime := step.onTime punctual.onTime

/-- Every reachable engine has waited in time, and as long as its settings say. -/
theorem Reachable.punctual (reachable : Reachable arrives e) : Punctual e := by
  refine reachable.invariant ?_ ?_ ?_ ?_
  · intro settings transport consumer e spawned
    obtain ⟨valid, -, registration, registrations, rfl⟩ := spawn_eq_ok spawned
    exact ⟨valid, trivial, rfl, rfl⟩
  · exact fun punctual step => step.punctual punctual
  · exact fun punctual step => step.punctual punctual
  · exact fun punctual _ => ⟨punctual.valid, punctual.timed, punctual.onTime⟩

/-- What is said of the waits of an engine. -/
structure BacksOff (arrives : τ → τ → Prop) (e : Engine τ) : Prop where
  /-- The computation in words is the one in numbers without bounds, and a count of the failures in
  a word that stays at its largest value does as well. -/
  computed : ∀ failures, (e.settings.backoff failures).toNat = e.settings.delay failures ∧
    e.settings.backoff (min failures (UInt32.size - 1)) = e.settings.backoff failures
  /-- Before a read that follows failed ones there was the one wait for their number, and before
  every other read there was none. -/
  before_read : ∀ newer room older, e.trace = newer ++ .issued room :: older →
    (waitsSince older).map UInt64.toNat =
      if failuresIn older = 0 then [] else [e.settings.delay (failuresIn older)]
  /-- There is no wait but the one after a failed read. -/
  waited : ∀ newer delay older, e.trace = newer ++ .waited delay :: older →
    0 < failuresIn older ∧ waitsSince older = [] ∧
      delay.toNat = e.settings.delay (failuresIn older)
  /-- A failed read that leaves the engine running leads to a wait, unless the transport is gone. -/
  owes : ∀ e' room cause, e.stage = .completing room (.error cause) → e.next .worker = some e' →
    e'.shared.phase = .running → e'.stage.owesWait = true
  begins : e.stage.owesWait = true → Transport.isOpen e.transport = true →
    (e.next .worker).isSome ∧ ∀ e', Step arrives e e' →
      e'.stage.owesWait = true ∨ ∃ delay room full, e'.stage = .backingOff delay room full ∧
        delay.toNat = e.settings.delay (failuresIn e.trace)
  /-- Nothing but shutdown ends a wait before its time. -/
  lasts : ∀ delay room full, e.stage = .backingOff delay room full →
    delay.toNat = e.settings.delay (failuresIn e.trace) ∧ (e.next .timer).isSome ∧
      ∀ e', Step arrives e e' → e'.stage = e.stage ∨ e'.stage = .closing ∨
        e'.trace = .waited delay :: e.trace
  ascending : (waitsInRow e.trace).Pairwise fun later earlier => earlier ≤ later
  within : ∀ delay ∈ waitsInRow e.trace,
    e.settings.errorBackoffMs ≤ delay ∧ delay ≤ e.settings.maxErrorBackoffMs

/-- A read that failed while the engine goes on running makes the worker owe a wait. -/
theorem WorkerStep.owesWait {room : Nat} {cause : IoFailure}
    (place : e.stage = .completing room (.error cause)) (step : WorkerStep e e')
    (running : e'.shared.phase = .running) : e'.stage.owesWait = true := by
  cases step
  case completeFailed =>
    have running : e.shared.phase.heed e.stopRequested = .running := running
    show (e.shared.phase.heed e.stopRequested == .running && true) = true
    rw [running]
    rfl
  all_goals
    have here := ‹e.stage = _›
    rw [place] at here
    cases here

theorem work_isSome_of_owesWait (owes : e.stage.owesWait = true) : e.work.isSome := by
  unfold work
  cases place : e.stage with
  | reportingFailure room cause handled => rfl
  | settling room handled => rfl
  | _ => rw [place] at owes; cases owes

/-- A worker that owes a wait begins it, or finds the transport gone. -/
theorem Punctual.begins (punctual : Punctual e) (owes : e.stage.owesWait = true)
    (isOpen : Transport.isOpen e.transport = true) (step : Step arrives e e') :
    e'.stage.owesWait = true ∨ ∃ delay room full, e'.stage = .backingOff delay room full ∧
      delay.toNat = e.settings.delay (failuresIn e.trace) := by
  have onTime := punctual.onTime
  rcases step.cases with worker | call | ⟨transport, -, rfl⟩
  · cases worker
    case reportFailure room cause handled place =>
      rw [place] at owes
      exact .inl owes
    case settleFailed room handled place running failed _ =>
      rw [place] at onTime
      have counted : failuresIn e.trace = e.failures + 1 := by
        rw [onTime.1, if_pos failed]
      exact .inr ⟨_, _, _, rfl, by rw [counted, Settings.toNat_backoff]⟩
    -- the transport is not gone, so no loss is found
    case settleLost lost => rw [isOpen] at lost; cases lost
    all_goals
      have place := ‹e.stage = _›
      rw [place] at owes
      simp_all [Stage.owesWait]
  · exact .inl (call.same_worker.stage ▸ owes)
  · exact .inl owes

/-- Nothing but shutdown ends a wait before its time. -/
theorem Step.lasts {delay : UInt64} {room : Nat} {full : Bool}
    (place : e.stage = .backingOff delay room full) (step : Step arrives e e') :
    e'.stage = e.stage ∨ e'.stage = .closing ∨ e'.trace = .waited delay :: e.trace := by
  rcases step.cases with worker | call | ⟨transport, -, rfl⟩
  · cases worker
    case backoffCut => exact .inr (.inl rfl)
    all_goals
      have here := ‹e.stage = _›
      rw [place] at here
      cases here
      try exact .inr (.inr rfl)
  · exact .inl call.same_worker.stage
  · exact .inl rfl

/-- Whatever the reads come to, the worker waits after each failed one for as long as it should, and
never otherwise. -/
theorem backoff_applied (reachable : Reachable arrives e) : BacksOff arrives e := by
  have punctual := reachable.punctual
  obtain ⟨valid, timed, onTime⟩ := reachable.punctual
  constructor
  case computed =>
    exact fun failures =>
      ⟨e.settings.toNat_backoff failures, e.settings.backoff_of_counted failures⟩
  case before_read =>
    intro newer room older history
    -- the history was on time at the moment when the read was issued
    rw [history] at timed
    have due : waitsSince older = e.settings.due (failuresIn older) := timed.of_append.1
    rw [due, Settings.due]
    split
    · rfl
    · rw [List.map_singleton, Settings.toNat_backoff]
  case waited =>
    intro newer delay older history
    rw [history] at timed
    obtain ⟨some, none, rfl⟩ := timed.of_append.1
    exact ⟨some, none, e.settings.toNat_backoff _⟩
  case owes =>
    exact fun e' room cause place stepped running =>
      (WorkerStep.of_work stepped).owesWait place running
  case begins =>
    exact fun owes isOpen =>
      ⟨work_isSome_of_owesWait owes, fun e' step => punctual.begins owes isOpen step⟩
  case lasts =>
    intro delay room full place
    rw [place] at onTime
    obtain ⟨counted, -, -, rfl⟩ := onTime
    refine ⟨by rw [counted, Settings.toNat_backoff], ?_, fun e' step => step.lasts place⟩
    show e.wakeFromBackoff.isSome
    rw [wakeFromBackoff, place]
    rfl
  case ascending => exact timed.ascending
  case within =>
    intro delay among
    obtain ⟨failures, -, rfl⟩ := timed.of_mem_waitsInRow among
    exact ⟨Settings.errorBackoffMs_le_backoff valid failures,
      e.settings.backoff_le_maxErrorBackoffMs failures⟩

/-- A failed read, one without bytes, and three failed ones: the waits start over, and then grow
until they are as long as they may be. -/
theorem backoff_applied_of_second_row :
    ∃ start ended : Engine Script,
      spawn { errorBackoffMs := 3, maxErrorBackoffMs := 10 }
        { steps := .failure .timedOut :: .zero :: List.replicate 3 (.failure .timedOut) } none =
          .ok start ∧
      ended = start.run (List.replicate 6 .worker ++ .timer :: List.replicate 9 .worker ++ .timer ::
        List.replicate 5 .worker ++ .timer :: List.replicate 5 .worker ++ .timer ::
        List.replicate 2 .worker) ∧
      failuresIn ended.trace = 3 ∧ waitsInRow ended.trace = [10, 6, 3] ∧
      BacksOff Script.Pushed ended := by
  have started : Reachable Script.Pushed _ :=
    .started { errorBackoffMs := 3, maxErrorBackoffMs := 10 }
      { steps := .failure .timedOut :: .zero :: List.replicate 3 (.failure .timedOut) } none rfl
  have ended := started.steps (steps_run _ (List.replicate 6 .worker ++ .timer ::
    List.replicate 9 .worker ++ .timer :: List.replicate 5 .worker ++ .timer ::
    List.replicate 5 .worker ++ .timer :: List.replicate 2 .worker))
  exact ⟨_, _, rfl, rfl, by decide, by decide, backoff_applied ended⟩

end Engine

end ByteTap
