import ByteTap.Proofs.Engine.Lifecycle

/-!
# No shutdown is lost

Only the first caller that closes an engine leaves the worker a permit, and the worker takes it at
whichever park it stands.  Every step of the worker either takes it out of its loop for good or
leaves alone what was requested (`WorkerStep.leaves_or_keeps`).  So a requested shutdown is never
forgotten: the worker is on its way out, or the permit is there, or a caller still owes it
(`Heeded`), and a parked worker waits for nobody else (`no_lost_shutdown`).
-/

namespace ByteTap

/-- The worker is out of its loop, or has decided to leave it. -/
def Stage.isLeaving : Stage → Bool
  | settling _ handled | reportingFailure _ _ handled => !handled.running
  | closing | reportingClose _ | markingShut | unwinding _ | finishing | signallingEnd | exited =>
      true
  | _ => false

theorem Stage.isLeaving_of_isPark {stage : Stage} (park : stage.isPark = true) :
    stage.isLeaving = false := by
  cases stage <;> first | rfl | cases park

theorem Phase.heed_asked_ne_running (phase : Phase) : phase.heed true ≠ running := by
  cases phase <;> decide

namespace Consumer

/-- The consumer neither asks for shutdown nor panics, whatever it is shown. -/
def Calm (c : Consumer) : Prop :=
  ∀ history, (c.reply history).stops = false ∧ (c.reply history).panic = none

theorem calm_ofAmount (amount : Bytes → Nat) : (ofAmount amount).Calm := by
  intro history
  cases history <;> exact ⟨rfl, rfl⟩

theorem calm_observe : observe.Calm := calm_ofAmount _

theorem Calm.of_reply {c : Consumer} {history : List Bytes} {reply : Reply} (calm : c.Calm)
    (replied : c.reply history = reply) : reply.stops = false ∧ reply.panic = none :=
  replied ▸ calm history

end Consumer

namespace Engine

variable {τ : Type} [Transport τ] {arrives : τ → τ → Prop} {e e' : Engine τ}

/-- A caller has requested shutdown and still owes the worker its permit. -/
def OwesStop (e : Engine τ) : Prop :=
  ∃ (i : Nat) (call : Call), e.calls[i]? = some call ∧ call.owesStop = true

omit [Transport τ] in
theorem OwesStop.move (owed : e.OwesStop) (move : CallsMove e e') :
    e'.shutdownPermit = true ∨ e'.OwesStop := by
  obtain ⟨i, call, place, owes⟩ := owed
  obtain ⟨call', place', moved⟩ := move place
  rcases moved.owesStop owes with owes' | permit
  · exact .inr ⟨i, call', place', owes'⟩
  · exact .inl permit

/-- What a step of the worker leaves alone that keeps it in its loop. -/
structure KeepsRequests (e e' : Engine τ) : Prop where
  staying : e.stage.isLeaving = false
  phase : e'.shared.phase = e.shared.phase
  asked : e'.stopRequested = e.stopRequested
  permit : e'.shutdownPermit = e.shutdownPermit

/-- The handling of a read leads out of the loop if shutdown was requested or asked for. -/
theorem heed_leaves_or_keeps (phase : Phase) (asked : Bool) :
    (phase.heed asked == .running) = false ∨ asked = false ∧ phase.heed asked = phase := by
  cases asked with
  | true => exact .inl (by simpa using Phase.heed_asked_ne_running phase)
  | false => exact .inr ⟨rfl, rfl⟩

/-- The worker is out of its loop, or it takes away nothing of what was requested. -/
theorem WorkerStep.leaves_or_keeps (step : WorkerStep e e') :
    e'.stage.isLeaving = true ∨ KeepsRequests e e' := by
  cases step
  case completeFailed place =>
    rcases heed_leaves_or_keeps e.shared.phase e.stopRequested with leaves | ⟨-, kept⟩
    · exact .inl (by simp [Stage.isLeaving, leaves])
    · exact .inr ⟨by rw [place]; rfl, kept, rfl, rfl⟩
  case completeEmpty place =>
    rcases heed_leaves_or_keeps e.shared.phase e.stopRequested with leaves | ⟨-, kept⟩
    · exact .inl (by simp [Stage.isLeaving, leaves])
    · exact .inr ⟨by rw [place]; rfl, kept, rfl, rfl⟩
  case completeUnheard place _ _ =>
    rcases heed_leaves_or_keeps e.shared.phase e.stopRequested with leaves | ⟨-, kept⟩
    · exact .inl (by simp [Stage.isLeaving, leaves])
    · exact .inr ⟨by rw [place]; rfl, kept, rfl, rfl⟩
  case completeHeard reply place _ _ _ _ =>
    rcases heed_leaves_or_keeps e.shared.phase (e.stopRequested || reply.stops) with
      leaves | ⟨unasked, kept⟩
    · exact .inl (by simp [Stage.isLeaving, leaves])
    · have silent : reply.stops = false := (Bool.or_eq_false_iff.1 unasked).2
      exact .inr ⟨by rw [place]; rfl, kept, by simp [silent], by simp [silent]⟩
  case reportFailure handled place =>
    cases running : handled.running with
    | false => exact .inl (by simp [Stage.isLeaving, running])
    | true => exact .inr ⟨by simp [place, Stage.isLeaving, running], rfl, rfl, rfl⟩
  -- The other steps lead out of the loop, or into it from a place where nothing was decided.
  all_goals first
    | exact .inl rfl
    | exact .inr ⟨by simp_all [Stage.isLeaving], rfl, rfl, rfl⟩

/-- While nobody asks for shutdown, the worker stays in its loop. -/
theorem WorkerStep.stays_in_loop (running : e.shared.phase = .running)
    (unasked : e.stopRequested = false) (unpermitted : e.shutdownPermit = false)
    (staying : e.stage.isLeaving = false)
    (calm : ∀ registration, e.shared.registration = some registration → registration.consumer.Calm)
    (step : WorkerStep e e') : e'.stage.isLeaving = false := by
  cases step
  case completeHeard heard replied _ =>
    obtain ⟨silent, -⟩ := (calm _ heard).of_reply replied
    simp [Stage.isLeaving, Phase.heed, unasked, running, silent]
  case completePanicked heard replied panicked =>
    obtain ⟨-, returned⟩ := (calm _ heard).of_reply replied
    cases returned.symm.trans panicked
  all_goals simp_all [Stage.isLeaving, Phase.heed]

/-- A requested shutdown is not forgotten. -/
structure Heeded (e : Engine τ) : Prop where
  asked : e.stopRequested = true → e.stage.isLeaving = true
  requested : e.shared.phase ≠ .running →
    e.stage.isLeaving = true ∨ e.shutdownPermit = true ∨ e.OwesStop

/-- While the worker is in its loop, no consumer has asked for shutdown. -/
theorem Heeded.unasked (heeded : Heeded e) (staying : e.stage.isLeaving = false) :
    e.stopRequested = false := by
  cases asked : e.stopRequested with
  | false => rfl
  | true => cases staying.symm.trans (heeded.asked asked)

/-- The worker leaves its loop, or what was asked of it stays as it was. -/
theorem Heeded.worker (heeded : Heeded e) (step : WorkerStep e e') : Heeded e' := by
  rcases step.leaves_or_keeps with leaving | ⟨staying, phase, asked, permit⟩
  · exact ⟨fun _ => leaving, fun _ => .inl leaving⟩
  · refine ⟨?_, ?_⟩
    · intro asked'
      cases (heeded.unasked staying).symm.trans (asked ▸ asked')
    · intro stopped
      rcases heeded.requested (phase ▸ stopped) with leaving | permitted | owed
      · rw [staying] at leaving
        cases leaving
      · exact .inr (.inl (permit.trans permitted))
      · exact .inr (owed.move step.move)

omit [Transport τ] in
/-- Whoever requests shutdown owes the permit. -/
theorem CallStep.owes_or_keeps (step : CallStep e e') :
    e'.OwesStop ∨ e'.shared.phase = e.shared.phase ∧
      (e.shutdownPermit = true → e'.shutdownPermit = true) := by
  cases step
  case requestStop i place running =>
    have inside : i < e.calls.length := (List.getElem?_eq_some_iff.1 place).1
    exact .inl ⟨i, .announcingStop, List.getElem?_set_self inside, rfl⟩
  case permitStop => exact .inr ⟨rfl, fun _ => rfl⟩
  all_goals exact .inr ⟨rfl, id⟩

omit [Transport τ] in
/-- Whoever requests shutdown leaves the permit or owes it. -/
theorem Heeded.call (heeded : Heeded e) (step : CallStep e e') : Heeded e' := by
  obtain ⟨stage, -, -, asked, -⟩ := step.same_worker
  refine ⟨?_, ?_⟩
  · rw [stage, asked]
    exact heeded.asked
  · intro stopped
    rcases step.owes_or_keeps with owed | ⟨phase, permit⟩
    · exact .inr (.inr owed)
    · rcases heeded.requested (phase ▸ stopped) with leaving | permitted | owed
      · exact .inl (stage ▸ leaving)
      · exact .inr (.inl (permit permitted))
      · exact .inr (owed.move step.move)

theorem Heeded.started {settings : Settings} {transport : τ} {consumer : Option Consumer}
    (spawned : spawn settings transport consumer = .ok e) : Heeded e := by
  obtain ⟨-, -, registration, registrations, rfl⟩ := spawn_eq_ok spawned
  exact ⟨by simp, by simp⟩

theorem Reachable.heeded (reachable : Reachable arrives e) : Heeded e := by
  refine reachable.invariant .started Heeded.worker Heeded.call ?_
  intro e transport heeded _
  exact ⟨heeded.asked, heeded.requested⟩

/-- A caller that owes the worker its permit can go on. -/
theorem next_of_owesStop {i : Nat} {call : Call} (place : e.calls[i]? = some call)
    (owes : call.owesStop = true) : (e.next (.call i)).isSome = true := by
  cases call with
  | announcingStop => simp [next, place, stepCall]
  | permittingStop => simp [next, place, stepCall]
  | _ => cases owes

theorem Idle.parked (idle : Idle e) (alive : e.stage ≠ .exited) :
    e.stage.isPark = true ∧ e.shutdownPermit = false := by
  rcases idle with ⟨place, unpermitted, -⟩ | ⟨place, unpermitted⟩ | ⟨place, unpermitted, -⟩ |
    ⟨place, unpermitted⟩ | place
  · exact ⟨by rw [place]; rfl, unpermitted⟩
  · exact ⟨by rw [place]; rfl, unpermitted⟩
  · exact ⟨by rw [place]; rfl, unpermitted⟩
  · exact ⟨by rw [place]; rfl, unpermitted⟩
  · exact absurd place alive

/-- Once shutdown was requested or asked for, a worker that has not left its loop finds the permit,
or a caller owes it. -/
theorem Heeded.pending (heeded : Heeded e)
    (requested : e.shared.phase ≠ .running ∨ e.stopRequested = true)
    (staying : e.stage.isLeaving = false) : e.shutdownPermit = true ∨ e.OwesStop := by
  rcases requested with stopped | asked
  · rcases heeded.requested stopped with leaving | pending
    · rw [staying] at leaving
      cases leaving
    · exact pending
  · cases (heeded.unasked staying).symm.trans asked

/-- Once shutdown was requested or asked for, a worker that is not gone has a step, or it is parked
and the caller that requested shutdown is about to leave it the permit.  A parked worker never
lacks both the permit and a caller who owes it. -/
theorem no_lost_shutdown (reachable : Reachable arrives e)
    (requested : e.shared.phase ≠ .running ∨ e.stopRequested = true)
    (alive : e.stage ≠ .exited) :
    ((e.next .worker).isSome = true ∨
      e.stage.isPark = true ∧ ∃ (i : Nat) (call : Call), e.calls[i]? = some call ∧
        call.owesStop = true ∧ (e.next (.call i)).isSome = true) ∧
    (e.stage.isPark = true → e.shutdownPermit = true ∨ e.OwesStop) := by
  have pending := reachable.heeded.pending requested
  refine ⟨?_, fun park => pending (Stage.isLeaving_of_isPark park)⟩
  -- A worker without a step is parked and has no permit, so somebody owes it one.
  cases step : e.next .worker with
  | some e' => exact .inl rfl
  | none =>
    obtain ⟨park, unpermitted⟩ := (work_eq_none_iff.1 step).parked alive
    rcases pending (Stage.isLeaving_of_isPark park) with permitted | ⟨i, call, place, owes⟩
    · rw [unpermitted] at permitted
      cases permitted
    · exact .inr ⟨park, i, call, place, owes, next_of_owesStop place owes⟩

/-- The worker waits for a read, and the caller has not yet left it the permit. -/
theorem no_lost_shutdown_of_owed_permit :
    ∃ start parked : Engine Script,
      spawn { capacity := 2 } {} none = .ok start ∧
      parked = start.run [.worker, .worker, .worker, .enter .close, .call 0] ∧
      parked.shared.phase = .stopping ∧ (parked.next .worker).isSome = false ∧
      (parked.shutdownPermit = true ∨ parked.OwesStop) := by
  have started : Reachable (fun _ _ : Script => False) _ := .started { capacity := 2 } {} none rfl
  have parked := started.steps (steps_run _ [.worker, .worker, .worker, .enter .close, .call 0])
  refine ⟨_, _, rfl, rfl, rfl, rfl, (no_lost_shutdown parked (.inl ?_) ?_).2 rfl⟩
  · decide
  · exact fun gone => nomatch (show Stage.reading 2 = .exited from gone)

end Engine

end ByteTap
