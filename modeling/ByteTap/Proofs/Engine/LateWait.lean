import ByteTap.Proofs.Engine.Wait

/-!
# Waits that are late

A wait has two ways out.  Each time that it has the lock it looks for a reason to return, and once
its deadline has passed it returns with the next lock that it gets.  One rule orders what it can
find there (`ruled`): data come before shutdown, shutdown before the loss of the transport, and the
deadline is the last of the reasons.

The first way out goes by the rule.  The second knows of data and of the deadline only
(`Waits.leaves`), so that a late wait is told that its time is up although the engine was closed, or
the transport went away, before it had the lock.  `wait_by_rule_iff` says that the two differ in
nothing else.
-/

namespace ByteTap.Engine

variable {τ : Type}

/-- The outcome by the rule of a wait that took the lock first at `first` and has it at `e`. -/
def ruled (first e : Engine τ) : WaitOutcome :=
  if finishedReads first.trace < finishedReads e.trace then .dataReceived
  else if e.shared.phase ≠ .running then .shutdown
  else if e.shared.isOpen = false then .disconnected
  else .timedOut

/-- The deadline of the wait of that position passed before it has the lock. -/
def Late (i : Nat) (e : Engine τ) : Prop := ∃ seen, e.calls[i]? = some (.expired seen)

theorem waitReason_ne_timedOut (s : Shared) (seen : Nat) :
    waitReason s seen ≠ some .timedOut := by
  unfold waitReason
  repeat' split
  all_goals nofun

section

variable [Transport τ] {arrives : τ → τ → Prop} {first e e' : Engine τ} {i : Nat} {timed : Bool}
  {answer : Answer}

/-- Looking for a reason to return is going by the rule, as far as there is one. -/
theorem Waits.ruled_eq (reachable : Reachable arrives first)
    (waits : Waits arrives i timed first e) :
    ruled first e = (waitReason e.shared first.shared.generation).getD .timedOut := by
  unfold ruled waitReason
  rw [if_congr (waits.newer_iff reachable).symm rfl rfl]
  by_cases newer : e.shared.generation = first.shared.generation
  · cases e.shared.phase <;> cases e.shared.isOpen <;> simp [newer]
  · simp [newer]

/-- A wait that returns leaves on one of two ways: with a reason that it found, or late. -/
theorem Waits.leaves (waits : Waits arrives i timed first e)
    (own : e.next (.call i) = some e') (returned : e'.calls[i]? = some (.returned answer)) :
    (¬ Late i e ∧ ∃ outcome, waitReason e.shared first.shared.generation = some outcome ∧
      answer = .outcome outcome) ∨
    (Late i e ∧ answer = .outcome
      (if e.shared.generation ≠ first.shared.generation then .dataReceived else .timedOut)) := by
  obtain ⟨call, place, waited⟩ := waits.waited
  have found (new : Call) (moved : e' = e.place i new) : new = .returned answer := by
    rw [moved] at returned
    exact Option.some.inj ((getElem?_place place new).symm.trans returned)
  obtain ⟨here, same, stepped⟩ := next_call_eq_some own
  obtain rfl : call = here := Option.some.inj (place.symm.trans same)
  rcases waited with ⟨rfl, rfl⟩ | waited
  · refine .inl ⟨?_, waitOn_eq_returned (found _ (next_of_waiting place own))⟩
    rintro ⟨since, late⟩
    cases place.symm.trans late
  cases waited with
  | parked => cases stepped
  | returned answer => cases stepped
  | woken =>
    refine .inl ⟨?_, waitOn_eq_returned (found _ (Option.some.inj stepped).symm)⟩
    rintro ⟨since, late⟩
    cases place.symm.trans late
  | expired due overdue =>
    cases found _ (Option.some.inj stepped).symm
    exact .inr ⟨⟨_, place⟩, by simp⟩

/-- In every interleaving, a wait that returns goes by one rule, unless it is late.  A late wait
still goes by it if it finds data, or nothing at all; if it finds that the engine is stopping or the
transport gone, it says that its time is up. -/
theorem wait_by_rule_iff (reachable : Reachable arrives first)
    (waits : Waits arrives i timed first e) (step : Step arrives e e')
    (returned : e'.calls[i]? = some (.returned answer)) :
    ∃ outcome, answer = .outcome outcome ∧
      (outcome = ruled first e' ↔
        (Late i e → ruled first e' = .dataReceived ∨ ruled first e' = .timedOut)) ∧
      (¬ Late i e → outcome ≠ .timedOut) ∧
      (Late i e → outcome =
        if finishedReads first.trace < finishedReads e'.trace then .dataReceived
        else .timedOut) := by
  have own := waits.own step returned
  obtain ⟨call', moved, -⟩ := waits.turn own
  -- its own turn changes nothing that the rule looks at
  have sameRule : ruled first e' = ruled first e := by rw [moved]; rfl
  have sameTrace : e'.trace = e.trace := by rw [moved]; rfl
  rw [sameRule, sameTrace]
  rcases waits.leaves own returned with ⟨early, outcome, reason, rfl⟩ | ⟨late, rfl⟩
  · have byRule : ruled first e = outcome := by rw [waits.ruled_eq reachable, reason]; rfl
    refine ⟨outcome, rfl, ⟨fun _ late => absurd late early, fun _ => byRule.symm⟩, fun _ => ?_,
      fun late => absurd late early⟩
    rintro rfl
    exact waitReason_ne_timedOut _ _ reason
  · rw [if_congr (waits.newer_iff reachable) rfl rfl]
    refine ⟨_, rfl, ?_, fun early => absurd late early, fun _ => rfl⟩
    unfold ruled
    by_cases newer : finishedReads first.trace < finishedReads e.trace
    · simp [newer]
    · cases e.shared.phase <;> cases e.shared.isOpen <;> simp [newer, late]

end

/-- A wait parks, and its deadline passes; then the engine is closed, and its worker goes. -/
def closedMeanwhile : List Label :=
  [.call 0, .expire 0, .enter .close, .call 1, .call 1, .call 1] ++ List.replicate 12 .worker

/-- The wait gets the lock of a closed engine, and says that its time is up. -/
theorem exists_closedMeanwhile :
    ∃ start first e e' : Engine Script,
      spawn {} {} none = .ok start ∧
      first = start.run [.worker, .worker, .worker, .enter (.wait true)] ∧
      e = first.run closedMeanwhile ∧ e.shared.phase = .closed ∧
      Reachable Script.Pushed first ∧ Waits Script.Pushed 0 true first e ∧
      Step Script.Pushed e e' ∧ Late 0 e ∧
      e'.calls[0]? = some (.returned (.outcome .timedOut)) ∧ ruled first e' = .shutdown := by
  have started : Reachable Script.Pushed _ := .started {} {} none rfl
  refine ⟨_, _, _, _, rfl, rfl, rfl, rfl, started.steps (steps_run _ _),
    .going rfl rfl (steps_run _ _) ?_, .turn (.call 0) rfl, ⟨0, rfl⟩, rfl, rfl⟩
  rintro answer ⟨⟩

/-- What the theorem says of that run. -/
theorem wait_by_rule_iff_of_closed_meanwhile :
    ∃ first e e' : Engine Script, Late 0 e ∧ e.shared.phase = .closed ∧
      ∃ outcome, Answer.outcome .timedOut = .outcome outcome ∧
        (outcome = ruled first e' ↔
          (Late 0 e → ruled first e' = .dataReceived ∨ ruled first e' = .timedOut)) ∧
        (¬ Late 0 e → outcome ≠ .timedOut) ∧
        (Late 0 e → outcome =
          if finishedReads first.trace < finishedReads e'.trace then .dataReceived
          else .timedOut) := by
  obtain ⟨_, first, e, e', -, -, -, closed, reachable, waits, step, late, returned, -⟩ :=
    exists_closedMeanwhile
  exact ⟨first, e, e', late, closed, wait_by_rule_iff reachable waits step returned⟩

/-- The rule is not kept where the engine is closed before the wait has the lock. -/
theorem late_wait_breaks_rule :
    ¬ ∀ (first e e' : Engine Script) (i : Nat) (timed : Bool) (outcome : WaitOutcome),
      Reachable Script.Pushed first → Waits Script.Pushed i timed first e →
      Step Script.Pushed e e' → e'.calls[i]? = some (.returned (.outcome outcome)) →
      outcome = ruled first e' := by
  intro rule
  obtain ⟨_, first, e, e', -, -, -, -, reachable, waits, step, -, returned, shutdown⟩ :=
    exists_closedMeanwhile
  have told := rule first e e' 0 true .timedOut reachable waits step returned
  rw [shutdown] at told
  cases told

end ByteTap.Engine
