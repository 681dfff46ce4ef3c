import Mathlib.Data.List.Induction
import ByteTap.Proofs.Engine.Progress
import ByteTap.Proofs.Engine.Settling

/-!
# Owners who wait until the engine rests

An owner who does something only when nobody has anything to do leaves the threads no choice.  The
call that was made runs while the worker rests, up to the moment when it leaves the worker a permit;
from then on the worker runs alone.

* `Orderly.sole`: at most one thread can move at any time;
* `Paced.eq_of_rest`: so what the owner did decides where such a run comes to rest;
* `Paced.of_passed`: and such a run can be followed from any place on its way;
* `Paced.exists_rest`: whatever the owner did, such a run comes to rest.
-/

namespace ByteTap

/-- What the owner does with an engine that is at rest. -/
inductive Act where
  | consume (count : Nat)
  | reset
  | close
  /-- Steps are added to the script. -/
  | push (steps : List ScriptStep)

/-- The worker waits there for something new, or for nothing. -/
@[simp] def Stage.isOutlet : Stage → Bool
  | reading _ | stalled | suspended | exited => true
  | _ => false

namespace Call

/-- The call has returned. -/
@[simp] def hasReturned : Call → Bool
  | returned _ => true
  | _ => false

/-- The call waits for the worker to be gone. -/
@[simp] def isJoining : Call → Bool
  | joining => true
  | _ => false

/-- The call has not left the worker a permit yet. -/
@[simp] def isUnderWay : Call → Bool
  | consuming _ | resetting | permittingSpace _ | closing | announcingStop | permittingStop => true
  | _ => false

/-- The call has requested shutdown, and has not returned. -/
@[simp] def isStopping : Call → Bool
  | announcingStop | permittingStop | joining => true
  | _ => false

/-- In how many of its own steps a call returns, other than a wait. -/
@[simp] def toReturn : Call → Nat
  | closing => 4
  | announcingStop => 3
  | permittingStop | consuming _ | resetting => 2
  | joining | permittingSpace _ => 1
  | _ => 0

end Call

namespace Engine

variable {start e e' a b : Engine Script} {acts : List Act}

/-- The engine after something was done with it, before anybody has taken a turn. -/
def undertake (e : Engine Script) : Act → Engine Script
  | .consume count => { e with calls := e.calls ++ [.consuming count] }
  | .reset => { e with calls := e.calls ++ [.resetting] }
  | .close => { e with calls := e.calls ++ [.closing] }
  | .push steps => e.mapTransport (·.push steps)

/-- Nobody has anything to do: the worker rests, and every call has returned. -/
structure AtRest (e : Engine Script) : Prop where
  rests : Rests e
  returned : ∀ call ∈ e.calls, call.hasReturned = true

/-- The runs in which the owner does something only when the engine is at rest.  Between, everybody
takes turns in any order. -/
inductive Paced (start : Engine Script) : List Act → Engine Script → Prop
  | start : Paced start [] start
  | turn {acts : List Act} {e e' : Engine Script} (label : Label) (before : Paced start acts e)
      (own : label.byWorker = true ∨ label.byCall = true) (stepped : e.next label = some e') :
      Paced start acts e'
  | act {acts : List Act} {e : Engine Script} (act : Act) (before : Paced start acts e)
      (rest : AtRest e) : Paced start (acts ++ [act]) (e.undertake act)

/-! ## One thread at a time -/

/-- What holds at every moment of a paced run: all calls but the newest have returned, and while
that one is under way the worker rests. -/
structure Orderly (e : Engine Script) : Prop where
  calm : ∀ registration, e.shared.registration = some registration → registration.consumer.Calm
  permit : e.shutdownPermit = true → e.stage.isOutlet = true
  calls : ∀ (i : Nat) (call : Call), e.calls[i]? = some call → call.hasReturned = true ∨
    i + 1 = e.calls.length ∧ (call.isJoining = true ∨ call.isUnderWay = true ∧ Rests e)

/-- None of the calls is parked. -/
theorem Orderly.wake (orderly : Orderly e) {i : Nat} {call : Call}
    (place : e.calls[i]? = some call) : call.wake = call := by
  rcases orderly.calls i call place with returned | ⟨-, joining | ⟨underWay, -⟩⟩
  · cases call <;> first | rfl | cases returned
  · cases call <;> first | rfl | cases joining
  · cases call <;> first | rfl | cases underWay

theorem Orderly.map_wake (orderly : Orderly e) : e.calls.map Call.wake = e.calls := by
  have awake (call : Call) (among : call ∈ e.calls) : call.wake = id call := by
    obtain ⟨i, place⟩ := List.getElem?_of_mem among
    exact orderly.wake place
  rw [List.map_congr_left awake, List.map_id]

/-- What the worker rests on is the same. -/
theorem Rests.of_same (rests : Rests e) (stage : e'.stage = e.stage)
    (transport : e'.transport = e.transport) (permit : e'.shutdownPermit = e.shutdownPermit)
    (space : e'.spacePermit = e.spacePermit) : Rests e' := by
  refine ⟨work_eq_none_iff.2 ?_, ?_⟩
  · cases work_eq_none_iff.1 rests.worker with
    | reading place unpermitted pending =>
      exact .reading (stage.trans place) (permit.trans unpermitted) (by rwa [transport])
    | backingOff place unpermitted =>
      exact .backingOff (stage.trans place) (permit.trans unpermitted)
    | stalled place unpermitted spaceless =>
      exact .stalled (stage.trans place) (permit.trans unpermitted) (space.trans spaceless)
    | suspended place unpermitted =>
      exact .suspended (stage.trans place) (permit.trans unpermitted)
    | exited place => exact .exited (stage.trans place)
  · have timer := rests.timer
    unfold next wakeFromBackoff at timer ⊢
    rw [stage]
    cases place : e.stage with
    | backingOff delay room full => rw [place] at timer; cases timer
    | _ => rfl

/-- The worker rests where it waits for something new, or for nothing. -/
theorem Rests.isOutlet (rests : Rests e) : e.stage.isOutlet = true := by
  cases work_eq_none_iff.1 rests.worker with
  | backingOff place unpermitted =>
    have timer := rests.timer
    simp [next, wakeFromBackoff, place] at timer
  | reading place | stalled place | suspended place | exited place => rw [place]; rfl

theorem Orderly.calls_worker (orderly : Orderly e) (step : WorkerStep e e') :
    e'.calls = e.calls := by
  rcases step.calls_eq with same | woken
  · exact same
  · exact woken.trans orderly.map_wake

/-- A worker that does not rest takes its turns while no call is under way. -/
theorem Orderly.worker (orderly : Orderly e) (step : WorkerStep e e') (busy : ¬ Rests e) :
    Orderly e' := by
  have same := orderly.calls_worker step
  obtain ⟨calm, permit, calls⟩ := orderly
  refine ⟨?_, ?_, ?_⟩
  · intro registration' here
    obtain ⟨registration, before, same⟩ := step.consumer here
    exact same ▸ calm registration before
  · intro permitted
    cases step
    -- A calm consumer does not ask for shutdown, so it leaves no permit.
    case completeHeard heard replied _ =>
      obtain ⟨silent, -⟩ := (calm _ heard).of_reply replied
      simp_all
    case completePanicked heard replied _ =>
      obtain ⟨silent, -⟩ := (calm _ heard).of_reply replied
      simp_all
    all_goals
      have place := ‹e.stage = _›
      rw [place] at permit
      simp_all
  · intro i call place
    rw [same] at place ⊢
    rcases calls i call place with returned | ⟨newest, joining | ⟨-, rests⟩⟩
    · exact .inl returned
    · exact .inr ⟨newest, .inl joining⟩
    · exact absurd rests busy

/-- The newest call moves on, and all others have returned. -/
theorem Orderly.moved {i : Nat} {old new : Call} (orderly : Orderly e)
    (place : e.calls[i]? = some old) (newest : i + 1 = e.calls.length)
    (moves : e'.calls = e.calls.set i new)
    (there : new.hasReturned = true ∨ new.isJoining = true ∨ new.isUnderWay = true ∧ Rests e') :
    ∀ (j : Nat) (call : Call), e'.calls[j]? = some call → call.hasReturned = true ∨
      j + 1 = e'.calls.length ∧ (call.isJoining = true ∨ call.isUnderWay = true ∧ Rests e') := by
  intro j call here
  rw [moves, List.length_set]
  rw [moves] at here
  -- only the call that has moved may not have returned
  by_cases same : i = j
  · subst same
    rw [List.getElem?_set_self (List.getElem?_eq_some_iff.1 place).1] at here
    cases here
    exact there.imp_right fun waits => ⟨newest, waits⟩
  · rw [List.getElem?_set_ne same] at here
    rcases orderly.calls j call here with returned | ⟨newest', -⟩
    · exact .inl returned
    · omega

/-- The newest call goes on while the worker rests. -/
theorem Orderly.call {i : Nat} {call : Call} (orderly : Orderly e)
    (place : e.calls[i]? = some call) (stepped : e.stepCall i call = some e') : Orderly e' := by
  rcases orderly.calls i call place with returned | ⟨newest, waits⟩
  · cases call with
    | returned answer => cases stepped
    | _ => cases returned
  -- only a call that waits for the worker to go finds it with something to do
  have rests (underWay : call.isJoining = false) : Rests e := by
    rcases waits with joining | ⟨-, rests⟩
    · cases underWay.symm.trans joining
    · exact rests
  cases call with
  | joining =>
    dsimp only [stepCall] at stepped
    split at stepped <;> cases stepped
    exact ⟨orderly.calm, orderly.permit, orderly.moved place newest rfl (.inl rfl)⟩
  | closing =>
    dsimp only [stepCall] at stepped
    split at stepped <;> cases stepped
    · exact ⟨orderly.calm, orderly.permit, orderly.moved place newest rfl
        (.inr (.inr ⟨rfl, (rests rfl).of_same rfl rfl rfl rfl⟩))⟩
    · exact ⟨orderly.calm, orderly.permit, orderly.moved place newest rfl (.inr (.inl rfl))⟩
  | announcingStop =>
    cases stepped
    have moves : (e.calls.map Call.wake).set i .permittingStop = e.calls.set i .permittingStop := by
      rw [orderly.map_wake]
    exact ⟨orderly.calm, orderly.permit, orderly.moved place newest moves
      (.inr (.inr ⟨rfl, (rests rfl).of_same rfl rfl rfl rfl⟩))⟩
  | permittingStop =>
    cases stepped
    exact ⟨orderly.calm, fun _ => (rests rfl).isOutlet,
      orderly.moved place newest rfl (.inr (.inl rfl))⟩
  | consuming count =>
    cases stepped
    refine ⟨orderly.calm, orderly.permit, orderly.moved place newest rfl ?_⟩
    split
    · exact .inl rfl
    · exact .inr (.inr ⟨rfl, (rests rfl).of_same rfl rfl rfl rfl⟩)
  | resetting =>
    cases stepped
    exact ⟨orderly.calm, orderly.permit, orderly.moved place newest rfl
      (.inr (.inr ⟨rfl, (rests rfl).of_same rfl rfl rfl rfl⟩))⟩
  | permittingSpace answer =>
    cases stepped
    exact ⟨orderly.calm, orderly.permit, orderly.moved place newest rfl (.inl rfl)⟩
  | _ => simp at waits

/-- A call is made where all others have returned. -/
theorem Orderly.ask {call : Call} (orderly : Orderly e) (rest : AtRest e)
    (asked : e'.calls = e.calls ++ [call]) (underWay : call.isUnderWay = true) (rests : Rests e')
    (registration : e'.shared.registration = e.shared.registration)
    (permit : e'.shutdownPermit = e.shutdownPermit) (stage : e'.stage = e.stage) : Orderly e' := by
  refine ⟨by rw [registration]; exact orderly.calm, by rw [permit, stage]; exact orderly.permit, ?_⟩
  intro i call' place
  rw [asked] at place ⊢
  by_cases old : i < e.calls.length
  · rw [List.getElem?_append_left old] at place
    exact .inl (rest.returned call' (List.mem_of_getElem? place))
  · rw [List.getElem?_append_right (Nat.le_of_not_lt old)] at place
    obtain ⟨inside, here⟩ := List.getElem?_eq_some_iff.1 place
    have first : i - e.calls.length = 0 := by simpa using inside
    obtain rfl : call = call' := by simpa [first] using here
    refine .inr ⟨?_, .inr ⟨underWay, rests⟩⟩
    rw [List.length_append, List.length_singleton]
    omega

/-- What the owner does at rest is one call, or steps for the script. -/
theorem Orderly.undertake (orderly : Orderly e) (rest : AtRest e) (act : Act) :
    Orderly (e.undertake act) := by
  cases act with
  | consume count =>
    exact orderly.ask rest rfl rfl (rest.rests.of_same rfl rfl rfl rfl) rfl rfl rfl
  | reset => exact orderly.ask rest rfl rfl (rest.rests.of_same rfl rfl rfl rfl) rfl rfl rfl
  | close => exact orderly.ask rest rfl rfl (rest.rests.of_same rfl rfl rfl rfl) rfl rfl rfl
  | push steps =>
    exact ⟨orderly.calm, orderly.permit,
      fun i call place => .inl (rest.returned call (List.mem_of_getElem? place))⟩

/-- Whose turn it can be: the worker's, while it has a step; that of time, while the worker waits
after a failed read; and that of the newest call, while the worker rests. -/
theorem Orderly.sole {label : Label} (orderly : Orderly e)
    (own : label.byWorker = true ∨ label.byCall = true) (stepped : e.next label = some e') :
    e' = e ∨ label = .worker ∧ e.next .worker ≠ none ∨
      label = .timer ∧ e.next .worker = none ∧ e.next .timer ≠ none ∨
      label = .call (e.calls.length - 1) ∧ Rests e ∧
        ∃ call ∈ e.calls, call.hasReturned = false := by
  cases label with
  | worker => exact .inr (.inl ⟨rfl, by rw [stepped]; exact Option.some_ne_none _⟩)
  | timer =>
    refine .inr (.inr (.inl ⟨rfl, ?_, by rw [stepped]; exact Option.some_ne_none _⟩))
    obtain ⟨delay, room, full, place, -⟩ := wakeFromBackoff_eq_some stepped
    -- a permit would have to be there, and there is none while the worker waits
    refine work_eq_none_iff.2 (.backingOff place ?_)
    cases permit : e.shutdownPermit with
    | false => rfl
    | true =>
      have outlet := orderly.permit permit
      rw [place] at outlet
      cases outlet
  | enter request => rcases own with own | own <;> cases own
  | call i =>
    obtain ⟨call, place, stepped⟩ := next_call_eq_some stepped
    have among := List.mem_of_getElem? place
    rcases orderly.calls i call place with returned | ⟨newest, waits⟩
    · cases call with
      | returned answer => cases stepped
      | _ => cases returned
    refine .inr (.inr (.inr ⟨by rw [← newest]; rfl, ?_, call, among, ?_⟩))
    · rcases waits with joining | ⟨-, rests⟩
      · cases call with
        | joining =>
          dsimp only [stepCall] at stepped
          split at stepped <;> cases stepped
          next gone =>
            refine ⟨work_eq_none_iff.2 (.exited gone), ?_⟩
            simp [next, wakeFromBackoff, gone]
        | _ => cases joining
      · exact rests
    · cases call <;> simp_all
  | expire i =>
    obtain ⟨seen, place, -⟩ := next_expire_eq_some stepped
    cases orderly.wake place
  | stir i =>
    obtain ⟨call, place, stepped⟩ := Option.bind_eq_some_iff.1 stepped
    cases stepped
    obtain ⟨inside, here⟩ := List.getElem?_eq_some_iff.1 place
    have same : e.calls.set i call.wake = e.calls := by
      rw [orderly.wake place, ← here, List.set_getElem_self]
    exact .inl (congrArg ({ e with calls := · }) same)

/-! ## Where a run comes to rest -/

/-- Somebody takes a turn that changes the engine. -/
def Moves (e e' : Engine Script) : Prop :=
  Orderly e ∧ e' ≠ e ∧ ∃ label : Label,
    (label.byWorker = true ∨ label.byCall = true) ∧ e.next label = some e'

/-- In an orderly engine there is one way on. -/
theorem Moves.rightUnique : Relator.RightUnique Moves := by
  rintro e a b ⟨orderly, other, label, own, stepped⟩ ⟨-, other', label', own', stepped'⟩
  have same : label = label' → a = b := by
    rintro rfl
    exact Option.some.inj (stepped.symm.trans stepped')
  rcases orderly.sole own stepped with stays | ⟨rfl, busy⟩ | ⟨rfl, waits, due⟩ | ⟨rfl, rests, -⟩
  · exact absurd stays other
  all_goals
    rcases orderly.sole own' stepped' with
      stays | ⟨rfl, busy'⟩ | ⟨rfl, waits', due'⟩ | ⟨rfl, rests', -⟩
    · exact absurd stays other'
  -- of two different threads, one has no turn
  · exact same rfl
  · exact absurd waits' busy
  · exact absurd rests'.worker busy
  · exact absurd waits busy'
  · exact same rfl
  · exact absurd rests'.timer due
  · exact absurd rests.worker busy'
  · exact absurd rests.timer due'
  · exact same rfl

/-- Nobody moves an engine that is at rest. -/
theorem AtRest.still (rest : AtRest e) : ¬ Moves e e' := by
  rintro ⟨orderly, other, label, own, stepped⟩
  rcases orderly.sole own stepped with
    stays | ⟨rfl, busy⟩ | ⟨rfl, -, due⟩ | ⟨rfl, -, call, among, open'⟩
  · exact other stays
  · exact busy rest.rests.worker
  · exact due rest.rests.timer
  · cases (rest.returned call among).symm.trans open'

theorem Orderly.next {label : Label} (orderly : Orderly e)
    (own : label.byWorker = true ∨ label.byCall = true) (stepped : e.next label = some e') :
    Orderly e' := by
  rcases orderly.sole own stepped with rfl | ⟨rfl, busy⟩ | ⟨rfl, -, due⟩ | ⟨rfl, -⟩
  · exact orderly
  · exact orderly.worker (.of_work stepped) fun rests => busy rests.worker
  · exact orderly.worker (.of_wakeFromBackoff stepped) fun rests => due rests.timer
  · obtain ⟨call, place, stepped⟩ := next_call_eq_some stepped
    exact orderly.call place stepped

theorem Paced.orderly (paced : Paced start acts e) (orderly : Orderly start) : Orderly e := by
  induction paced with
  | start => exact orderly
  | turn label _ own stepped ih => exact ih.next own stepped
  | act act _ rest ih => exact ih.undertake rest act

/-- A run moves on from its start, or from its last act. -/
theorem Paced.since (paced : Paced start acts e) (orderly : Orderly start) :
    ∃ since, Relation.ReflTransGen Moves since e ∧
      (acts = [] ∧ since = start ∨ ∃ earlier act rest, acts = earlier ++ [act] ∧
        Paced start earlier rest ∧ AtRest rest ∧ since = rest.undertake act) := by
  induction paced with
  | start => exact ⟨start, .refl, .inl ⟨rfl, rfl⟩⟩
  | @turn acts e e' label before own stepped ih =>
    obtain ⟨since, moved, origin⟩ := ih
    by_cases stays : e' = e
    · exact ⟨since, stays ▸ moved, origin⟩
    · exact ⟨since, moved.tail ⟨before.orderly orderly, stays, label, own, stepped⟩, origin⟩
  | @act acts e act before rest ih =>
    exact ⟨e.undertake act, .refl, .inr ⟨acts, act, e, rfl, before, rest, rfl⟩⟩

theorem Paced.since_start (paced : Paced start [] e) (orderly : Orderly start) :
    Relation.ReflTransGen Moves start e := by
  obtain ⟨since, moved, ⟨-, rfl⟩ | ⟨earlier, act, rest, acts, -⟩⟩ := paced.since orderly
  · exact moved
  · simp at acts

/-- After an act, a run moves on from the rest at which the owner acted. -/
theorem Paced.since_act {act : Act} (paced : Paced start (acts ++ [act]) e)
    (orderly : Orderly start) :
    ∃ rest, Paced start acts rest ∧ AtRest rest ∧
      Relation.ReflTransGen Moves (rest.undertake act) e := by
  obtain ⟨since, moved, ⟨acts, -⟩ | ⟨earlier, act', rest, same, before, still, rfl⟩⟩ :=
    paced.since orderly
  · simp at acts
  · obtain ⟨rfl, last⟩ := List.append_inj' same rfl
    obtain rfl : act = act' := List.singleton_inj.1 last
    exact ⟨rest, before, still, moved⟩

/-- From one moment there is one way to come to rest. -/
theorem AtRest.eq_of_moves {since : Engine Script} (rest : AtRest a) (rest' : AtRest b)
    (moved : Relation.ReflTransGen Moves since a) (moved' : Relation.ReflTransGen Moves since b) :
    a = b := by
  rcases Relation.ReflTransGen.total_of_right_unique Moves.rightUnique moved moved' with on | on
  · rcases on.cases_head with same | ⟨next, move, -⟩
    · exact same
    · exact absurd move rest.still
  · rcases on.cases_head with same | ⟨next, move, -⟩
    · exact same.symm
    · exact absurd move rest'.still

/-- The acts decide where a paced run comes to rest. -/
theorem Paced.eq_of_rest (orderly : Orderly start) (paced : Paced start acts a) (rest : AtRest a)
    (paced' : Paced start acts b) (rest' : AtRest b) : a = b := by
  induction acts using List.reverseRecOn generalizing a b with
  | nil => exact rest.eq_of_moves rest' (paced.since_start orderly) (paced'.since_start orderly)
  | append_singleton earlier act ih =>
    obtain ⟨resting, before, still, moved⟩ := paced.since_act orderly
    obtain ⟨resting', before', still', moved'⟩ := paced'.since_act orderly
    obtain rfl : resting = resting' := ih before still before' still'
    exact rest.eq_of_moves rest' moved moved'

theorem Paced.moves (paced : Paced start acts e) (moved : Relation.ReflTransGen Moves e e') :
    Paced start acts e' := by
  induction moved with
  | refl => exact paced
  | tail _ move ih =>
    obtain ⟨-, -, label, own, stepped⟩ := move
    exact ih.turn label own stepped

/-- A run that comes to rest can be followed from any place that is passed before the first act. -/
theorem Paced.of_passed {middle : Engine Script} (orderly : Orderly start)
    (passed : Paced start [] middle) (paced : Paced start acts e) (rest : AtRest e) :
    Paced middle acts e := by
  induction acts using List.reverseRecOn generalizing e with
  | nil =>
    rcases Relation.ReflTransGen.total_of_right_unique Moves.rightUnique
      (passed.since_start orderly) (paced.since_start orderly) with on | on
    · exact Paced.start.moves on
    · rcases on.cases_head with same | ⟨next, move, -⟩
      · exact same ▸ .start
      · exact absurd move rest.still
  | append_singleton earlier act ih =>
    obtain ⟨resting, before, still, moved⟩ := paced.since_act orderly
    -- the part up to the last act is followed first, and what comes after it is the same
    exact ((ih before still).act act still).moves moved

/-! ## Every act comes to rest -/

/-- Whoever has requested shutdown had done so before, found it requested, or has just done it. -/
theorem CallMove.isStopping_before {call call' : Call} (move : CallMove e e' call call')
    (stopping : call'.isStopping = true) :
    call.isStopping = true ∨ e.shared.phase ≠ .running ∨ e'.shared.phase = .stopping := by
  cases move
  case requestStop running stopped => exact .inr (.inr stopped)
  case closeAgain stopped => exact .inr (.inl stopped)
  case wake => cases call <;> first | exact .inl rfl | cases stopping
  case beginWait => unfold waitOn at stopping; split at stopping <;> cases stopping
  case resumeWait => unfold waitOn at stopping; split at stopping <;> cases stopping
  all_goals first | exact .inl stopping | exact .inl rfl

/-- While a call waits for the worker to be gone, shutdown has been requested. -/
theorem Reachable.stopped {i : Nat} {call : Call} (reachable : Reachable Script.Pushed e)
    (place : e.calls[i]? = some call) (stopping : call.isStopping = true) :
    e.shared.phase ≠ .running := by
  induction reachable generalizing i call with
  | started settings transport consumer spawned =>
    obtain ⟨-, -, registration, registrations, rfl⟩ := spawn_eq_ok spawned
    cases place
  | @step e e' before stepped ih =>
    have stays (stopped : e.shared.phase ≠ .running) : e'.shared.phase ≠ .running :=
      fun running => stopped (Phase.eq_running_of_le (running ▸ stepped.phase_le))
    rcases stepped.origin place with ⟨older, there, move⟩ | ⟨request, rfl⟩
    · rcases move.isStopping_before stopping with earlier | stopped | stopped
      · exact stays (ih there earlier)
      · exact stays stopped
      · rw [stopped]
        rintro ⟨⟩
    · cases request <;> cases stopping

/-- Whoever waits for the worker to be gone finds it gone where it rests. -/
theorem Orderly.gone_of_joining {i : Nat} (orderly : Orderly e)
    (reachable : Reachable Script.Pushed e) (rests : Rests e)
    (place : e.calls[i]? = some .joining) : e.stage = .exited := by
  by_contra alive
  obtain ⟨park, unpermitted⟩ := (work_eq_none_iff.1 rests.worker).parked alive
  have stopped := reachable.stopped place rfl
  have pending := reachable.heeded.pending (.inl stopped) (Stage.isLeaving_of_isPark park)
  rcases pending with permitted | ⟨j, call, there, owes⟩
  · cases unpermitted.symm.trans permitted
  · -- two calls would be under way
    have newest : i + 1 = e.calls.length := by simpa using orderly.calls i _ place
    have newest' : j + 1 = e.calls.length := by
      rcases orderly.calls j call there with returned | ⟨newest, -⟩
      · cases call with
        | returned answer => cases owes
        | _ => cases returned
      · exact newest
    obtain rfl : i = j := by omega
    cases place.symm.trans there
    cases owes

/-- Where the worker rests, the newest call goes on. -/
theorem stepCall_of_rests {i : Nat} {call : Call}
    (waits : call.isJoining = true ∨ call.isUnderWay = true)
    (gone : call.isJoining = true → e.stage = .exited) (woken : e.calls.map Call.wake = e.calls) :
    ∃ e' new, e.stepCall i call = some e' ∧ e'.calls = e.calls.set i new ∧
      new.toReturn < call.toReturn := by
  cases call with
  | closing =>
    by_cases running : e.shared.phase = .running
    · exact ⟨_, .announcingStop, by simp only [stepCall, running]; rfl, rfl, by decide⟩
    · exact ⟨e.place i .joining, .joining, by simp [stepCall, running], rfl, by decide⟩
  | announcingStop => exact ⟨_, .permittingStop, rfl, congrArg (List.set · i _) woken, by decide⟩
  | permittingStop => exact ⟨_, .joining, rfl, rfl, by decide⟩
  | joining =>
    exact ⟨e.place i (.returned .done), .returned .done, by simp [stepCall, gone rfl], rfl,
      by decide⟩
  | consuming count =>
    refine ⟨_, _, rfl, rfl, ?_⟩
    split <;> simp
  | resetting => exact ⟨_, .permittingSpace .done, rfl, rfl, by decide⟩
  | permittingSpace answer => exact ⟨_, .returned answer, rfl, rfl, by simp⟩
  | _ => simp at waits

/-- The worker and time leave the calls of an orderly engine alone. -/
theorem Orderly.alone {schedule : List Label} (orderly : Orderly e)
    (alone : ∀ label ∈ schedule, label.byWorker = true) :
    Orderly (e.run schedule) ∧ (e.run schedule).calls = e.calls := by
  have turn {label : Label} {later next : Engine Script} (byWorker : label.byWorker = true)
      (kept : Orderly later ∧ later.calls = e.calls) (stepped : later.next label = some next) :
      Orderly next ∧ next.calls = e.calls :=
    ⟨kept.1.next (.inl byWorker) stepped,
      (kept.1.calls_worker (.of_byWorker byWorker stepped)).trans kept.2⟩
  exact run_invariant turn alone ⟨orderly, rfl⟩

/-- A schedule of own turns is a paced run. -/
theorem Paced.run {schedule : List Label} (paced : Paced start acts e)
    (own : ∀ label ∈ schedule, label.byWorker = true ∨ label.byCall = true) :
    Paced start acts (e.run schedule) :=
  run_invariant (fun own paced stepped => paced.turn _ own stepped) own paced

/-- A paced run is a run. -/
theorem Paced.reachable (paced : Paced start acts e) (reachable : Reachable Script.Pushed start) :
    Reachable Script.Pushed e := by
  induction paced with
  | start => exact reachable
  | turn label _ own stepped ih => exact ih.step (.turn label stepped)
  | act act _ rest ih =>
    cases act with
    | consume count => exact ih.step (.turn (.enter (.consume count)) rfl)
    | reset => exact ih.step (.turn (.enter .reset) rfl)
    | close => exact ih.step (.turn (.enter .close) rfl)
    | push steps => exact ih.step (.arrival (Script.push · steps) ⟨steps, rfl⟩)

/-- A paced run comes to rest: the worker does, then the newest call goes on, and so forth. -/
theorem Paced.comes_to_rest (orderly : Orderly start) (reachable : Reachable Script.Pushed start)
    (paced : Paced start acts e) : ∃ resting, Paced start acts resting ∧ AtRest resting := by
  obtain ⟨n, left⟩ : ∃ n, ∀ call ∈ e.calls, call.toReturn ≤ n :=
    ⟨4, fun call _ => by cases call <;> simp⟩
  induction n using Nat.strongRecOn generalizing e with
  | ind n ih =>
    obtain ⟨schedule, alone, rests⟩ := (paced.reachable reachable).comes_to_rest
    obtain ⟨orderly', same⟩ := (paced.orderly orderly).alone alone
    have paced' := paced.run fun label among => .inl (alone label among)
    generalize e.run schedule = resting at rests orderly' same paced'
    by_cases returned : ∀ call ∈ resting.calls, call.hasReturned = true
    · exact ⟨resting, paced', rests, returned⟩
    obtain ⟨call, among, unreturned⟩ : ∃ call ∈ resting.calls, ¬ call.hasReturned = true := by
      simpa using returned
    obtain ⟨i, place⟩ := List.getElem?_of_mem among
    obtain ⟨newest, waits⟩ := (orderly'.calls i call place).resolve_left unreturned
    have gone (joining : call.isJoining = true) : resting.stage = .exited := by
      cases call with
      | joining => exact orderly'.gone_of_joining (paced'.reachable reachable) rests place
      | _ => cases joining
    obtain ⟨e', new, stepped, moved, nearer⟩ :=
      stepCall_of_rests (i := i) (waits.imp_right And.left) gone orderly'.map_wake
    have stepped' : resting.next (.call i) = some e' := by simp [Engine.next, place, stepped]
    -- each round brings the newest call nearer to its return
    have fewer : new.toReturn < n := Nat.lt_of_lt_of_le nearer (left call (same ▸ among))
    refine ih new.toReturn fewer (paced'.turn (.call i) (.inr rfl) stepped') ?_
    intro other among'
    obtain ⟨j, there⟩ := List.getElem?_of_mem among'
    rw [moved] at there
    by_cases own : i = j
    · subst own
      rw [List.getElem?_set_self (List.getElem?_eq_some_iff.1 place).1] at there
      exact Nat.le_of_eq (congrArg Call.toReturn (Option.some.inj there)).symm
    · rw [List.getElem?_set_ne own] at there
      rcases orderly'.calls j other there with old | ⟨newest', -⟩
      · cases other with
        | returned answer => exact Nat.zero_le _
        | _ => cases old
      · omega

/-- After any acts a paced run comes to rest. -/
theorem Paced.exists_rest (orderly : Orderly start)
    (reachable : Reachable Script.Pushed start) (acts : List Act) :
    ∃ e, Paced start acts e ∧ AtRest e := by
  induction acts using List.reverseRecOn with
  | nil => exact Paced.start.comes_to_rest orderly reachable
  | append_singleton earlier act ih =>
    obtain ⟨e, paced, rest⟩ := ih
    exact (paced.act act rest).comes_to_rest orderly reachable

end Engine

end ByteTap
