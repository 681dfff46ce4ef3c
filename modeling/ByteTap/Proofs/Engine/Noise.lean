import ByteTap.Proofs.Engine.Counters
import ByteTap.Proofs.Engine.Hush
import ByteTap.Proofs.Engine.Steady
import Mathlib.Logic.Function.Iterate

/-!
# Noise leaves no mark

An engine whose reads now and then end without bytes, or fail, goes round its loop more often than
one whose reads never do.  Both go the same way if the noise is taken away, and the places between
two reads are taken for the place where the next read is issued.

* `course`: what is left of an engine then;
* `onward`: the one step that is left of it;
* `Steady.course_of_worker`: every step of the worker is that step, or none;
* `onward_of_rests`: where the worker rests, no such step leads on;
* `noise_leaves_no_mark`: so two engines over scripts that differ in noise only come to the same.
-/

namespace ByteTap

/-- The worker goes from one read with room to the next, without having got anything it has not
handled yet. -/
@[simp] def Stage.isBetween (isOpen : Bool) : Stage → Bool
  | completing room (.ok bytes) => room != 0 && bytes.isEmpty
  | completing _ (.error _) => isOpen
  | reportingFailure _ _ handled => handled.running && handled.failed && isOpen
  | settling room handled => handled.running && if handled.failed then isOpen else room != 0
  | arming | backingOff .. => true
  | _ => false

namespace Engine

variable {e e' : Engine Script} {later : List ScriptStep} {room : Nat}

/-! ## Where the worker stands without the noise -/

/-- Where the worker stands if it goes back from what noise led to, and from a pending read, to the
place where it issues the read. -/
def courseStage (e : Engine Script) : Stage :=
  if e.stage.isBetween e.transport.isOpen then
    if e.shared.buffer.isFull then .arming else .issuing e.shared.buffer.spare
  else match e.stage with
    | .reading room => .issuing room
    | stage => stage

/-- The engine without the noise. -/
def course (later : List ScriptStep) (e : Engine Script) : Engine Script :=
  (e.hush later).goto e.courseStage

/-- One step of the engine without the noise. -/
def onward (e : Engine Script) : Engine Script := (e.work.map (course [])).getD e

theorem course_of_hush {heard : Engine Script} (same : heard.hush [] = e.hush later) :
    heard.course [] = e.course later := by
  have stage : (heard.hush []).courseStage = (e.hush later).courseStage := by rw [same]
  change heard.courseStage = e.courseStage at stage
  unfold course
  rw [same, stage]

/-- A step that noise makes. -/
theorem course_of_noise (stage : Stage) (same : e'.hush later = (e.hush later).goto stage)
    (there : (e.goto stage).courseStage = e.courseStage) : e'.course later = e.course later := by
  have stage' : (e'.hush later).courseStage = ((e.hush later).goto stage).courseStage := by
    rw [same]
  change e'.courseStage = (e.goto stage).courseStage at stage'
  unfold course
  rw [same, stage', there]
  rfl

/-- A step that the engine takes without the noise as well. -/
theorem course_of_signal {heard : Engine Script} (stepped : (e.course later).work = some heard)
    (same : heard.hush [] = e'.hush later) : e'.course later = (e.course later).onward := by
  unfold onward
  rw [stepped]
  exact (course_of_hush same).symm

/-! ## Every step is noise, or a step without it -/

section

variable {e x : Engine Script} {polled : Polled Script} {result : Except IoFailure Bytes}

theorem follow_of_ended (ended : polled.result = some result) :
    (x.follow room polled).hush later =
      ({ x with transport := polled.transport }.hush later).goto (.completing room result) := by
  unfold follow
  dsimp only
  rw [ended]
  dsimp only
  rw [hush_goto, hush_noise later _ rfl, hush_noteAll]

theorem follow_of_pending (pending : polled.result = none) :
    (x.follow room polled).hush later =
      ({ x with transport := polled.transport }.hush later).goto (.reading room) := by
  unfold follow
  dsimp only
  rw [pending]
  dsimp only
  rw [hush_goto, hush_noteAll]

/-- Without the noise, the worker issues the read at hand. -/
theorem work_of_issuing (stage : e.courseStage = .issuing room)
    (unpermitted : e.shutdownPermit = false) :
    (e.course later).work = some ((((e.course later).note (.armed room)).note
      (.issued room)).follow room (Transport.startRead (e.transport.hush later) room)) := by
  unfold work
  rw [show (e.course later).stage = .issuing room from stage]
  show some (if e.shutdownPermit then _ else _) = _
  rw [unpermitted]
  rfl

theorem hush_issued (room : Nat) :
    (((e.course later).note (.armed room)).note (.issued room)).hush [] =
      (e.hush later).goto e.courseStage := by
  rw [hush_noise [] _ rfl, hush_noise [] _ rfl]
  unfold course
  rw [hush_goto, hush_hush]

/-- The read at hand is polled. -/
theorem Steady.course_of_follow (steady : Steady e) (inside : e.stage.isLeaving = false)
    (place : e.stage.room? = some room) (stage : e.courseStage = .issuing room)
    (same : x.hush later = e.hush later) (hushed : Script.Hushed e.transport room later polled) :
    (x.follow room polled).course later = e.course later ∨
      (x.follow room polled).course later = (e.course later).onward := by
  have moved {t : Script} (same' : t.hush later = e.transport.hush later) :
      { x with transport := t }.hush later = e.hush later := by
    show { x.hush later with transport := t.hush later } = _
    rw [same, same']
    rfl
  -- A read that is pending or ends as noise leaves the worker between the reads; one that says
  -- something is the next read of the engine without the noise.
  cases hushed with
  | pending waits same' =>
    refine .inl (course_of_noise (.reading room) ?_ stage.symm)
    rw [follow_of_pending waits, moved same']
  | @noise result somewhere ended noise same' =>
    refine .inl (course_of_noise (.completing room result) ?_ ?_)
    · rw [follow_of_ended ended, moved same']
    · -- The room that the read had is still there.
      have spare : e.shared.buffer.spare = room :=
        ((steady.room room place).resolve_left somewhere).symm
      have free : e.shared.buffer.isFull = false :=
        Buffer.not_isFull_of_spare (spare ▸ Nat.pos_iff_ne_zero.2 somewhere)
      have isOpen : (polled.transport.hush later).isOpen = (e.transport.hush later).isOpen := by
        rw [same']
      change polled.transport.isOpen = e.transport.isOpen at isOpen
      rw [isOpen] at noise
      have between' : (Stage.completing room result).isBetween e.transport.isOpen = true := by
        cases result with
        | ok bytes => simpa [isNoise, somewhere] using noise
        | error cause => exact noise
      rw [stage]
      exact (if_pos between').trans (by simp [goto, free, spare])
  | @signal result ended heard same' =>
    obtain ⟨ended', heard'⟩ := Script.startRead_hush (e.transport.hush later) room []
    refine .inr (course_of_signal (work_of_issuing stage (steady.free inside).2.2) ?_)
    rw [follow_of_ended (ended'.trans heard), follow_of_ended ended]
    show goto { hush [] _ with transport := Script.hush [] _ } _ =
      goto { x.hush later with transport := polled.transport.hush later } _
    rw [hush_issued, heard', same', same]
    rfl

/-- At its own place, the engine without the noise is the engine whose noise is hushed. -/
theorem course_of_stage (stage : e.courseStage = e.stage) : e.course later = e.hush later := by
  unfold course
  rw [stage]
  rfl

/-- Where the worker stands at its own place, it takes a step without the noise as well, if it leads
to the same. -/
theorem course_of_own (stage : e.courseStage = e.stage)
    (same : (e.hush later).work.map (hush []) = some (e'.hush later)) :
    e'.course later = (e.course later).onward := by
  obtain ⟨heard, stepped, same⟩ := Option.map_eq_some_iff.1 same
  exact course_of_signal (by rw [course_of_stage stage, stepped]) same

theorem course_of_plain (plain : e.stage.isPlain = true) (stage : e.courseStage = e.stage)
    (stepped : e.work = some e') : e'.course later = (e.course later).onward :=
  course_of_own stage (by rw [hush_work_of_plain later e plain, stepped]; rfl)

/-- Between two reads, the next thing is to issue one if there is room for it. -/
theorem courseStage_of_between (between : e.stage.isBetween e.transport.isOpen = true) :
    e.courseStage = if e.shared.buffer.isFull then .arming else .issuing e.shared.buffer.spare :=
  if_pos between

/-- Elsewhere the worker stands where it stands, if it does not wait for a read. -/
theorem courseStage_of_not_between (elsewhere : e.stage.isBetween e.transport.isOpen = false)
    (away : ∀ room, e.stage ≠ .reading room) : e.courseStage = e.stage := by
  unfold courseStage
  rw [if_neg (Bool.eq_false_iff.1 elsewhere)]
  split
  · next room here => exact absurd here (away room)
  · rfl

/-- Going from one place between the reads to another is no step without the noise. -/
theorem course_of_between (stage : Stage) (between : e.stage.isBetween e.transport.isOpen = true)
    (between' : stage.isBetween e.transport.isOpen = true)
    (same : e'.hush later = (e.hush later).goto stage) : e'.course later = e.course later :=
  course_of_noise stage same
    ((courseStage_of_between between').trans (courseStage_of_between between).symm)

theorem conclude_of_unasked (running : e.shared.phase = .running)
    (unasked : e.stopRequested = false) (room : Nat) (cause : Option IoFailure) :
    e.conclude room cause = e.goto (match cause with
      | some cause => .reportingFailure room cause ⟨true, true, e.shared.buffer.isFull⟩
      | none => .settling room ⟨true, false, e.shared.buffer.isFull⟩) := by
  unfold conclude
  rw [applyStopRequest_of_unasked (by simp [unasked])]
  cases cause <;> simp [running]

/-- Arming a read leads between the reads to the place that stands for all of them, or into the full
buffer's case. -/
theorem Steady.course_of_arm (steady : Steady e) (place : e.stage = .arming) :
    e.arm.course later = e.course later ∨ e.arm.course later = (e.course later).onward := by
  have inside : e.stage.isLeaving = false := by rw [place]; rfl
  obtain ⟨running, unasked, -⟩ := steady.free inside
  have between : e.stage.isBetween e.transport.isOpen = true := by rw [place]; rfl
  have stage := courseStage_of_between between
  cases full : e.shared.buffer.isFull with
  | true =>
    -- the full buffer is seen without the noise as well
    refine .inr (course_of_plain (by rw [place]; rfl) ?_ (by simp [work, place]))
    rw [stage, full, place]
    rfl
  | false =>
    -- there is room, so no full buffer was reported that arming would forget
    have unreported : e.exhaustionReported = false := by
      have stuck := steady.stuck inside
      rw [place] at stuck
      simpa using stuck
    have armed : e.arm = e.goto (.issuing e.shared.buffer.spare) := by
      unfold arm
      rw [applyStopRequest_of_unasked (by simp [unasked])]
      simp [running, full, goto, unreported]
    rw [armed]
    refine .inl (course_of_noise (.issuing e.shared.buffer.spare) rfl ?_)
    rw [stage, full]
    rfl

/-- Without the noise, a failed read that leaves the transport open was not counted. -/
theorem Steady.hush_countFailure (steady : Steady e) (inside : e.stage.isLeaving = false)
    (isOpen : e.transport.isOpen = true) :
    (e.modify fun s =>
      { s with
        isOpen := e.transport.isOpen
        tally := { s.tally with readErrors := s.tally.readErrors + 1 } }).hush later =
      e.hush later := by
  show { e.hush later with
    shared := { (e.hush later).shared with isOpen := e.transport.isOpen } } = _
  rw [isOpen.trans (steady.isOpen inside isOpen).symm]
  rfl

/-- A read that ended as noise is handled without a mark, any other as it is without the noise. -/
theorem Steady.course_of_complete (steady : Steady e) (place : e.stage = .completing room result) :
    (e.complete room result).course later = e.course later ∨
      (e.complete room result).course later = (e.course later).onward := by
  have inside : e.stage.isLeaving = false := by rw [place]; rfl
  obtain ⟨running, unasked, -⟩ := steady.free inside
  cases between : e.stage.isBetween e.transport.isOpen with
  -- what was read is handled on the course as well
  | false =>
    refine .inr (course_of_own (courseStage_of_not_between between (by simp [place])) ?_)
    have stepped : (e.hush later).work = some ((e.hush later).complete room result) := by
      simp only [work, hush_stage, place]
    rw [stepped]
    exact congrArg some (hush_complete later e room result)
  | true =>
    refine .inl ?_
    cases result with
    | error cause =>
      -- a failed read that is noise leaves the transport open
      have isOpen : e.transport.isOpen = true := by rw [place] at between; exact between
      refine course_of_between (.reportingFailure room cause ⟨true, true, e.shared.buffer.isFull⟩)
        between isOpen ?_
      refine (hush_conclude later _ room (some cause)).trans ?_
      refine (congrArg (·.conclude room (some cause))
        (steady.hush_countFailure inside isOpen)).trans ?_
      exact conclude_of_unasked (e := e.hush later) running unasked room (some cause)
    | ok bytes =>
      cases bytes with
      | nil =>
        refine course_of_between (.settling room ⟨true, false, e.shared.buffer.isFull⟩)
          between ?_ ?_
        · rw [place] at between
          simpa using between
        refine (hush_conclude later _ room none).trans ?_
        exact conclude_of_unasked (e := e.hush later) running unasked room none
      | cons b bs =>
        rw [place] at between
        simp at between

/-- Noise is settled without a mark, anything else as it is without the noise. -/
theorem course_of_settleRead {handled : Handled}
    (place : e.stage = .settling room handled) :
    (e.settleRead room handled).course later = e.course later ∨
      (e.settleRead room handled).course later = (e.course later).onward := by
  cases between : e.stage.isBetween e.transport.isOpen with
  | false =>
    refine .inr (course_of_own (courseStage_of_not_between between (by simp [place])) ?_)
    have stepped : (e.hush later).work = some ((e.hush later).settleRead room handled) := by
      simp only [work, hush_stage, place]
    rw [stepped]
    refine congrArg some (hush_settleRead later e room handled ?_)
    rw [place] at between
    obtain ⟨running, failed, full⟩ := handled
    cases running <;> cases failed <;> simp_all
  -- the worker comes back to arming, by way of the backoff if the read failed
  | true =>
    refine .inl ?_
    have between' := between
    rw [place] at between'
    obtain ⟨running, failed, full⟩ := handled
    cases running with
    | false => cases between'
    | true =>
    cases failed with
    | true =>
      have isOpen : Transport.isOpen e.transport = true := between'
      have settled : e.settleRead room ⟨true, true, full⟩ =
          { e with failures := e.failures + 1 }.goto
            (.backingOff (e.settings.backoff (e.failures + 1)) room full) := by
        unfold settleRead
        dsimp only
        rw [isOpen]
        rfl
      rw [settled]
      exact course_of_between (.backingOff (e.settings.backoff (e.failures + 1)) room full)
        between rfl rfl
    | false =>
      have somewhere : room ≠ 0 := by simpa using between'
      have settled : e.settleRead room ⟨true, false, full⟩ =
          { e with failures := 0 }.goto .arming := by
        simp [settleRead, proceed, somewhere, goto]
      rw [settled]
      exact course_of_between .arming between rfl rfl

/-- A turn of the worker is no step without the noise, or the one step of it. -/
theorem Steady.course_of_work (steady : Steady e) (stepped : e.work = some e') :
    e'.course later = e.course later ∨ e'.course later = (e.course later).onward := by
  have plain (plain : e.stage.isPlain = true) (stage : e.courseStage = e.stage) :
      e'.course later = (e.course later).onward := course_of_plain plain stage stepped
  have step := stepped
  unfold work at step
  cases place : e.stage with
  | arming =>
    rw [place] at step
    cases step
    exact steady.course_of_arm place
  | issuing room =>
    rw [place] at step
    cases step
    have inside : e.stage.isLeaving = false := by rw [place]; rfl
    have issued : e.issue room = ((e.note (.armed room)).note (.issued room)).follow room
        (Transport.startRead e.transport room) := by
      show (if e.shutdownPermit then _ else _) = _
      rw [(steady.free inside).2.2]
      rfl
    rw [issued]
    refine steady.course_of_follow inside (by rw [place]; rfl) (by simp [courseStage, place]) ?_
      (Script.hushed_startRead _ _ _)
    rw [hush_noise _ _ rfl, hush_noise _ _ rfl]
  | reading room =>
    rw [place] at step
    have inside : e.stage.isLeaving = false := by rw [place]; rfl
    have looked : e.follow room (Transport.poll e.transport room) = e' := by
      dsimp only [look] at step
      rw [(steady.free inside).2.2] at step
      simp only [Bool.false_eq_true, if_false] at step
      split at step
      · exact Option.some.inj step
      · cases step
    rw [← looked]
    exact steady.course_of_follow inside (by rw [place]; rfl) (by simp [courseStage, place]) rfl
      (Script.hushed_poll _ _ _)
  | completing room result =>
    rw [place] at step
    cases step
    exact steady.course_of_complete place
  -- the report of a failed read is noise itself, and a step only where the transport is lost
  | reportingFailure room cause handled =>
    rw [place] at step
    cases step
    cases between : e.stage.isBetween e.transport.isOpen with
    | false =>
      exact .inr (plain (by rw [place]; rfl) (courseStage_of_not_between between (by simp [place])))
    | true =>
      refine .inl (course_of_between (.settling room handled) between ?_ ?_)
      · rw [place] at between
        simp_all
      · have noise : Event.isNoise (.reported (.readFailed e.label cause)) = true := rfl
        exact congrArg (·.goto (.settling room handled)) (hush_noise later e noise)
  | settling room handled =>
    rw [place] at step
    cases step
    exact course_of_settleRead place
  -- nobody stops the engine, so only time ends the wait
  | backingOff delay room full =>
    rw [place] at step
    have inside : e.stage.isLeaving = false := by rw [place]; rfl
    have waits := leaveOnPermit_eq_none_iff.2 (steady.free inside).2.2
    cases waits.symm.trans step
  | _ => exact .inr (plain (by rw [place]; rfl) (by simp [courseStage, place]))

/-- The end of a wait after a failed read is no step without the noise. -/
theorem Steady.course_of_wake (steady : Steady e) (stepped : e.wakeFromBackoff = some e') :
    e'.course later = e.course later := by
  obtain ⟨delay, room, full, place, rfl⟩ := wakeFromBackoff_eq_some stepped
  have somewhere : room ≠ 0 := steady.failed room (by rw [place]; rfl)
  have rearmed : (e.note (.waited delay)).proceed room full =
      (e.note (.waited delay)).goto .arming := by
    simp [proceed, somewhere]
  have noise : Event.isNoise (.waited delay) = true := rfl
  rw [rearmed]
  exact course_of_between .arming (by rw [place]; rfl) rfl
    (congrArg (·.goto .arming) (hush_noise later e noise))

/-- Neither the worker nor time takes the engine off its course. -/
theorem Steady.course_of_worker {label : Label} (steady : Steady e) (alone : label.byWorker = true)
    (stepped : e.next label = some e') :
    e'.course later = e.course later ∨ e'.course later = (e.course later).onward := by
  cases label with
  | worker => exact steady.course_of_work stepped
  | timer => exact .inl (steady.course_of_wake stepped)
  | _ => cases alone

/-- Where the engine rests, it rests without the noise. -/
theorem onward_of_rests (rests : Rests e) :
    (e.course []).onward = e.course [] := by
  have still (plain : e.stage.isPlain = true) (stage : e.courseStage = e.stage) :
      (e.course []).onward = e.course [] := by
    have still := hush_work_of_plain [] e plain
    rw [show e.work = none from rests.worker, Option.map_none, Option.map_eq_none_iff] at still
    unfold onward
    rw [course_of_stage stage, still]
    rfl
  cases work_eq_none_iff.1 rests.worker with
  -- On the course the read is issued once more; it is pending there too, so that nothing changes.
  | @reading room place unpermitted pending =>
    obtain ⟨waits, same⟩ := Script.startRead_hush (e.transport.hush []) room []
    rw [Script.answer_hush_of_pending pending] at waits same
    have stage : e.courseStage = .issuing room := by simp [courseStage, place]
    have stepped : (e.course []).work = some _ := work_of_issuing stage unpermitted
    have onward : e.course [] = (e.course []).onward := by
      refine course_of_signal stepped ?_
      rw [follow_of_pending waits]
      show goto { hush [] _ with transport := Script.hush [] _ } _ = _
      rw [hush_issued, same, Script.hush_hush, ← place]
      rfl
    exact onward.symm
  | backingOff place unpermitted =>
    have timer := rests.timer
    simp [next, wakeFromBackoff, place] at timer
  | stalled place => exact still (by rw [place]; rfl) (by simp [courseStage, place])
  | suspended place => exact still (by rw [place]; rfl) (by simp [courseStage, place])
  | exited place => exact still (by rw [place]; rfl) (by simp [courseStage, place])

end

/-! ## Runs -/

section

variable {start a b : Engine Script} {pushed pushed' : List ScriptStep}

/-- What is pushed now, or later. -/
theorem course_push (steps : List ScriptStep) :
    (e.mapTransport (Script.push · steps)).course later = e.course (steps ++ later) := by
  have pushed : (e.transport.push steps).hush later = e.transport.hush (steps ++ later) := by
    simp [Script.push, Script.hush]
  exact congrArg (fun transport => goto { e.hush later with transport } e.courseStage) pushed

/-- Without the noise, an engine that is only read from has taken some of the steps that lie before
it; and where they lead depends on the steps of the script that are no noise only. -/
theorem Streamed.course (streamed : Streamed start pushed e) (steady : Steady start)
    (later : List ScriptStep) :
    ∃ n, e.course later = onward^[n] (start.course (pushed ++ later)) := by
  induction streamed generalizing later with
  | start => exact ⟨0, rfl⟩
  | @pushed pushed e steps before ih =>
    obtain ⟨n, along⟩ := ih (steps ++ later)
    exact ⟨n, by rw [course_push, along, List.append_assoc]⟩
  | @turn pushed e e' label before keepsOut stepped ih =>
    obtain ⟨n, along⟩ := ih later
    have now := before.steady steady
    obtain ⟨-, alone | ⟨calls, rfl⟩⟩ := now.turn keepsOut stepped
    · rcases now.course_of_worker alone stepped with same | moved
      · exact ⟨n, same.trans along⟩
      · exact ⟨n + 1, by rw [moved, along, Function.iterate_succ_apply']⟩
    -- a turn of a waiting call leaves all but the calls, which the course forgets
    · exact ⟨n, along⟩

/-- The places that a function does not leave are one place, if it leads to both from another. -/
theorem eq_of_iterate {α : Type} {f : α → α} {origin : α} {n m : Nat}
    (still : f (f^[n] origin) = f^[n] origin) (still' : f (f^[m] origin) = f^[m] origin) :
    f^[n] origin = f^[m] origin := by
  have onward {n m : Nat} (still : f (f^[n] origin) = f^[n] origin) (le : n ≤ m) :
      f^[n] origin = f^[m] origin := by
    obtain ⟨more, rfl⟩ := Nat.exists_eq_add_of_le' le
    rw [Function.iterate_add_apply, Function.iterate_fixed still]
  rcases Nat.le_total n m with le | le
  · exact onward still le
  · exact (onward still' le).symm

theorem course_of_spawn {settings : Settings} {transport : Script} {consumer : Option Consumer}
    {steps steps' : List ScriptStep}
    (spawned : spawn settings { transport with steps } consumer = .ok a)
    (spawned' : spawn settings { transport with steps := steps' } consumer = .ok b)
    (same : essential (steps ++ pushed) = essential (steps' ++ pushed')) :
    a.course pushed = b.course pushed' := by
  obtain ⟨-, -, rfl⟩ := eq_of_spawn spawned
  obtain ⟨-, -, rfl⟩ := eq_of_spawn spawned'
  simp only [course, hush, erase, hushing, Script.hush, same]
  rfl

end

/-! ## What is left is what the consumer and the owner see -/

/-- What the consumer was shown, and what it replied, call by call. -/
def exchanges (e : Engine Script) : List (Bytes × Reply) :=
  (invocations e.trace).reverse.map fun call => (call.shown, call.reply)

/-- The noise shows in no exchange with the consumer. -/
theorem exchanges_hush (e : Engine Script) : (e.hush later).exchanges = e.exchanges := by
  have same (trace : List Event) :
      (invocations (trace.filter (!·.isNoise))).map (fun call => (call.shown, call.reply)) =
        (invocations trace).map fun call => (call.shown, call.reply) := by
    induction trace with
    | nil => rfl
    | cons event older ih =>
      cases event with
      | called number shown reply => exact congrArg ((shown, reply) :: ·) ih
      | reported fault => cases fault <;> exact ih
      | _ => exact ih
  unfold exchanges
  rw [List.map_reverse, List.map_reverse]
  exact congrArg List.reverse (same e.trace)

/-- Without the noise, all reports are left but those of failed reads. -/
theorem faults_hush (e : Engine Script) :
    (e.hush later).faults = e.faults.filter (!·.isReadFailure) := by
  have same (trace : List Event) :
      (trace.filter (!·.isNoise)).filterMap Event.fault? =
        (trace.filterMap Event.fault?).filter (!·.isReadFailure) := by
    induction trace with
    | nil => rfl
    | cons event older ih =>
      cases event with
      | reported fault =>
        cases fault with
        | readFailed => exact ih
        | _ => exact congrArg (_ :: ·) ih
      | _ => exact ih
  unfold faults
  rw [List.filter_reverse]
  exact congrArg List.reverse (same e.trace)

/-- What noise does not affect. -/
structure Unaffected (a b : Engine Script) : Prop where
  /-- The consumer was shown the same, and replied the same, call by call. -/
  exchanges : a.exchanges = b.exchanges
  buffer : a.shared.buffer = b.shared.buffer
  phase : a.shared.phase = b.shared.phase
  isOpen : a.shared.isOpen = b.shared.isOpen
  /-- The counters other than those of the noise. -/
  tally : { a.shared.tally with zeroByteReads := 0, readErrors := 0 } =
    { b.shared.tally with zeroByteReads := 0, readErrors := 0 }
  /-- The reports other than those of failed reads. -/
  reports : a.faults.filter (!·.isReadFailure) = b.faults.filter (!·.isReadFailure)

/-- What noise must leave alone can be read off the course of an engine. -/
theorem unaffected_of_course {a b : Engine Script} (same : a.course [] = b.course []) :
    Unaffected a b := by
  have shared : (a.hush []).shared = (b.hush []).shared := congrArg (·.shared) same
  have trace : (a.hush []).trace = (b.hush []).trace := congrArg (·.trace) same
  have tally : (a.hush []).shared.tally = (b.hush []).shared.tally := by rw [shared]
  refine ⟨?_, congrArg (·.buffer) shared, congrArg (·.phase) shared, congrArg (·.isOpen) shared,
    tally, ?_⟩
  · rw [← exchanges_hush a, ← exchanges_hush b]
    unfold exchanges
    rw [trace]
  · rw [← faults_hush a, ← faults_hush b]
    unfold faults
    rw [trace]

/-- Read noise does not change what the consumer gets.  Two engines with the same settings and the
same consumer are only read from, over scripts that differ in nothing but steps that end a read
without bytes and leave the transport open.  Wherever both are at rest, they differ at most in the
counts and reports of such reads. -/
theorem noise_leaves_no_mark {settings : Settings} {transport : Script} {consumer : Option Consumer}
    {steps steps' pushed pushed' : List ScriptStep} {start start' a b : Engine Script}
    (spawned : spawn settings { transport with steps } consumer = .ok start)
    (spawned' : spawn settings { transport with steps := steps' } consumer = .ok start')
    (streamed : Streamed start pushed a) (streamed' : Streamed start' pushed' b)
    (same : essential (steps ++ pushed) = essential (steps' ++ pushed'))
    (rests : Rests a) (rests' : Rests b) : Unaffected a b := by
  obtain ⟨n, along⟩ := streamed.course (.started spawned) []
  obtain ⟨m, along'⟩ := streamed'.course (.started spawned') []
  have still := onward_of_rests rests
  have still' := onward_of_rests rests'
  rw [List.append_nil] at along along'
  -- both are steps on one course, and both have come to where it ends
  rw [← course_of_spawn spawned spawned' same] at along'
  rw [along] at still
  rw [along'] at still'
  exact unaffected_of_course (along.trans ((eq_of_iterate still still').trans along'.symm))

/-- A consumer that is done with one byte at first, and then with nothing more, so that the buffer
of two fills up and the worker stalls; among the data, an empty chunk, reads of nothing and
failures, or none of these. -/
theorem noise_leaves_no_mark_of_full_buffer :
    ∃ start start' a b : Engine Script,
      spawn { capacity := 2 }
        { steps := [.data [], .data [1, 2], .failure .timedOut, .zero, .data [3], .zero] }
        (some (.amounts [1, 0])) = .ok start ∧
      spawn { capacity := 2 } { steps := [.data [1, 2]] } (some (.amounts [1, 0])) = .ok start' ∧
      a = (start.mapTransport (Script.push · [.failure .timedOut, .data [4]])).run
        (List.replicate 14 .worker ++ [.timer] ++ List.replicate 15 .worker) ∧
      b = (start'.mapTransport (Script.push · [.data [3], .data [4]])).run
        (List.replicate 16 .worker) ∧
      a.stage.isStalled = true ∧ a.exchanges.map Prod.fst = [[1, 2], [2, 3]] ∧
      a.shared.tally.readErrors = 1 ∧ b.shared.tally.readErrors = 0 ∧ Unaffected a b := by
  have noisy (start : Engine Script) : Streamed start [.failure .timedOut, .data [4]] _ :=
    Streamed.run (.pushed [.failure .timedOut, .data [4]] .start)
      (show ∀ label ∈ List.replicate 14 Label.worker ++ [.timer] ++ List.replicate 15 .worker,
        label.keepsOut = true by decide)
  have clean (start : Engine Script) : Streamed start [.data [3], .data [4]] _ :=
    Streamed.run (.pushed [.data [3], .data [4]] .start)
      (show ∀ label ∈ List.replicate 16 Label.worker, label.keepsOut = true by decide)
  exact ⟨_, _, _, _, rfl, rfl, rfl, rfl, rfl, rfl, rfl, rfl,
    @noise_leaves_no_mark { capacity := 2 } {} (some (.amounts [1, 0]))
      [.data [], .data [1, 2], .failure .timedOut, .zero, .data [3], .zero] [.data [1, 2]]
      _ _ _ _ _ _ rfl rfl (noisy _) (clean _) rfl ⟨rfl, rfl⟩ ⟨rfl, rfl⟩⟩

end Engine

end ByteTap
