import ByteTap.Proofs.Engine.Erasure
import ByteTap.Proofs.Engine.Paced

/-!
# Observers are transparent

A consumer that keeps every byte, and neither asks for shutdown nor panics, leaves no mark on its
engine but the count of its calls.

* `mute`: an engine without its consumer, and without what the history tells of it;
* `mute_next`: every turn comes to the same without the consumer;
* `Paced.mute`, `Paced.of_mute`: so the two engines go the same ways;
* `observer_is_transparent`: so they agree whenever they are at rest.
-/

namespace ByteTap

/-- The event tells of a consumer. -/
def Event.ofConsumer : Event → Bool
  | registered | called .. => true
  | _ => false

/-- The call leaves the registered consumer alone. -/
def Call.keepsConsumer : Call → Bool
  | installing _ | uninstalling => false
  | _ => true

/-- Releasing nothing leaves the buffer as it is, the cells above the line included. -/
@[simp] theorem Buffer.consume_zero (b : Buffer) : b.consume 0 = b := by
  have nothing : b.released 0 = 0 := Nat.zero_min b.occupied
  have cells : b.filled ++ b.cells.drop b.occupied = b.cells := List.take_append_drop _ _
  cases b
  simp only [consume, nothing, List.drop_zero, Nat.sub_zero, Buffer.mk.injEq, and_true, true_and]
  exact cells

@[simp] theorem Buffer.released_zero (b : Buffer) : b.released 0 = 0 := Nat.zero_min b.occupied

namespace Engine

variable {τ : Type}

/-! ## Without the consumer -/

/-- Takes the consumer away, with what the history tells of it. -/
def muting : Eraser τ where
  keeps := (!·.ofConsumer)
  tally t := { t with callbacksInvoked := 0 }
  registration _ := none
  registrations _ := 0

/-- Nothing that the worker does without reading depends on who listens. -/
theorem lawful_muting : (muting : Eraser τ).Lawful :=
  ⟨fun _ => rfl, fun _ _ => rfl, fun _ => rfl⟩

/-- The engine as it would be without its consumer. -/
def mute (e : Engine τ) : Engine τ := e.erase muting

section

variable (e : Engine τ)

theorem mute_note {event : Event} (other : event.ofConsumer = false) :
    (e.note event).mute = e.mute.note event :=
  e.erase_note muting (by simp [muting, other])

theorem mute_stage : e.mute.stage = e.stage := rfl

theorem mute_noteAll (notes : List String) : (e.noteAll notes).mute = e.mute.noteAll notes := by
  have kept : (notes.map Event.noted).reverse.filter (!·.ofConsumer) =
      (notes.map Event.noted).reverse := by
    rw [List.filter_eq_self]
    intro event among
    obtain ⟨text, -, rfl⟩ := List.mem_map.1 (List.mem_reverse.1 among)
    rfl
  simp [mute, erase, muting, noteAll, List.filter_append, kept]

theorem mute_goto (stage : Stage) : (e.goto stage).mute = e.mute.goto stage := rfl

theorem mute_conclude (room : Nat) (cause : Option IoFailure) :
    (e.conclude room cause).mute = e.mute.conclude room cause :=
  e.erase_conclude lawful_muting room cause

theorem mute_follow (room : Nat) (polled : Polled τ) :
    (e.follow room polled).mute = e.mute.follow room polled := by
  unfold follow
  dsimp only
  split
  · rw [mute_goto, mute_note _ rfl, mute_noteAll]
    rfl
  · rw [mute_goto, mute_noteAll]
    rfl

section

variable [Transport τ]

theorem mute_issue (room : Nat) : (e.issue room).mute = e.mute.issue room := by
  show mute (if e.shutdownPermit then _ else _) = if e.shutdownPermit then _ else _
  split
  · rfl
  · rw [mute_follow, mute_note _ rfl, mute_note _ rfl]
    rfl

theorem mute_look (room : Nat) : e.mute.look room = (e.look room).map mute := by
  show (if e.shutdownPermit then _ else _) = Option.map mute (if e.shutdownPermit then _ else _)
  split
  · rfl
  · show (if (Transport.poll e.transport room).result.isSome then _ else _) =
      Option.map mute (if (Transport.poll e.transport room).result.isSome then _ else _)
    split
    · exact congrArg some (mute_follow e room _).symm
    · rfl

theorem mute_settleRead (room : Nat) (handled : Handled) :
    (e.settleRead room handled).mute = e.mute.settleRead room handled := by
  unfold settleRead
  split
  · rfl
  split
  · show mute (if Transport.isOpen e.transport then _ else _) =
      if Transport.isOpen e.transport then _ else _
    split <;> rfl
  · exact erase_proceed muting _ room handled.full

theorem mute_shutTransport : e.shutTransport.mute = e.mute.shutTransport := by
  unfold shutTransport
  dsimp only
  have failure : (Transport.shut e.mute.transport).failure = (Transport.shut e.transport).failure :=
    rfl
  rw [failure]
  cases (Transport.shut e.transport).failure with
  | some cause =>
    show mute (goto (note (noteAll _ _) _) _) = _
    rw [mute_goto, mute_note _ rfl, mute_noteAll]
    rfl
  | none =>
    show mute (goto (note (noteAll _ _) _) _) = _
    rw [mute_goto, mute_note _ rfl, mute_noteAll]
    rfl

/-- The consumer observes, and neither asks for shutdown nor panics. -/
structure Observer (e : Engine τ) : Prop where
  observes : ∀ registration, e.shared.registration = some registration →
    registration.consumer.Observes
  calm : ∀ registration, e.shared.registration = some registration → registration.consumer.Calm

omit [Transport τ] in
/-- What an observer leaves behind is the count of its call. -/
theorem mute_consult (observer : Observer e) :
    ∃ heard, e.consult = (heard, none) ∧ heard.mute = e.mute := by
  cases here : e.shared.registration with
  | none => exact ⟨e, by unfold consult; rw [here], rfl⟩
  | some registration =>
    obtain ⟨reply, replied⟩ : ∃ reply, registration.consumer.reply
        (e.shared.buffer.filled :: registration.history) = reply := ⟨_, rfl⟩
    obtain ⟨silent, returned⟩ := (observer.calm _ here).of_reply replied
    have nothing : reply.amount = 0 := replied ▸ observer.observes _ here _
    refine ⟨_, consult_of_returned here replied returned, ?_⟩
    simp [mute, erase, muting, releaseFront, consulted, modify, nothing, silent, Event.ofConsumer]

/-- A read that has ended is handled in the same way without the observer. -/
theorem mute_complete (observer : Observer e) (room : Nat) (result : Except IoFailure Bytes) :
    (e.complete room result).mute = e.mute.complete room result := by
  match result with
  | .error cause => exact mute_conclude _ room (some cause)
  | .ok [] => exact mute_conclude _ room none
  -- the observer is called under the lock, and leaves nothing behind but the count
  | .ok (b :: bs) =>
    have observer' : Observer (e.receive (b :: bs)) := ⟨observer.observes, observer.calm⟩
    obtain ⟨heard, consulted, same⟩ := mute_consult _ observer'
    have unheard : (e.mute.receive (b :: bs)).consult = (e.mute.receive (b :: bs), none) := rfl
    simp only [complete, consulted, unheard]
    rw [mute_conclude]
    show conclude (announceData heard.mute) room none = _
    rw [same]
    rfl

/-- Every turn of the worker is the same without the observer. -/
theorem mute_work (observer : Observer e) : e.mute.work = e.work.map mute := by
  unfold work
  rw [mute_stage]
  cases e.stage with
  | arming => exact congrArg some (e.erase_arm lawful_muting).symm
  | issuing room => exact congrArg some (e.mute_issue room).symm
  | reading room => exact e.mute_look room
  | completing room result => exact congrArg some (e.mute_complete observer room result).symm
  | settling room handled => exact congrArg some (e.mute_settleRead room handled).symm
  | backingOff => exact e.erase_leaveOnPermit muting
  | suspended => exact e.erase_leaveOnPermit muting
  | closing => exact congrArg some e.mute_shutTransport.symm
  | stalled =>
    show (if e.shutdownPermit then _ else if e.spacePermit then _ else _) =
      Option.map mute (if e.shutdownPermit then _ else if e.spacePermit then _ else _)
    split
    · exact e.erase_leaveOnPermit muting
    · split <;> rfl
  | _ => rfl

omit [Transport τ] in
theorem mute_wakeFromBackoff : e.mute.wakeFromBackoff = e.wakeFromBackoff.map mute := by
  unfold wakeFromBackoff
  rw [mute_stage]
  cases e.stage with
  | backingOff delay room full =>
    show some _ = some (mute _)
    rw [← mute_note _ rfl]
    exact congrArg some (erase_proceed muting _ room full).symm
  | _ => rfl

omit [Transport τ] in
/-- A call that leaves the consumer alone does the same without it. -/
theorem mute_stepCall (i : Nat) {call : Call} (keeps : call.keepsConsumer = true) :
    e.mute.stepCall i call = (e.stepCall i call).map mute := by
  cases call with
  | closing =>
    show (if e.shared.phase == .running then _ else _) =
      Option.map mute (if e.shared.phase == .running then _ else _)
    split <;> rfl
  | joining =>
    unfold stepCall
    rw [mute_stage]
    cases e.stage <;> rfl
  | installing consumer => cases keeps
  | uninstalling => cases keeps
  | _ => rfl

/-- Every call leaves the registered consumer alone. -/
def KeepsConsumer (e : Engine τ) : Prop := ∀ call ∈ e.calls, call.keepsConsumer = true

/-- Every turn is the same without the consumer. -/
theorem mute_next (observer : Observer e) (keeps : KeepsConsumer e) (label : Label) :
    e.mute.next label = (e.next label).map mute := by
  cases label with
  | worker => exact e.mute_work observer
  | timer => exact e.mute_wakeFromBackoff
  | enter request => rfl
  | call i =>
    show e.calls[i]?.bind _ = Option.map mute (e.calls[i]?.bind _)
    cases place : e.calls[i]? with
    | none => rfl
    | some call => exact e.mute_stepCall i (keeps call (List.mem_of_getElem? place))
  | expire i =>
    show e.calls[i]?.bind _ = Option.map mute (e.calls[i]?.bind _)
    cases e.calls[i]? with
    | none => rfl
    | some call =>
      show Option.bind call.expire? _ = Option.map mute (Option.bind call.expire? _)
      cases call.expire? <;> rfl
  | stir i =>
    show e.calls[i]?.bind _ = Option.map mute (e.calls[i]?.bind _)
    cases e.calls[i]? <;> rfl

end

end

/-! ## Runs with an observer -/

/-- A call that leaves the consumer alone does so wherever it moves. -/
theorem CallMove.keepsConsumer {τ : Type} {e e' : Engine τ} {call call' : Call}
    (move : CallMove e e' call call') (keeps : call.keepsConsumer = true) :
    call'.keepsConsumer = true := by
  cases move
  case wake => cases call <;> exact keeps
  case beginWait => unfold waitOn; split <;> rfl
  case resumeWait => unfold waitOn; split <;> rfl
  all_goals first | exact keeps | rfl

section

variable {start e e' a b : Engine Script} {acts : List Act}

/-- What holds at every moment of a run with an observer: it is there to stay, and it has been shown
every read that brought something. -/
structure Followed (e : Engine Script) : Prop where
  observer : Observer e
  keeps : KeepsConsumer e
  registered : e.shared.registration.isSome = true
  heard : e.shared.tally.callbacksInvoked = e.shared.tally.readsCompleted

theorem KeepsConsumer.moves (keeps : KeepsConsumer e) (moves : CallsMove e e')
    (same : e'.calls.length = e.calls.length) : KeepsConsumer e' := by
  intro call' among
  obtain ⟨i, place⟩ := List.getElem?_of_mem among
  have inside : i < e'.calls.length := (List.getElem?_eq_some_iff.1 place).1
  obtain ⟨call, there, move⟩ := moves.origin place (same ▸ inside)
  exact move.keepsConsumer (keeps call (List.mem_of_getElem? there))

theorem KeepsConsumer.undertake (keeps : KeepsConsumer e) (act : Act) :
    KeepsConsumer (e.undertake act) := by
  cases act with
  | push steps => exact keeps
  | _ =>
    intro call among
    rcases List.mem_append.1 among with old | new
    · exact keeps call old
    · rw [List.mem_singleton.1 new]
      rfl

/-- Every read that brings bytes is shown to the observer, which stays registered. -/
theorem Followed.worker (followed : Followed e) (step : WorkerStep e e') : Followed e' := by
  obtain ⟨⟨observes, calm⟩, keeps, registered, heard⟩ := followed
  refine ⟨⟨?_, ?_⟩, keeps.moves step.move step.calls_length, ?_, ?_⟩
  · intro registration' here
    obtain ⟨registration, before, same⟩ := step.consumer here
    exact same ▸ observes registration before
  · intro registration' here
    obtain ⟨registration, before, same⟩ := step.consumer here
    exact same ▸ calm registration before
  · have there := congrArg Option.isSome step.consumer_same
    simp only [Option.isSome_map] at there
    exact there.trans registered
  · cases step
    -- A calm consumer does not panic, so every read with bytes is counted with its call.
    case completePanicked here replied panicked =>
      obtain ⟨-, returned⟩ := (calm _ here).of_reply replied
      cases returned.symm.trans panicked
    all_goals simp_all

/-- No call removes the observer. -/
theorem Followed.call (followed : Followed e) (step : CallStep e e')
    (same : e'.calls.length = e.calls.length) : Followed e' := by
  have keeps := followed.keeps.moves step.move same
  have unasked {i : Nat} {call : Call} (place : e.calls[i]? = some call) :
      call.keepsConsumer = true :=
    followed.keeps call (List.mem_of_getElem? place)
  obtain ⟨⟨observes, calm⟩, -, registered, heard⟩ := followed
  cases step
  case install place => cases unasked place
  case uninstall place => cases unasked place
  all_goals exact ⟨⟨observes, calm⟩, keeps, registered, heard⟩

theorem Followed.next {label : Label} (followed : Followed e)
    (own : label.byWorker = true ∨ label.byCall = true) (stepped : e.next label = some e') :
    Followed e' := by
  rcases own with alone | made
  · exact followed.worker (.of_byWorker alone stepped)
  · obtain ⟨step, same⟩ := CallStep.of_byCall made stepped
    exact followed.call step same

theorem Followed.undertake (followed : Followed e) (act : Act) : Followed (e.undertake act) := by
  obtain ⟨⟨observes, calm⟩, keeps, registered, heard⟩ := followed
  refine ⟨?_, keeps.undertake act, ?_, ?_⟩
  · cases act <;> exact ⟨observes, calm⟩
  · cases act <;> exact registered
  · cases act <;> exact heard

theorem Paced.followed (paced : Paced start acts e) (followed : Followed start) : Followed e := by
  induction paced with
  | start => exact followed
  | turn label _ own stepped ih => exact ih.next own stepped
  | act act _ rest ih => exact ih.undertake act

theorem mute_undertake (act : Act) : (e.undertake act).mute = e.mute.undertake act := by
  cases act <;> rfl

/-- The engine rests with its observer exactly where it rests without. -/
theorem Followed.atRest_mute_iff (followed : Followed e) : AtRest e.mute ↔ AtRest e := by
  have same (label : Label) : e.mute.next label = none ↔ e.next label = none := by
    rw [e.mute_next followed.observer followed.keeps label, Option.map_eq_none_iff]
  constructor
  · rintro ⟨⟨worker, timer⟩, returned⟩
    exact ⟨⟨(same _).1 worker, (same _).1 timer⟩, returned⟩
  · rintro ⟨⟨worker, timer⟩, returned⟩
    exact ⟨⟨(same _).2 worker, (same _).2 timer⟩, returned⟩

/-- Without its observer the engine goes the same way. -/
theorem Paced.mute (followed : Followed start) (paced : Paced start acts e) :
    Paced start.mute acts e.mute := by
  induction paced with
  | start => exact .start
  | @turn acts e e' label before own stepped ih =>
    have now := before.followed followed
    refine ih.turn label own ?_
    rw [e.mute_next now.observer now.keeps label, stepped, Option.map_some]
  | @act acts e act before rest ih =>
    rw [mute_undertake]
    exact ih.act act ((before.followed followed).atRest_mute_iff.2 rest)

/-- Wherever the engine goes without its observer, it goes with it. -/
theorem Paced.of_mute (followed : Followed start) (paced : Paced start.mute acts b) :
    ∃ a, Paced start acts a ∧ a.mute = b := by
  generalize silent : start.mute = origin at paced
  induction paced with
  | start => exact ⟨start, .start, silent⟩
  | turn label _ own stepped ih =>
    obtain ⟨a, before, rfl⟩ := ih
    have now := before.followed followed
    rw [a.mute_next now.observer now.keeps label] at stepped
    -- a turn that the mute engine takes is the mute form of a turn
    obtain ⟨a', stepped, same⟩ := Option.map_eq_some_iff.1 stepped
    exact ⟨a', before.turn label own stepped, same⟩
  | act act _ rest ih =>
    obtain ⟨a, before, rfl⟩ := ih
    have now := before.followed followed
    exact ⟨a.undertake act, before.act act (now.atRest_mute_iff.1 rest), mute_undertake act⟩

end

/-! ## What the consumer leaves no mark on -/

theorem issuedRooms_filter (trace : List Event) :
    issuedRooms (trace.filter (!·.ofConsumer)) = issuedRooms trace := by
  induction trace with
  | nil => rfl
  | cons event older ih => cases event <;> first | exact ih | exact congrArg (_ :: ·) ih

theorem faults_mute {τ : Type} (e : Engine τ) : e.mute.faults = e.faults := by
  have same (trace : List Event) :
      (trace.filter (!·.ofConsumer)).filterMap Event.fault? = trace.filterMap Event.fault? := by
    induction trace with
    | nil => rfl
    | cons event older ih => cases event <;> first | exact ih | exact congrArg (_ :: ·) ih
  exact congrArg List.reverse (same e.trace)

/-- What agrees between an engine with an observer, `a`, and one without a consumer, `b`. -/
structure Transparent (a b : Engine Script) : Prop where
  /-- The reads that were issued, with the room that each had. -/
  reads : issuedRooms a.trace = issuedRooms b.trace
  buffer : a.shared.buffer = b.shared.buffer
  phase : a.shared.phase = b.shared.phase
  isOpen : a.shared.isOpen = b.shared.isOpen
  reports : a.faults = b.faults
  answers : a.answers = b.answers
  tally : { a.shared.tally with callbacksInvoked := 0 } =
    { b.shared.tally with callbacksInvoked := 0 }
  heard : a.shared.tally.callbacksInvoked = a.shared.tally.readsCompleted
  silent : b.shared.tally.callbacksInvoked = 0

/-- An engine with an observer and the same engine without it agree in all that is not the
observer's. -/
theorem Followed.transparent {e : Engine Script} (followed : Followed e) : Transparent e e.mute :=
  ⟨(issuedRooms_filter e.trace).symm, rfl, rfl, rfl, e.faults_mute.symm, rfl, rfl, followed.heard,
    rfl⟩

/-- The consumer was given to the engine when it was started, or registered before any read had
brought something. -/
inductive StartedWith (settings : Settings) (transport : Script) (consumer : Consumer) :
    Engine Script → Prop
  | given {e : Engine Script} (spawned : spawn settings transport (some consumer) = .ok e) :
      StartedWith settings transport consumer e
  | registered {e : Engine Script} (schedule : List Label)
      (spawned : spawn settings transport none = .ok e)
      (alone : ∀ label ∈ schedule, label.byWorker = true)
      (fresh : (e.run schedule).shared.tally.readsCompleted = 0) :
      StartedWith settings transport consumer
        ((e.run schedule).run [.enter (.install consumer), .call 0]).forgetCalls

/-- Without a consumer, nothing has to be taken away. -/
structure Unheard (e : Engine Script) : Prop where
  mute : e.mute = e
  keeps : KeepsConsumer e

theorem Unheard.unregistered {e : Engine Script} (unheard : Unheard e) :
    e.shared.registration = none :=
  (congrArg (·.shared.registration) unheard.mute).symm

theorem Unheard.uncalled {e : Engine Script} (unheard : Unheard e) :
    e.shared.tally.callbacksInvoked = 0 :=
  (congrArg (·.shared.tally.callbacksInvoked) unheard.mute).symm

theorem Unheard.worker {e e' : Engine Script} {label : Label} (unheard : Unheard e)
    (alone : label.byWorker = true) (stepped : e.next label = some e') : Unheard e' := by
  have step := WorkerStep.of_byWorker alone stepped
  have observer : Observer e := by
    constructor <;> rw [unheard.unregistered] <;> rintro registration ⟨⟩
  refine ⟨?_, unheard.keeps.moves step.move step.calls_length⟩
  have silent := e.mute_next observer unheard.keeps label
  rw [unheard.mute, stepped] at silent
  exact (Option.some.inj silent).symm

theorem Unheard.run {e : Engine Script} {schedule : List Label} (unheard : Unheard e)
    (alone : ∀ label ∈ schedule, label.byWorker = true) : Unheard (e.run schedule) :=
  run_invariant (fun byWorker unheard stepped => unheard.worker byWorker stepped) alone unheard

section

variable {settings : Settings} {transport : Script} {consumer : Consumer} {a b : Engine Script}

theorem mute_of_spawn {consumer : Option Consumer}
    (spawned : spawn settings transport consumer = .ok a)
    (silent : spawn settings transport none = .ok b) : a.mute = b := by
  obtain ⟨-, -, rfl⟩ := eq_of_spawn spawned
  obtain ⟨-, -, rfl⟩ := eq_of_spawn silent
  rfl

theorem Orderly.of_spawn (silent : spawn settings transport none = .ok b) : Orderly b := by
  have unregistered := registered_of_spawn silent
  obtain ⟨-, -, registration, registrations, rfl⟩ := spawn_eq_ok silent
  refine ⟨?_, by rintro ⟨⟩, by rintro i call ⟨⟩⟩
  rintro registration' rfl
  cases unregistered

theorem Unheard.of_spawn (silent : spawn settings transport none = .ok b) : Unheard b := by
  refine ⟨mute_of_spawn silent silent, ?_⟩
  obtain ⟨-, -, registration, registrations, rfl⟩ := spawn_eq_ok silent
  rintro call ⟨⟩

/-- What is left of a call that registers a consumer, once it has returned. -/
theorem run_install (uncalled : a.calls = []) :
    (a.run [.enter (.install consumer), .call 0]).forgetCalls =
      (a.register consumer).note .registered := by
  cases a
  cases uncalled
  rfl

/-- How a run with an observer begins, beside the run without. -/
structure Begun (b a : Engine Script) : Prop where
  followed : Followed a
  orderly : Orderly a
  passed : Paced b [] a.mute

/-- Whether the observer was given at the start or registered before the first bytes, the two runs
begin alike. -/
theorem StartedWith.begun (observes : consumer.Observes) (calm : consumer.Calm)
    (started : StartedWith settings transport consumer a)
    (silent : spawn settings transport none = .ok b) : Begun b a := by
  cases started with
  | given spawned =>
    have muted := mute_of_spawn spawned silent
    have registered := registered_of_spawn spawned
    obtain ⟨-, -, registration, registrations, rfl⟩ := spawn_eq_ok spawned
    obtain ⟨registration, rfl, rfl⟩ := Option.map_eq_some_iff.1 registered
    refine ⟨⟨⟨?_, ?_⟩, by rintro call ⟨⟩, rfl, rfl⟩, ⟨?_, by rintro ⟨⟩, by rintro i call ⟨⟩⟩, ?_⟩
    · rintro _ ⟨⟩
      exact observes
    · rintro _ ⟨⟩
      exact calm
    · rintro _ ⟨⟩
      exact calm
    · rw [muted]
      exact .start
  | @registered e schedule spawned alone fresh =>
    obtain rfl : e = b := Except.ok.inj (spawned.symm.trans silent)
    have begins : Paced e [] e := .start
    have passed := begins.run fun label among => .inl (alone label among)
    have unheard := (Unheard.of_spawn silent).run alone
    obtain ⟨orderly, same⟩ := (Orderly.of_spawn silent).alone alone
    -- the worker and time make no call, so the one that registers is the first
    have uncalled : (e.run schedule).calls = [] := by
      obtain ⟨-, -, registration, registrations, rfl⟩ := spawn_eq_ok silent
      exact same
    rw [run_install uncalled]
    generalize e.run schedule = e' at *
    have muted : ((e'.register consumer).note .registered).mute = e' := unheard.mute
    refine ⟨⟨⟨?_, ?_⟩, ?_, rfl, unheard.uncalled.trans fresh.symm⟩, ⟨?_, orderly.permit, ?_⟩, ?_⟩
    · rintro _ ⟨⟩
      exact observes
    · rintro _ ⟨⟩
      exact calm
    · intro call among
      exact unheard.keeps call among
    · rintro _ ⟨⟩
      exact calm
    · intro i call place
      change e'.calls[i]? = some call at place
      rw [uncalled] at place
      cases place
    · rw [muted]
      exact passed

end

/-- The engine comes to rest at `e` after these acts, and nowhere else. -/
structure ComesTo (start : Engine Script) (acts : List Act) (e : Engine Script) : Prop where
  paced : Paced start acts e
  rest : AtRest e
  only : ∀ e', Paced start acts e' → AtRest e' → e' = e

/-- Whatever the configuration and the script, and whatever the owner does whenever the engine is at
rest: at each rest, an engine with an observer and one without a consumer agree.  An observer is a
consumer that keeps every byte, and neither asks for shutdown nor panics. -/
theorem observer_is_transparent {settings : Settings} {transport : Script} {consumer : Consumer}
    {heard silent : Engine Script} (observes : consumer.Observes) (calm : consumer.Calm)
    (started : StartedWith settings transport consumer heard)
    (spawned : spawn settings transport none = .ok silent) (acts : List Act) :
    ∃ a b, ComesTo heard acts a ∧ ComesTo silent acts b ∧ Transparent a b := by
  obtain ⟨followed, orderly, passed⟩ := started.begun observes calm spawned
  have orderly' := Orderly.of_spawn spawned
  obtain ⟨b, paced, rest⟩ := Paced.exists_rest orderly' (.started _ _ _ spawned) acts
  -- The engine with the observer goes where the other one goes, from where the two runs meet.
  obtain ⟨a, paced', rfl⟩ := (Paced.of_passed orderly' passed paced rest).of_mute followed
  have followed' := paced'.followed followed
  have rest' := followed'.atRest_mute_iff.1 rest
  exact ⟨a, a.mute,
    ⟨paced', rest', fun e there still => Paced.eq_of_rest orderly there still paced' rest'⟩,
    ⟨paced, rest, fun e there still => Paced.eq_of_rest orderly' there still paced rest⟩,
    followed'.transparent⟩

/-- An observer that is registered when the first read is about to be issued.  More arrives than
fits, among reads of nothing and failures; the owner makes room twice, and then shuts the engine
down. -/
theorem observer_is_transparent_of_stalls :
    ∃ silent heard : Engine Script,
      spawn { capacity := 2 }
        { steps := [.data [1, 2, 3], .zero, .failure .timedOut, .data [4, 5]] } none = .ok silent ∧
      (silent.run [.worker, .worker]).stage = .issuing 2 ∧
      heard = ((silent.run [.worker, .worker]).run
        [.enter (.install .observe), .call 0]).forgetCalls ∧
      heard.shared.registration.isSome = true ∧
      ∃ a b, ComesTo heard [.consume 1, .push [.zero], .reset, .close] a ∧
        ComesTo silent [.consume 1, .push [.zero], .reset, .close] b ∧ Transparent a b := by
  have started : StartedWith { capacity := 2 }
      { steps := [.data [1, 2, 3], .zero, .failure .timedOut, .data [4, 5]] } .observe _ :=
    .registered [.worker, .worker] rfl (by decide) rfl
  exact ⟨_, _, rfl, rfl, rfl, rfl, observer_is_transparent Consumer.observes_observe
    Consumer.calm_observe started rfl [.consume 1, .push [.zero], .reset, .close]⟩

end Engine

end ByteTap
