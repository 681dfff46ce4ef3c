import ByteTap.Monitor.Run
import ByteTap.Proofs.Engine.Counters
import ByteTap.Proofs.Engine.Loss
import ByteTap.Proofs.Transport.Line

/-!
# The monitor and its engine

The monitor is the only caller of the engine that it starts.  It looks at the clock and waits for
data, again and again, and closes the engine in the end; meanwhile the threads take their turns in
any order, and anything may happen at the far end of the line.

* `Background` is what goes on by itself, `WatchStep` what goes on during the watch;
* `Attended` is every state of such an engine, `Watching` those during the watch, and `Stops` those
  in which the watch ends;
* `Untroubled`, `Drained` and `Undrained` are what every step of an attended engine keeps;
* `Undisturbed` is what every step of the watch keeps: nobody has asked for shutdown.
-/

namespace ByteTap

/-- A caller makes a call. -/
def Label.enters : Label → Bool
  | enter _ => true
  | _ => false

/-- The monitor makes such calls. -/
def Request.byMonitor : Request → Bool
  | close | wait _ => true
  | _ => false

namespace Call

/-- The call is one that the monitor makes. -/
def byMonitor : Call → Bool
  | consuming _ | resetting | permittingSpace _ | installing _ | uninstalling => false
  | _ => true

/-- The call waits for data, or has done so in a running engine. -/
def waitsForData : Call → Bool
  | waiting _ | parked .. | woken .. | expired _ => true
  | returned (.outcome outcome) => outcome != .shutdown
  | _ => false

theorem byMonitor_ofRequest {request : Request} (own : request.byMonitor = true) :
    (ofRequest request).byMonitor = true := by
  cases request <;> first | rfl | cases own

end Call

/-- The worker is about to report that it cannot go on in order. -/
def Stage.isBroken : Stage → Bool
  | unwinding _ | reportingClose _ => true
  | _ => false

/-- A fault that an engine reports whose consumer does not panic and whose transport can be shut. -/
def Fault.isOrdinary (fault : Fault) : Bool :=
  fault.isReadFailure || fault.isExhaustion || fault.isLoss

theorem Fault.length_of_ordinary {faults : List Fault}
    (ordinary : ∀ fault ∈ faults, fault.isOrdinary = true) :
    faults.length = faults.countP isReadFailure + faults.countP isExhaustion +
      faults.countP isLoss := by
  induction faults with
  | nil => rfl
  | cons fault faults ih =>
    have counted := ih fun other among => ordinary other (List.mem_cons_of_mem _ among)
    have first := ordinary fault List.mem_cons_self
    rw [List.length_cons, counted]
    cases fault with
    | readFailed | bufferExhausted | disconnected =>
      simp only [List.countP_cons, isReadFailure, isExhaustion, isLoss]
      simp only [Bool.false_eq_true, if_true, if_false]
      omega
    | _ => cases first

namespace Engine

variable {τ : Type} {e e' : Engine τ} {i : Nat} {call call' : Call}

/-- A call is made. -/
def ask (e : Engine τ) (request : Request) : Engine τ :=
  { e with calls := e.calls ++ [Call.ofRequest request] }

/-- Every call is one that the monitor makes. -/
def CallsByMonitor (e : Engine τ) : Prop :=
  ∀ (i : Nat) (call : Call), e.calls[i]? = some call → call.byMonitor = true

/-- Every call waits for data, or has done so. -/
def CallsWait (e : Engine τ) : Prop :=
  ∀ (i : Nat) (call : Call), e.calls[i]? = some call → call.waitsForData = true

/-- Whoever waits has released nothing. -/
theorem CallsWait.owesSpace_eq_false (waits : CallsWait e) (call : Call) (among : call ∈ e.calls) :
    call.owesSpace = false := by
  obtain ⟨i, place⟩ := List.mem_iff_getElem?.1 among
  have waits := waits i call place
  cases call <;> first | rfl | cases waits

theorem getElem?_ask {request : Request} (place : (e.ask request).calls[i]? = some call) :
    e.calls[i]? = some call ∨ call = Call.ofRequest request := by
  by_cases inside : i < e.calls.length
  · exact .inl ((List.getElem?_append_left inside).symm.trans place)
  · have place : (e.calls ++ [Call.ofRequest request])[i]? = some call := place
    rw [List.getElem?_append_right (Nat.le_of_not_lt inside), List.getElem?_singleton] at place
    split at place
    · exact .inr (Option.some.inj place).symm
    · cases place

theorem getElem?_of_lastAnswer {answer : Answer} (last : e.lastAnswer = some answer) :
    ∃ i : Nat, e.calls[i]? = some (.returned answer) := by
  unfold lastAnswer answers at last
  rw [List.getLast?_map] at last
  cases newest : e.calls.getLast? with
  | none => simp [newest] at last
  | some call =>
    have returned : call.answer? = some answer := by simpa [newest] using last
    have among : call ∈ e.calls := List.mem_of_getLast? newest
    obtain ⟨i, place⟩ := List.mem_iff_getElem?.1 among
    cases call with
    | returned answer' =>
      cases returned
      exact ⟨i, place⟩
    | _ => cases returned

/-- While the engine runs, no wait is told of shutdown. -/
theorem waitReason_ne_shutdown {s : Shared} (running : s.phase = .running) (seen : Nat) :
    waitReason s seen ≠ some .shutdown := by
  unfold waitReason
  rw [running]
  split
  · exact nofun
  · rw [if_neg (by decide)]
    split <;> exact nofun

theorem waitsForData_waitOn {s : Shared} (running : s.phase = .running) (timed : Bool)
    (seen : Nat) : (waitOn s timed seen).waitsForData = true := by
  unfold waitOn
  split
  · next outcome reason =>
    cases outcome with
    | shutdown => exact absurd reason (waitReason_ne_shutdown running seen)
    | _ => rfl
  · rfl

theorem byMonitor_waitOn (s : Shared) (timed : Bool) (seen : Nat) :
    (waitOn s timed seen).byMonitor = true := by
  unfold waitOn
  split <;> rfl

/-! ## The calls of the monitor -/

theorem CallMove.byMonitor (move : CallMove e e' call call') (own : call.byMonitor = true) :
    call'.byMonitor = true := by
  cases move
  case wake => cases call <;> exact own
  case beginWait => exact byMonitor_waitOn _ _ _
  case resumeWait => exact byMonitor_waitOn _ _ _
  all_goals first | exact own | rfl

/-- In a running engine, whoever waits goes on waiting, or has been told something else than
shutdown. -/
theorem CallMove.waitsForData (running : e.shared.phase = .running)
    (move : CallMove e e' call call') (waits : call.waitsForData = true) :
    call'.waitsForData = true := by
  cases move
  case wake => cases call <;> exact waits
  case beginWait => exact waitsForData_waitOn running _ _
  case resumeWait => exact waitsForData_waitOn running _ _
  case endWait => split <;> rfl
  all_goals first | exact waits | rfl | cases waits

/-- Of the monitor's calls only the one to close the engine is done, and the worker is gone then. -/
theorem CallMove.gone_of_done (own : call.byMonitor = true) (move : CallMove e e' call call')
    (answered : call' = .returned .done) : call = .returned .done ∨ e.stage = .exited := by
  cases move
  case stay => exact .inl answered
  case wake => cases call <;> first | exact .inl answered | cases answered
  case join gone => exact .inr gone
  case beginWait => unfold waitOn at answered; split at answered <;> cases answered
  case resumeWait => unfold waitOn at answered; split at answered <;> cases answered
  case endWait => split at answered <;> cases answered
  all_goals first | (cases own; done) | cases answered

/-- The monitor's calls leave alone what lies behind the lock, but for the phase. -/
theorem CallStep.shared_of_byMonitor (own : CallsByMonitor e) (step : CallStep e e') :
    ∃ phase, e'.shared = { e.shared with phase } := by
  cases step
  case consume place => cases own _ _ place
  case reset place => cases own _ _ place
  case install place => cases own _ _ place
  case uninstall place => cases own _ _ place
  all_goals exact ⟨_, rfl⟩

/-- What no wait changes. -/
structure SameRequests (e e' : Engine τ) : Prop where
  shared : e'.shared = e.shared
  shutdownPermit : e'.shutdownPermit = e.shutdownPermit
  spacePermit : e'.spacePermit = e.spacePermit

theorem CallStep.same_of_waits (waits : CallsWait e) (step : CallStep e e') :
    SameRequests e e' := by
  cases step
  case requestStop place _ => cases waits _ _ place
  case permitStop place => cases waits _ _ place
  case consume place => cases waits _ _ place
  case reset place => cases waits _ _ place
  case permitSpace place => cases waits _ _ place
  case install place => cases waits _ _ place
  case uninstall place => cases waits _ _ place
  all_goals exact ⟨rfl, rfl, rfl⟩

theorem CallStep.reports_same (step : CallStep e e') : reports e'.trace = reports e.trace := by
  cases step <;> simp [Event.fault?]

theorem CallStep.returnedIn_same (step : CallStep e e') :
    returnedIn e'.trace = returnedIn e.trace := by
  cases step <;> simp

end Engine

namespace Monitor

open Engine

variable {arrives : Line → Line → Prop} {c : Configuration} {line : Line}
  {deadline : Option Moment} {e e' : Engine Line}

/-! ## Sessions -/

/-- What goes on while the monitor makes no call: a thread takes its turn, or something arrives. -/
inductive Background (arrives : Line → Line → Prop) (e : Engine Line) : Engine Line → Prop
  | turn {e' : Engine Line} (label : Label) (own : label.enters = false)
      (stepped : e.next label = some e') : Background arrives e e'
  | arrival (f : Line → Line) (allowed : arrives e.transport (f e.transport)) :
      Background arrives e (e.mapTransport f)

/-- The engines that the monitor starts on the line and that nobody else calls. -/
inductive Attended (c : Configuration) (line : Line) : Engine Line → Prop
  | started {e : Engine Line} (started : start c line = .ok e) : Attended c line e
  | background {e e' : Engine Line} (before : Attended c line e)
      (step : Background Line.Changed e e') : Attended c line e'
  | asked {e : Engine Line} {request : Request} (before : Attended c line e)
      (own : request.byMonitor = true) : Attended c line (e.ask request)

/-- What the watch is about. -/
inductive Turn where
  /-- It looks at the clock next. -/
  | looking
  /-- It has called the engine and waits for data. -/
  | waiting

/-- One step during the watch. -/
inductive WatchStep (arrives : Line → Line → Prop) (c : Configuration) (deadline : Option Moment) :
    Turn → Engine Line → Turn → Engine Line → Prop
  | background {turn : Turn} {e e' : Engine Line} (step : Background arrives e e') :
      WatchStep arrives c deadline turn e turn e'
  | wait {e : Engine Line} {nanos : Nat} (now : Moment) (timed : Bool)
      (move : Watch.move c.monitor deadline now = .wait nanos) :
      WatchStep arrives c deadline .looking e .waiting (e.ask (.wait timed))
  | again {e : Engine Line} {outcome : WaitOutcome}
      (returned : e.lastAnswer = some (.outcome outcome))
      (onward : Watch.reasonAfter outcome = none) :
      WatchStep arrives c deadline .waiting e .looking e

/-- The engines during the watch. -/
inductive Watching (c : Configuration) (line : Line) (deadline : Option Moment) :
    Turn → Engine Line → Prop
  | started {e : Engine Line} (started : start c line = .ok e) :
      Watching c line deadline .looking e
  | step {turn turn' : Turn} {e e' : Engine Line} (before : Watching c line deadline turn e)
      (step : WatchStep Line.Changed c deadline turn e turn' e') :
      Watching c line deadline turn' e'

/-- The watch ends at the engine for that reason. -/
inductive Stops (c : Configuration) (line : Line) (deadline : Option Moment) :
    StopReason → Engine Line → Prop
  | elapsed {e : Engine Line} {reason : StopReason} (now : Moment)
      (watching : Watching c line deadline .looking e)
      (move : Watch.move c.monitor deadline now = .stop reason) : Stops c line deadline reason e
  | told {e : Engine Line} {outcome : WaitOutcome} {reason : StopReason}
      (watching : Watching c line deadline .waiting e)
      (returned : e.lastAnswer = some (.outcome outcome))
      (ends : Watch.reasonAfter outcome = some reason) : Stops c line deadline reason e

/-- The monitor starts the engine with its own consumer. -/
theorem spawn_of_start (started : start c line = .ok e) :
    spawn c.engine line (drainConsumer c.monitor) = .ok e := by
  unfold start at started
  split at started
  · next spawned =>
    cases started
    exact spawned
  · cases started
  · cases started

/-- How the engine of a run starts. -/
theorem start_eq_ok (started : start c line = .ok e) :
    ∃ registration registrations, e =
      { settings := c.engine
        transport := line
        label := Transport.label line
        shared :=
          { buffer := Buffer.empty c.engine.capacity.toNat, registration
            isOpen := Transport.isOpen line }
        registrations
        trace := [.spawned] } :=
  (spawn_eq_ok (spawn_of_start started)).2.2

theorem Background.step (step : Background arrives e e') : Step arrives e e' := by
  cases step with
  | turn label own stepped => exact .turn label stepped
  | arrival f allowed => exact .arrival f allowed

/-- Nobody makes a call meanwhile. -/
theorem Background.length_same (step : Background arrives e e') :
    e'.calls.length = e.calls.length := by
  cases step with
  | arrival f allowed => rfl
  | turn label own stepped =>
    refine calls_length_of_turn ?_ stepped
    rintro request rfl
    cases own

/-- So every call was there before. -/
theorem Background.origin {i : Nat} {call' : Call} (step : Background arrives e e')
    (place : e'.calls[i]? = some call') :
    ∃ call, e.calls[i]? = some call ∧ CallMove e e' call call' := by
  have inside : i < e'.calls.length := (List.getElem?_eq_some_iff.1 place).1
  exact step.step.move.origin place (step.length_same ▸ inside)

theorem Attended.reachable (attended : Attended c line e) : Reachable Line.Changed e := by
  induction attended with
  | started started => exact .started _ _ _ (spawn_of_start started)
  | background before step ih => exact ih.step step.step
  | @asked e request before own ih => exact ih.step (.turn (.enter request) rfl)

/-- Nobody else ever makes a call. -/
theorem Attended.callsByMonitor (attended : Attended c line e) : CallsByMonitor e := by
  induction attended with
  | started started =>
    obtain ⟨registration, registrations, rfl⟩ := start_eq_ok started
    rintro i call ⟨⟩
  | background before step ih =>
    intro i call' place
    obtain ⟨call, here, move⟩ := step.origin place
    exact move.byMonitor (ih i call here)
  | asked before own ih =>
    intro i call place
    rcases getElem?_ask place with old | rfl
    · exact ih i call old
    · exact Call.byMonitor_ofRequest own

/-- What holds of a started engine and is kept by every step holds of every attended engine. -/
theorem Attended.invariant {Inv : Engine Line → Prop}
    (started : ∀ {e : Engine Line}, start c line = .ok e → Inv e)
    (worker : ∀ {e e' : Engine Line}, Attended c line e → Inv e → WorkerStep e e' → Inv e')
    (call : ∀ {e e' : Engine Line}, CallsByMonitor e → Inv e → CallStep e e' → Inv e')
    (arrival : ∀ {e : Engine Line} {transport : Line}, Inv e →
      Line.Changed e.transport transport → Inv { e with transport })
    (attended : Attended c line e) : Inv e := by
  induction attended with
  | started here => exact started here
  | background before step ih =>
    rcases step.step.cases with step | step | ⟨transport, changed, rfl⟩
    · exact worker before ih step
    · exact call before.callsByMonitor ih step
    · exact arrival ih changed
  | asked before own ih => exact call before.callsByMonitor ih (.enter _)

/-- A call of the monitor is done only once the worker is gone. -/
theorem Attended.gone_of_done (attended : Attended c line e) {i : Nat}
    (place : e.calls[i]? = some (.returned .done)) : e.stage = .exited := by
  induction attended generalizing i with
  | started started =>
    obtain ⟨registration, registrations, rfl⟩ := start_eq_ok started
    cases place
  | @background e e' before step ih =>
    obtain ⟨call, here, move⟩ := step.origin place
    have gone : e.stage = .exited := by
      rcases move.gone_of_done (before.callsByMonitor i call here) rfl with rfl | gone
      -- it was done before
      · exact ih here
      · exact gone
    exact step.step.exited gone
  | @asked e request before own ih =>
    rcases getElem?_ask place with old | new
    · exact ih old
    · cases request <;> cases new

/-! ## What the monitor's engine keeps -/

theorem calm_of_drainConsumer {o : Options} {consumer : Consumer}
    (mine : drainConsumer o = some consumer) : consumer.Calm := by
  unfold drainConsumer at mine
  split at mine
  · cases mine
    exact Consumer.calm_ofAmount _
  · cases mine

/-- The consumer is the monitor's, and nothing out of the ordinary happens. -/
structure Untroubled (c : Configuration) (e : Engine Line) : Prop where
  settings : e.settings = c.engine
  registered : e.shared.registration.map Registration.consumer = drainConsumer c.monitor
  unasked : e.stopRequested = false
  stream : e.transport.isStream = true
  unbroken : e.stage.isBroken = false
  faults : ∀ fault ∈ reports e.trace, fault.isOrdinary = true

theorem Untroubled.calm (untroubled : Untroubled c e) (registration : Registration)
    (heard : e.shared.registration = some registration) : registration.consumer.Calm := by
  have registered := untroubled.registered
  rw [heard] at registered
  exact calm_of_drainConsumer registered.symm

/-- A calm consumer and a stream give the worker no cause for trouble. -/
theorem Untroubled.worker (untroubled : Untroubled c e) (step : WorkerStep e e') :
    Untroubled c e' := by
  have calm := untroubled.calm
  obtain ⟨settings, registered, unasked, stream, unbroken, faults⟩ := untroubled
  have returns {registration : Registration} {history : List Bytes} {reply : Reply}
      {payload : Payload} (heard : e.shared.registration = some registration)
      (replied : registration.consumer.reply history = reply) : reply.panic ≠ some payload := by
    rw [((calm _ heard).of_reply replied).2]
    exact nofun
  have more {fault : Fault} (ordinary : fault.isOrdinary = true) :
      ∀ other ∈ fault :: reports e.trace, other.isOrdinary = true := by
    intro other among
    rcases List.mem_cons.1 among with rfl | among
    · exact ordinary
    · exact faults other among
  refine ⟨step.settings_same.trans settings, step.consumer_same.trans registered, ?_, ?_, ?_, ?_⟩
  -- of the faults that the worker reports only the last two are out of the ordinary
  · cases step
    case completeHeard heard replied _ =>
      simp [unasked, ((calm _ heard).of_reply replied).1]
    case completePanicked heard replied panicked => exact absurd panicked (returns heard replied)
    all_goals exact unasked
  · cases step
    case issueEnded poll _ => subst poll; simpa [Transport.startRead] using stream
    case issuePending poll _ => subst poll; simpa [Transport.startRead] using stream
    case readEnded poll _ => subst poll; simpa using stream
    case shut shut _ => subst shut; simpa using stream
    case shutFailed shut _ => subst shut; simpa using stream
    all_goals simpa using stream
  · cases step
    case completePanicked heard replied panicked => exact absurd panicked (returns heard replied)
    case shutFailed shut failed =>
      subst shut
      cases failed.symm.trans (Line.failure_shut stream)
    all_goals rfl
  · cases step
    case reportDrop => exact more rfl
    case reportFailure => exact more rfl
    case reportFull => exact more rfl
    case reportLoss => exact more rfl
    case reportClose place => rw [place] at unbroken; cases unbroken
    case unwind place => rw [place] at unbroken; cases unbroken
    all_goals simpa [Event.fault?] using faults

/-- The calls of the monitor touch neither the consumer nor the line. -/
theorem Untroubled.call (own : CallsByMonitor e) (untroubled : Untroubled c e)
    (step : CallStep e e') : Untroubled c e' := by
  obtain ⟨settings, registered, unasked, stream, unbroken, faults⟩ := untroubled
  have worker := step.same_worker
  obtain ⟨phase, shared⟩ := step.shared_of_byMonitor own
  refine ⟨worker.settings.trans settings, ?_, worker.stopRequested.trans unasked, ?_, ?_, ?_⟩
  · rw [shared]
    exact registered
  · rw [worker.transport]
    exact stream
  · rw [worker.stage]
    exact unbroken
  · rw [step.reports_same]
    exact faults

theorem Attended.untroubled (stream : line.isStream = true) (attended : Attended c line e) :
    Untroubled c e := by
  refine attended.invariant ?_ (fun _ => Untroubled.worker) Untroubled.call ?_
  · intro e started
    have registered := registered_of_spawn (spawn_of_start started)
    obtain ⟨registration, registrations, rfl⟩ := start_eq_ok started
    exact ⟨rfl, registered, rfl, stream, rfl, nofun⟩
  · intro e transport untroubled changed
    exact ⟨untroubled.settings, untroubled.registered, untroubled.unasked, changed.stream,
      untroubled.unbroken, untroubled.faults⟩

/-! ## A drained engine -/

/-- A monitor that drains has its consumer registered all along. -/
theorem Untroubled.hears_all (untroubled : Untroubled c e) (drain : c.monitor.drain = true) :
    ∃ registration, e.shared.registration = some registration ∧ registration.consumer = .all := by
  have registered := untroubled.registered
  rw [drainConsumer, if_pos drain] at registered
  exact Option.map_eq_some_iff.1 registered

/-- Whatever is received leaves the buffer at once. -/
structure Drained (e : Engine Line) : Prop where
  empty : e.shared.buffer.occupied = 0
  roomy : e.stage.expectsFull = false
  exhaustions : e.shared.tally.exhaustionEvents = 0
  called : e.shared.tally.callbacksInvoked = e.shared.tally.readsCompleted

theorem Drained.not_isFull (drained : Drained e) (sized : Sized e) :
    e.shared.buffer.isFull = false := by
  refine Buffer.not_isFull_of_spare ?_
  show 0 < e.shared.buffer.capacity - e.shared.buffer.occupied
  rw [drained.empty, sized.capacity]
  exact sized.positive

/-- The consumer takes all that it is shown, so the buffer is empty again after every read. -/
theorem Drained.worker (drain : c.monitor.drain = true) (untroubled : Untroubled c e)
    (sized : Sized e) (drained : Drained e) (step : WorkerStep e e') :
    Drained e' := by
  obtain ⟨registration, heard, all⟩ := untroubled.hears_all drain
  have free := drained.not_isFull sized
  obtain ⟨empty, roomy, exhaustions, called⟩ := drained
  cases step
  case completeUnheard place nonempty nobody => cases heard.symm.trans nobody
  case completePanicked heard' replied panicked =>
    cases ((untroubled.calm _ heard').of_reply replied).2.symm.trans panicked
  case completeHeard room bytes other reply place nonempty heard' replied returned =>
    cases heard.symm.trans heard'
    -- the consumer is done with all that it is shown
    have emptied : ((e.shared.buffer.extend bytes).consume reply.amount).occupied = 0 := by
      rw [← replied, all]
      show (e.shared.buffer.extend bytes).occupied -
        min (e.shared.buffer.extend bytes).filled.length (e.shared.buffer.extend bytes).occupied = 0
      rw [Buffer.length_filled]
      omega
    have roomy' : ((e.shared.buffer.extend bytes).consume reply.amount).isFull = false := by
      refine Buffer.not_isFull_of_spare ?_
      show 0 < e.shared.buffer.capacity - _
      rw [emptied, sized.capacity]
      exact sized.positive
    exact ⟨emptied, roomy', exhaustions, congrArg (· + 1) called⟩
  all_goals
    have place := ‹e.stage = _›
    rw [place] at roomy
    constructor <;> simp_all [Stage.expectsFull]

theorem Drained.call (own : CallsByMonitor e) (drained : Drained e) (step : CallStep e e') :
    Drained e' := by
  obtain ⟨empty, roomy, exhaustions, called⟩ := drained
  obtain ⟨phase, shared⟩ := step.shared_of_byMonitor own
  constructor
  · rw [shared]
    exact empty
  · rw [step.same_worker.stage]
    exact roomy
  · rw [shared]
    exact exhaustions
  · rw [shared]
    exact called

theorem Attended.drained (stream : line.isStream = true) (drain : c.monitor.drain = true)
    (attended : Attended c line e) : Drained e := by
  refine attended.invariant ?_ ?_ Drained.call ?_
  · intro e started
    obtain ⟨registration, registrations, rfl⟩ := start_eq_ok started
    exact ⟨rfl, rfl, rfl, rfl⟩
  · intro e e' attended drained step
    exact drained.worker drain (attended.untroubled stream) attended.reachable.sized step
  · intro e transport drained changed
    exact ⟨drained.empty, drained.roomy, drained.exhaustions, drained.called⟩

/-! ## An engine that is not drained -/

theorem Untroubled.hears_nobody (untroubled : Untroubled c e) (drain : c.monitor.drain = false) :
    e.shared.registration = none := by
  have registered := untroubled.registered
  rw [drainConsumer, if_neg (by simp [drain])] at registered
  exact Option.map_eq_none_iff.1 registered

/-- Nothing leaves the buffer but what the policy drops. -/
structure Undrained (e : Engine Line) : Prop where
  stall : e.settings.policy = .stall → e.shared.tally.bytesReleased = 0
  discard : e.settings.policy = .discard → e.shared.tally.bytesReleased =
    e.settings.capacity.toNat * e.shared.tally.exhaustionEvents

/-- Without a consumer the worker takes out only what it drops, a whole buffer for each event. -/
theorem Undrained.worker (unheard : e.shared.registration = none) (sized : Sized e)
    (watched : RoomWatched e) (undrained : Undrained e) (step : WorkerStep e e') :
    Undrained e' := by
  obtain ⟨stall, discard⟩ := undrained
  cases step
  case completeHeard heard _ _ => cases unheard.symm.trans heard
  case armDiscard place running unasked full policy =>
    refine ⟨fun stalls => (nomatch policy.symm.trans stalls), fun _ => ?_⟩
    show e.shared.tally.bytesReleased + e.shared.buffer.occupied =
      e.settings.capacity.toNat * (e.shared.tally.exhaustionEvents + 1)
    rw [discard policy, Buffer.isFull_iff.1 full, sized.capacity, Nat.mul_add, Nat.mul_one]
  case recordFull place =>
    have policy := watched.policy (by rw [place]; rfl)
    exact ⟨stall, fun discards => nomatch policy.symm.trans discards⟩
  all_goals exact ⟨stall, discard⟩

theorem Undrained.call (own : CallsByMonitor e) (undrained : Undrained e) (step : CallStep e e') :
    Undrained e' := by
  obtain ⟨stall, discard⟩ := undrained
  obtain ⟨phase, shared⟩ := step.shared_of_byMonitor own
  constructor
  · rw [shared, step.same_worker.settings]
    exact stall
  · rw [shared, step.same_worker.settings]
    exact discard

theorem Attended.undrained (stream : line.isStream = true) (drain : c.monitor.drain = false)
    (attended : Attended c line e) : Undrained e := by
  refine attended.invariant ?_ ?_ Undrained.call ?_
  · intro e started
    obtain ⟨registration, registrations, rfl⟩ := start_eq_ok started
    exact ⟨fun _ => rfl, fun _ => (Nat.mul_zero _).symm⟩
  · intro e e' attended undrained step
    have unheard := (attended.untroubled stream).hears_nobody drain
    have reachable := attended.reachable
    exact undrained.worker unheard reachable.sized reachable.roomWatched step
  · intro e transport undrained changed
    exact ⟨undrained.stall, undrained.discard⟩

/-! ## During the watch -/

/-- Nobody has asked for shutdown. -/
structure Undisturbed (e : Engine Line) : Prop where
  running : e.shared.phase = .running
  unpermitted : e.shutdownPermit = false
  staying : e.stage.isLeaving = false
  waits : CallsWait e

/-- Whatever goes on by itself, nobody asks for shutdown. -/
theorem Undisturbed.background (untroubled : Untroubled c e) (undisturbed : Undisturbed e)
    (step : Background arrives e e') : Undisturbed e' := by
  obtain ⟨running, unpermitted, staying, waits⟩ := undisturbed
  have waits' : CallsWait e' := by
    intro i call' place
    obtain ⟨call, here, move⟩ := step.origin place
    exact move.waitsForData running (waits i call here)
  rcases step.step.cases with worker | call | ⟨transport, -, rfl⟩
  · have staying' := worker.stays_in_loop running untroubled.unasked unpermitted staying
      untroubled.calm
    -- a worker that stays in its loop has changed neither the phase nor the permit
    rcases worker.leaves_or_keeps with leaving | ⟨-, phase, -, permit⟩
    · cases leaving.symm.trans staying'
    · exact ⟨phase.trans running, permit.trans unpermitted, staying', waits'⟩
  · obtain ⟨shared, permit, -⟩ := call.same_of_waits waits
    refine ⟨?_, permit.trans unpermitted, ?_, waits'⟩
    · rw [shared]
      exact running
    · rw [call.same_worker.stage]
      exact staying
  · exact ⟨running, unpermitted, staying, waits'⟩

theorem Undisturbed.ask {timed : Bool} (undisturbed : Undisturbed e) :
    Undisturbed (e.ask (.wait timed)) := by
  obtain ⟨running, unpermitted, staying, waits⟩ := undisturbed
  refine ⟨running, unpermitted, staying, ?_⟩
  intro i call place
  rcases getElem?_ask place with old | rfl
  · exact waits i call old
  · rfl

variable {turn : Turn}

/-- The watch makes no calls but the monitor's. -/
theorem Watching.attended (watching : Watching c line deadline turn e) : Attended c line e := by
  induction watching with
  | started started => exact .started started
  | step before step ih =>
    cases step with
    | background step => exact ih.background step
    | wait now timed move => exact ih.asked rfl
    | again returned onward => exact ih

/-- So shutdown is not asked for before the watch is over. -/
theorem Watching.undisturbed (stream : line.isStream = true)
    (watching : Watching c line deadline turn e) : Undisturbed e := by
  induction watching with
  | started started =>
    obtain ⟨registration, registrations, rfl⟩ := start_eq_ok started
    exact ⟨rfl, rfl, rfl, nofun⟩
  | step before step ih =>
    cases step with
    | background step => exact ih.background (before.attended.untroubled stream) step
    | wait now timed move => exact ih.ask
    | again returned onward => exact ih

/-- A line that was open at the start is watched for its loss. -/
theorem Attended.lossWatched (isOpen : Transport.isOpen line = true)
    (attended : Attended c line e) : LossWatched e := by
  obtain ⟨first, started, steps⟩ : ∃ first, start c line = .ok first ∧
      Steps Line.Changed first e := by
    induction attended with
    | started started => exact ⟨_, started, .refl⟩
    | background before step ih =>
      obtain ⟨first, started, steps⟩ := ih
      exact ⟨first, started, steps.tail step.step⟩
    | @asked e request before own ih =>
      obtain ⟨first, started, steps⟩ := ih
      exact ⟨first, started, steps.tail (.turn (.enter request) rfl)⟩
  have spawned := spawn_of_start started
  exact Steps.lossWatched Line.closesByFailure (fun _ _ => Line.Changed.isOpen)
    (.started _ _ _ spawned)
    (.started spawned isOpen) steps

end Monitor

end ByteTap
