import ByteTap.Proofs.Monitor.Session

/-!
# When the peer hangs up

A hang-up is noticed by the read that comes upon the end of the stream, and by no other.  A read
without room ends at once and never comes upon it.  So a monitor that leaves the bytes where they
are, and stalls once they fill the buffer, waits for room that nobody makes, and is never told that
the peer is gone: its documentation promises that a run lasts until the transport goes away, but
such a run lasts as long as it was told to, or for ever.

* `Connected` follows the watch over a connection, and what the peer has done;
* `Watching.roomy_of_closed`: a read that closes the line leaves room in the buffer;
* `hang_up_noticed_iff`: which hang-ups are noticed;
* `hang_up_unnoticed`: one that is not.
-/

namespace ByteTap.Monitor

open Engine

variable {c : Configuration} {line : Line} {deadline : Option Moment} {turn turn' : Turn}
  {sent : Bytes} {gone : Bool} {e e' : Engine Line}

/-- Nothing arrives by itself. -/
def Untouched (_ _ : Line) : Prop := False

/-- The engine during the watch over a connection.  The peer has sent those bytes, in whatever
portions the connection took them, and it has hung up or not. -/
inductive Connected (c : Configuration) (deadline : Option Moment) :
    Bytes → Bool → Turn → Engine Line → Prop
  | started {label : String} {size : Nat} {e : Engine Line}
      (started : start c (.pipe { label, source := some { capacity := size } }) = .ok e) :
      Connected c deadline [] false .looking e
  | step {sent : Bytes} {gone : Bool} {turn turn' : Turn} {e e' : Engine Line}
      (before : Connected c deadline sent gone turn e)
      (step : WatchStep Untouched c deadline turn e turn' e') :
      Connected c deadline sent gone turn' e'
  | sends {sent : Bytes} {turn : Turn} {e : Engine Line} {stream : Stream Pipe} {pipe : Pipe}
      (bytes : Bytes) (before : Connected c deadline sent false turn e)
      (line : e.transport = .pipe stream) (present : stream.source = some pipe) :
      Connected c deadline (sent ++ bytes.take pipe.room) false turn
        { e with transport := .pipe (stream.write bytes).1 }
  | hangsUp {sent : Bytes} {turn : Turn} {e : Engine Line} {stream : Stream Pipe}
      (before : Connected c deadline sent false turn e) (line : e.transport = .pipe stream) :
      Connected c deadline sent true turn { e with transport := .pipe stream.hangUp }

/-- Any number of steps of the watch while the peer does nothing. -/
abbrev WatchSteps (c : Configuration) (deadline : Option Moment) :
    Turn × Engine Line → Turn × Engine Line → Prop :=
  Relation.ReflTransGen fun first second =>
    WatchStep Untouched c deadline first.1 first.2 second.1 second.2

theorem Background.changed (step : Background Untouched e e') : Background Line.Changed e e' := by
  cases step with
  | turn label own stepped => exact .turn label own stepped
  | arrival f allowed => exact allowed.elim

theorem WatchStep.changed (step : WatchStep Untouched c deadline turn e turn' e') :
    WatchStep Line.Changed c deadline turn e turn' e' := by
  cases step with
  | background step => exact .background step.changed
  | wait now timed move => exact .wait now timed move
  | again returned onward => exact .again returned onward

/-- A schedule of the threads is followed in the background. -/
theorem watchSteps_run (e : Engine Line) (schedule : List Label)
    (own : ∀ label ∈ schedule, label.enters = false) :
    WatchSteps c deadline (turn, e) (turn, e.run schedule) := by
  induction schedule generalizing e with
  | nil => exact .refl
  | cons label later ih =>
    have own' := fun other among => own other (List.mem_cons_of_mem label among)
    show WatchSteps c deadline (turn, e) (turn, ((e.next label).getD e).run later)
    cases stepped : e.next label with
    | none => exact ih e own'
    | some e' =>
      have first : WatchStep Untouched c deadline turn e turn e' :=
        .background (.turn label (own label List.mem_cons_self) stepped)
      exact .head first (ih e' own')

/-- What the peer does arrives at an open line, which stays so. -/
theorem Watching.replaced {stream stream' : Stream Pipe}
    (watching : Watching c line deadline turn e) (here : e.transport = .pipe stream)
    (isOpen : stream'.isOpen = stream.isOpen) :
    Watching c line deadline turn { e with transport := .pipe stream' } := by
  refine watching.step (.background (.arrival (fun _ => .pipe stream') ⟨rfl, ?_⟩))
  rw [here]
  exact isOpen

/-- With a peer at the other end, the watch is the watch over a line that was open. -/
theorem Connected.watching (connected : Connected c deadline sent gone turn e) :
    ∃ line : Line, line.isStream = true ∧ Transport.isOpen line = true ∧
      Watching c line deadline turn e := by
  induction connected with
  | started started => exact ⟨_, rfl, rfl, .started started⟩
  | step before step ih =>
    obtain ⟨line, stream, isOpen, watching⟩ := ih
    exact ⟨line, stream, isOpen, watching.step step.changed⟩
  | @sends sent turn e stream pipe bytes before here present ih =>
    obtain ⟨line, isStream, isOpen, watching⟩ := ih
    refine ⟨line, isStream, isOpen, watching.replaced here ?_⟩
    unfold Stream.write
    rw [present]
    dsimp only
    split
    · rfl
    · show true = stream.source.isSome
      rw [present]
      rfl
  | @hangsUp sent turn e stream before here ih =>
    obtain ⟨line, isStream, isOpen, watching⟩ := ih
    refine ⟨line, isStream, isOpen, watching.replaced here ?_⟩
    exact Option.isSome_map

/-! ## The bytes on their way -/

/-- The line carries what was sent, as far as reads have not returned it. -/
def Carried (sent : Bytes) (gone : Bool) (e : Engine Line) : Prop :=
  Line.Carries (returnedIn e.trace) sent gone e.transport

/-- In its loop the worker notes all that it takes out of the line. -/
theorem Carried.worker (carried : Carried sent gone e) (step : WorkerStep e e')
    (staying : e'.stage.isLeaving = false) : Carried sent gone e' := by
  unfold Carried at *
  cases step
  case issueEnded room polled result place unpermitted poll ended =>
    subst poll
    rw [returnedIn_ended]
    simpa [Transport.startRead] using (carried.issue room).poll ended
  case issuePending room polled place unpermitted poll pending =>
    subst poll
    simpa [Transport.startRead] using (carried.issue room).pending pending
  case readEnded room polled result place unpermitted poll ended =>
    subst poll
    rw [returnedIn_ended]
    exact carried.poll ended
  case completeHeard reply _ _ _ _ _ => cases reply.stops <;> simpa using carried
  -- These lead out of the loop.
  case readCut => cases staying
  case completePanicked => cases staying
  case shut => cases staying
  case shutFailed => cases staying
  case unwind => cases staying
  all_goals simpa using carried

/-- Nothing is lost on the way from the peer to the reads. -/
theorem Connected.carried (connected : Connected c deadline sent gone turn e) :
    Carried sent gone e := by
  induction connected with
  -- Nothing was sent and nothing returned.
  | @started label size e started =>
    obtain ⟨registration, registrations, rfl⟩ := start_eq_ok started
    refine ⟨_, rfl, ?_, nofun⟩
    rintro _ ⟨⟩
    exact ⟨rfl, rfl⟩
  | step before step ih =>
    cases step with
    | background step =>
      obtain ⟨line, stream, -, watching⟩ := before.watching
      have staying := (watching.step (.background step.changed)).undisturbed stream |>.staying
      rcases step.step.cases with worker | call | ⟨transport, impossible, -⟩
      · exact ih.worker worker staying
      · unfold Carried
        rw [call.returnedIn_same, call.same_worker.transport]
        exact ih
      · exact impossible.elim
    | wait now timed move => exact ih
    | again returned onward => exact ih
  | sends bytes before here present ih =>
    obtain ⟨stream, there, carries⟩ := ih
    cases here.symm.trans there
    exact ⟨_, rfl, carries.write present bytes⟩
  | hangsUp before here ih =>
    obtain ⟨stream, there, carries⟩ := ih
    cases here.symm.trans there
    exact ⟨_, rfl, carries.hangUp⟩

/-! ## A read that closes the line had room -/

/-- The line closes in a read that had room, and nothing fills the buffer after that. -/
theorem roomy_worker (stream : e.transport.isStream = true) (kept : RoomKept e)
    (watched : LossWatched e) (staying : e'.stage.isLeaving = false)
    (roomy : Transport.isOpen e.transport = false → e.shared.buffer.isFull = false)
    (step : WorkerStep e e') (closed : Transport.isOpen e'.transport = false) :
    e'.shared.buffer.isFull = false := by
  have room := kept.room
  have live := watched.live
  have found {line : Line} {room : Nat} (stream : line.isStream = true)
      (isOpen : Transport.isOpen line = true)
      (closed : Transport.isOpen (Transport.poll line room).transport = false)
      (fits : room ≤ e.shared.buffer.spare) : e.shared.buffer.isFull = false :=
    Buffer.not_isFull_of_spare
      (Nat.lt_of_lt_of_le (Line.room_pos_of_closed stream isOpen closed) fits)
  have before (live' : e.stage.isLive = true) {statement : Prop}
      (closed : Transport.isOpen e.transport = false) : statement :=
    absurd ((live live').symm.trans closed) (by decide)
  cases step
  case issueEnded size polled result place unpermitted poll ended =>
    subst poll
    refine found (by simpa using stream) ?_ closed (room size (by rw [place]; rfl))
    rw [Line.closesByFailure.issue]
    exact live (by rw [place]; rfl)
  case issuePending size polled place unpermitted poll pending =>
    subst poll
    refine found (by simpa using stream) ?_ closed (room size (by rw [place]; rfl))
    rw [Line.closesByFailure.issue]
    exact live (by rw [place]; rfl)
  case readEnded size polled result place unpermitted poll ended =>
    subst poll
    exact found stream (live (by rw [place]; rfl)) closed (room size (by rw [place]; rfl))
  -- What changes the buffer happens while the line is open.
  case armDiscard place _ _ _ _ => exact before (by rw [place]; rfl) closed
  case completeUnheard place _ _ => exact before (by rw [place]; rfl) closed
  case completeHeard place _ _ _ _ => exact before (by rw [place]; rfl) closed
  case completePanicked place _ _ _ _ => exact before (by rw [place]; rfl) closed
  case readCut => cases staying
  case shut => cases staying
  case shutFailed => cases staying
  case unwind => cases staying
  all_goals exact roomy closed

/-- The room of the read that found the end of the stream is still there. -/
theorem Watching.roomy_of_closed (stream : line.isStream = true)
    (isOpen : Transport.isOpen line = true) (watching : Watching c line deadline turn e)
    (closed : Transport.isOpen e.transport = false) : e.shared.buffer.isFull = false := by
  induction watching with
  | started started =>
    obtain ⟨registration, registrations, rfl⟩ := start_eq_ok started
    cases isOpen.symm.trans closed
  | @step turn turn' e e' before step ih =>
    cases step with
    | wait now timed move => exact ih closed
    | again returned onward => exact ih closed
    | background step =>
      have attended := before.attended
      rcases step.step.cases with worker | call | ⟨transport, changed, rfl⟩
      · exact roomy_worker (attended.untroubled stream).stream
          (attended.reachable.streamKept Line.bounded).room (attended.lossWatched isOpen)
          ((before.step (.background step)).undisturbed stream).staying ih worker closed
      · rw [(call.same_of_waits (before.undisturbed stream).waits).shared]
        rw [call.same_worker.transport] at closed
        exact ih closed
      · exact ih (changed.isOpen.symm.trans closed)

/-! ## Where the worker rests -/

/-- Where nothing is consumed, dropped or in hand, the buffer holds all that reads returned. -/
theorem Attended.occupied_eq (stream : line.isStream = true) (attended : Attended c line e)
    (drain : c.monitor.drain = false) (policy : c.engine.policy = .stall)
    (idle : e.stage.inHand = []) : e.shared.buffer.occupied = (returnedIn e.trace).length := by
  have kept := attended.reachable.streamKept Line.bounded
  have settings := (attended.untroubled stream).settings
  have nothing : releasedIn e.trace = 0 := by
    rw [← kept.balanced.released]
    exact (attended.undrained stream drain).stall (settings ▸ policy)
  calc e.shared.buffer.occupied
      = e.shared.buffer.occupied + releasedIn e.trace := by rw [nothing, Nat.add_zero]
    _ = (receivedIn e.trace).length := kept.balanced.occupied
    _ = (returnedIn e.trace).length := by rw [kept.returned, idle, List.append_nil]

theorem Attended.capacity_eq (stream : line.isStream = true) (attended : Attended c line e) :
    e.shared.buffer.capacity = c.engine.capacity.toNat := by
  rw [(attended.reachable.streamKept Line.bounded).room.capacity,
    (attended.untroubled stream).settings]

/-- The worker waits for room that nobody makes. -/
structure Stuck (e : Engine Line) : Prop where
  place : e.stage = .stalled
  spaceless : e.spacePermit = false
  isOpen : e.shared.isOpen = true

/-- A worker that rests with the hang-up unnoticed is stuck with a full buffer. -/
theorem Connected.stuck_of_open (connected : Connected c deadline sent true turn e)
    (rest : e.next .worker = none) (untimed : e.next .timer = none)
    (isOpen : e.shared.isOpen = true) :
    Stuck e ∧ c.engine.policy = .stall ∧ c.monitor.drain = false ∧
      c.engine.capacity.toNat ≤ sent.length := by
  obtain ⟨line, stream, -, watching⟩ := connected.watching
  have attended := watching.attended
  have undisturbed := watching.undisturbed stream
  rcases rest_of_running (fun _ _ => Line.Changed.isOpen) attended.reachable rest untimed
    undisturbed.waits.owesSpace_eq_false undisturbed.running (.inr isOpen) with
    ⟨room, place, pending⟩ | ⟨policy, full, place⟩
  -- no read stays pending once the peer is gone
  · exact absurd pending (connected.carried.ends room)
  have spaceless : e.spacePermit = false := by
    cases work_eq_none_iff.1 rest with
    | stalled place' unpermitted spaceless => exact spaceless
    | _ => cases place.symm.trans ‹e.stage = _›
  have policy : c.engine.policy = .stall := (attended.untroubled stream).settings ▸ policy
  have drain : c.monitor.drain = false := by
    cases drain : c.monitor.drain with
    | false => rfl
    | true =>
      have drained := attended.drained stream drain
      cases full.symm.trans (drained.not_isFull attended.reachable.sized)
  refine ⟨⟨place, spaceless, isOpen⟩, policy, drain, ?_⟩
  calc c.engine.capacity.toNat
      = e.shared.buffer.capacity := (attended.capacity_eq stream).symm
    _ = e.shared.buffer.occupied := (Buffer.isFull_iff.1 full).symm
    _ = (returnedIn e.trace).length :=
        attended.occupied_eq stream drain policy (by rw [place]; rfl)
    _ ≤ sent.length := connected.carried.prefix_sent.length_le

/-- A worker that rests once the hang-up was noticed has read all that was sent, and the read that
came upon the end had room. -/
theorem Connected.room_of_closed (connected : Connected c deadline sent gone turn e)
    (rest : e.next .worker = none) (closed : e.shared.isOpen = false)
    (drain : c.monitor.drain = false) (policy : c.engine.policy = .stall) :
    sent.length < c.engine.capacity.toNat := by
  obtain ⟨line, stream, isOpen, watching⟩ := connected.watching
  have attended := watching.attended
  have undisturbed := watching.undisturbed stream
  have lost := (attended.lossWatched isOpen).noticed undisturbed.running closed
  have place := lost.suspended_of_rest rest undisturbed.staying
  have known := attended.reachable.lossKnown fun _ _ => Line.Changed.isOpen
  have ended : Transport.isOpen e.transport = false := (known.lost (by rw [place]; rfl)).1
  have room := Buffer.spare_pos (watching.roomy_of_closed stream isOpen ended)
  calc sent.length
      = (returnedIn e.trace).length := by rw [connected.carried.all_of_closed ended]
    _ = e.shared.buffer.occupied :=
        (attended.occupied_eq stream drain policy (by rw [place]; rfl)).symm
    _ < e.shared.buffer.capacity := Nat.lt_of_sub_pos room
    _ = c.engine.capacity.toNat := attended.capacity_eq stream

/-! ## A hang-up that is never noticed -/

theorem Stuck.next_worker (stuck : Stuck e) (undisturbed : Undisturbed e) :
    e.next .worker = none :=
  work_eq_none_iff.2 (.stalled stuck.place undisturbed.unpermitted stuck.spaceless)

/-- A stuck worker stays stuck, since nobody consumes and nobody asks it to leave. -/
theorem Stuck.step (stuck : Stuck e) (undisturbed : Undisturbed e)
    (step : WatchStep Untouched c deadline turn e turn' e') : Stuck e' := by
  obtain ⟨place, spaceless, isOpen⟩ := stuck
  cases step with
  | wait now timed move => exact ⟨place, spaceless, isOpen⟩
  | again returned onward => exact ⟨place, spaceless, isOpen⟩
  | background step =>
    rcases step.step.cases with worker | call | ⟨transport, impossible, -⟩
    · cases worker
      case stallCut permit => cases undisturbed.unpermitted.symm.trans permit
      case stallWoken permit => cases spaceless.symm.trans permit
      all_goals cases place.symm.trans ‹e.stage = _›
    · obtain ⟨shared, -, space⟩ := call.same_of_waits undisturbed.waits
      refine ⟨call.same_worker.stage.trans place, space.trans spaceless, ?_⟩
      rw [shared]
      exact isOpen
    · exact impossible.elim

/-- The hang-up is unnoticed: the worker has no step, the engine runs as if the line were open, and
no wait says otherwise. -/
structure Unnoticed (e : Engine Line) : Prop where
  rest : e.next .worker = none
  running : e.shared.phase = .running
  isOpen : e.shared.isOpen = true
  untold : e.lastAnswer ≠ some (.outcome .disconnected)

theorem Connected.steps {before later : Turn × Engine Line}
    (connected : Connected c deadline sent gone before.1 before.2)
    (steps : WatchSteps c deadline before later) :
    Connected c deadline sent gone later.1 later.2 := by
  induction steps with
  | refl => exact connected
  | tail before step ih => exact ih.step step

/-- While the peer does nothing, it stays so. -/
theorem Stuck.steps {before later : Turn × Engine Line} (stuck : Stuck before.2)
    (connected : Connected c deadline sent gone before.1 before.2)
    (steps : WatchSteps c deadline before later) : Stuck later.2 := by
  induction steps with
  | refl => exact stuck
  | tail before step ih =>
    obtain ⟨line, stream, -, watching⟩ := (connected.steps before).watching
    exact ih.step (watching.undisturbed stream) step

theorem Connected.unnoticed (connected : Connected c deadline sent gone turn e)
    (stuck : Stuck e) : Unnoticed e := by
  obtain ⟨line, stream, isOpen, watching⟩ := connected.watching
  have undisturbed := watching.undisturbed stream
  refine ⟨stuck.next_worker undisturbed, undisturbed.running, stuck.isOpen, ?_⟩
  intro told
  obtain ⟨i, place⟩ := getElem?_of_lastAnswer told
  have lost := (watching.attended.lossWatched isOpen).said i _ place rfl
  cases stuck.isOpen.symm.trans lost.isOpen

/-- Where the worker rests after the peer has hung up, the hang-up was noticed just in case the
monitor drains the buffer, or the buffer is dropped when it is full, or what was sent leaves a cell
of it free.  Else the hang-up stays unnoticed, however long the watch goes on. -/
theorem hang_up_noticed_iff (connected : Connected c deadline sent true turn e)
    (rest : e.next .worker = none) (untimed : e.next .timer = none) :
    e.shared.phase = .running ∧
    (e.shared.isOpen = false ↔ c.monitor.drain = true ∨ c.engine.policy = .discard ∨
      sent.length < c.engine.capacity.toNat) ∧
    (e.shared.isOpen = true → ∀ turn' later, WatchSteps c deadline (turn, e) (turn', later) →
      Unnoticed later) := by
  obtain ⟨line, stream, -, watching⟩ := connected.watching
  refine ⟨(watching.undisturbed stream).running, ⟨?_, ?_⟩, ?_⟩
  · intro closed
    cases drain : c.monitor.drain with
    | true => exact .inl rfl
    | false =>
      cases policy : c.engine.policy with
      | discard => exact .inr (.inl rfl)
      | stall => exact .inr (.inr (connected.room_of_closed rest closed drain policy))
  · intro grounds
    cases isOpen : e.shared.isOpen with
    | false => rfl
    | true =>
      obtain ⟨-, policy, drain, most⟩ := connected.stuck_of_open rest untimed isOpen
      rcases grounds with drains | discards | free
      · cases drain.symm.trans drains
      · cases policy.symm.trans discards
      · omega
  · intro isOpen turn' later steps
    obtain ⟨stuck, -⟩ := connected.stuck_of_open rest untimed isOpen
    exact (connected.steps steps).unnoticed (stuck.steps connected steps)

/-- Nothing is set but an address and a buffer of four cells. -/
def plain : Configuration where
  endpoint := { tcp := some "10.0.0.1:5017" }
  engine := { capacity := 4 }

/-- Four bytes fill the buffer, the peer hangs up, and the first wait for more times out. -/
theorem connected_of_full_buffer :
    ∃ e later, Connected plain none [1, 2, 3, 4] true .looking e ∧
      e.next .worker = none ∧ e.next .timer = none ∧
      e.shared.phase = .running ∧ e.shared.isOpen = true ∧
      later = (e.ask (.wait true)).run [.call 0, .expire 0, .call 0] ∧
      WatchSteps plain none (.looking, e) (.looking, later) ∧
      later.answers = [some (.outcome .timedOut)] := by
  have started : start plain
      (.pipe { label := "tcp://10.0.0.1:5017", source := some { capacity := 64 } }) = .ok _ := rfl
  have connected : Connected plain none [] false .looking _ := .started started
  have ended : Connected plain none [1, 2, 3, 4] true .looking _ :=
    (connected.sends [1, 2, 3, 4] rfl rfl).hangsUp rfl
  have stalls : Connected plain none [1, 2, 3, 4] true .looking (Engine.run _ _) :=
    ended.steps (watchSteps_run _ (List.replicate 12 .worker) (by decide))
  refine ⟨_, _, stalls, rfl, rfl, rfl, rfl, rfl, ?_, rfl⟩
  have waits (e : Engine Line) :
      WatchStep Untouched plain none .looking e .waiting (e.ask (.wait true)) := .wait ⟨0⟩ true rfl
  exact .tail (.head (waits _) (watchSteps_run _ [.call 0, .expire 0, .call 0] (by decide)))
    (.again rfl rfl)

/-- Four bytes leave no cell of the buffer free, and the wait for more does not tell of the end. -/
theorem hang_up_noticed_iff_of_full_buffer :
    ∃ e later, Connected plain none [1, 2, 3, 4] true .looking e ∧
      e.next .worker = none ∧ e.next .timer = none ∧
      (e.shared.isOpen = false ↔ plain.monitor.drain = true ∨ plain.engine.policy = .discard ∨
        [1, 2, 3, 4].length < plain.engine.capacity.toNat) ∧
      e.shared.isOpen = true ∧
      WatchSteps plain none (.looking, e) (.looking, later) ∧
      later.answers = [some (.outcome .timedOut)] ∧ Unnoticed later := by
  obtain ⟨e, later, connected, rest, untimed, -, isOpen, -, watched, answered⟩ :=
    connected_of_full_buffer
  obtain ⟨-, noticed, unnoticed⟩ := hang_up_noticed_iff connected rest untimed
  exact ⟨e, later, connected, rest, untimed, noticed, isOpen, watched, answered,
    unnoticed isOpen _ _ watched⟩

/-- So there are valid configurations with which a hang-up is not noticed. -/
theorem hang_up_unnoticed :
    ¬ ∀ (c : Configuration) (deadline : Option Moment) (sent : Bytes) (turn : Turn)
        (e : Engine Line), c.validate = .ok () → Connected c deadline sent true turn e →
        e.next .worker = none → e.next .timer = none → e.shared.phase = .running →
        e.shared.isOpen = false := by
  intro always
  obtain ⟨e, later, connected, rest, untimed, running, isOpen, -⟩ := connected_of_full_buffer
  cases isOpen.symm.trans (always plain none _ _ e rfl connected rest untimed running)

end ByteTap.Monitor
