import ByteTap.Proofs.Engine.FullBuffer
import ByteTap.Proofs.Engine.Loss

/-!
# The end of a piped stream

A read of no bytes can mean three things over a pipe: the destination had no room, nothing waits at
the moment, or the writer is gone.  The stream tells them apart.  The first is a read that ends
well, the second stays pending, and the third fails the read and closes the stream.  So an engine
over a pipe loses nothing when the writer goes away.

* `Piped`: the runs of an engine over a pipe, with what the pipe accepted and whether the writer is
  gone;
* `Conveyed`: every accepted byte was returned by a read or still waits, until the stream is closed;
* `ZeroReads`: the reads without bytes are those without room;
* `nothing_lost_at_hang_up`: what holds of the engine at every moment of such a run.
-/

namespace ByteTap

/-- How many bytes went into the pipe. -/
@[simp] def WriteOutcome.count : WriteOutcome → Nat
  | accepted count => count
  | full | broken => 0

/-- The fault tells that no more bytes will come: a read came upon the end of the stream, or the
transport is gone. -/
def Fault.tellsEnd : Fault → Bool
  | readFailed _ cause => cause.kind == .unexpectedEnd
  | disconnected _ => true
  | _ => false

/-- A read has failed. -/
@[simp] def hasFailed : List Event → Bool
  | [] => false
  | .ended (.error _) :: _ => true
  | _ :: older => hasFailed older

/-- It was reported that no more bytes will come. -/
@[simp] def endIsTold : List Event → Bool
  | [] => false
  | .reported (.readFailed _ cause) :: older => cause.kind == .unexpectedEnd || endIsTold older
  | .reported (.disconnected _) :: _ => true
  | _ :: older => endIsTold older

/-- The transport was shut. -/
@[simp] def hasShut : List Event → Bool
  | [] => false
  | .shut _ :: _ => true
  | _ :: older => hasShut older

@[simp] theorem hasFailed_noted (notes : List String) (older : List Event) :
    hasFailed ((notes.map Event.noted).reverse ++ older) = hasFailed older :=
  eq_of_noted (fun _ _ => rfl) notes older

@[simp] theorem endIsTold_noted (notes : List String) (older : List Event) :
    endIsTold ((notes.map Event.noted).reverse ++ older) = endIsTold older :=
  eq_of_noted (fun _ _ => rfl) notes older

@[simp] theorem hasShut_noted (notes : List String) (older : List Event) :
    hasShut ((notes.map Event.noted).reverse ++ older) = hasShut older :=
  eq_of_noted (fun _ _ => rfl) notes older

@[simp] theorem hasFailed_asked (asked : Bool) (older : List Event) :
    hasFailed ((if asked then [.stopAsked] else []) ++ older) = hasFailed older := by
  cases asked <;> rfl

@[simp] theorem endIsTold_asked (asked : Bool) (older : List Event) :
    endIsTold ((if asked then [.stopAsked] else []) ++ older) = endIsTold older := by
  cases asked <;> rfl

@[simp] theorem hasShut_asked (asked : Bool) (older : List Event) :
    hasShut ((if asked then [.stopAsked] else []) ++ older) = hasShut older := by
  cases asked <;> rfl

/-- A report that tells of the end is in the history. -/
theorem endIsTold_of_mem {history : List Event} {fault : Fault} (among : fault ∈ reports history)
    (tells : fault.tellsEnd = true) : endIsTold history = true := by
  induction history with
  | nil => cases among
  | cons event older ih =>
    rw [reports_cons, List.mem_append] at among
    rcases among with new | old
    · cases event with
      | reported other =>
        obtain rfl : fault = other := by simpa [Event.fault?] using new
        cases fault <;> simp_all [Fault.tellsEnd]
      | _ => simp [Event.fault?] at new
    · cases event with
      | reported other => cases other <;> simp [ih old]
      | _ => exact ih old

namespace Stage

/-- A failed read is at hand. -/
@[simp] def handlesFailure : Stage → Bool
  | completing _ (.error _) | reportingFailure .. | reportingLoss => true
  | settling _ handled => handled.failed
  | _ => false

/-- The worker has given the transport up. -/
@[simp] def isPastShut : Stage → Bool
  | reportingClose _ | markingShut | finishing | signallingEnd | exited => true
  | _ => false

/-- A read that ended without bytes is at hand. -/
@[simp] def emptyHanded : Stage → Nat
  | completing _ (.ok []) => 1
  | _ => 0

end Stage

/-! ## Reads of a pipe -/

namespace Stream

section

variable {σ : Type} [ByteSource σ] {s : Stream σ} {room : Nat}

@[simp] theorem abandon_eq (s : Stream σ) : Transport.abandon s = s := rfl

@[simp] theorem source_release (s : Stream σ) : (Transport.release s).source = none := rfl

@[simp] theorem source_shut (s : Stream σ) : (Transport.shut s).transport.source = none := rfl

/-- A read of an open stream that ends without bytes had no room, and one without room so ends. -/
theorem poll_eq_nothing_iff (isOpen : s.isOpen = true) :
    (Transport.poll s room).result = some (.ok []) ↔ room = 0 := by
  have answers := s.answers room
  generalize Transport.poll s room = polled at answers
  cases answers with
  | gone closed cause => simp [Stream.isOpen, closed] at isOpen
  | nowhere present nowhere => simpa using nowhere
  | pending present somewhere waits => simpa using Nat.ne_of_gt somewhere
  | ended present somewhere taken cause notes => simpa using Nat.ne_of_gt somewhere
  | data present somewhere nonempty taken => simpa [nonempty] using Nat.ne_of_gt somewhere
  | failed present somewhere taken => simpa using Nat.ne_of_gt somewhere

/-- Every read of a closed stream fails. -/
theorem poll_of_closed (closed : s.source = none) (room : Nat) :
    (Transport.poll s room).result = some (.error ⟨.notConnected, s.label ++ " is closed"⟩) := by
  show (s.poll room).result = _
  unfold poll
  rw [closed]

end

variable {s : Stream Pipe} {pipe : Pipe} {room : Nat}

theorem transport_of_pending (pending : (Transport.poll s room).result = none) :
    (Transport.poll s room).transport = s := by
  have answers := s.answers room
  generalize Transport.poll s room = polled at answers pending
  cases answers with
  | pending present somewhere waits => rfl
  | _ => cases pending

/-- A read of a pipe fails only once nothing waits in it and the writer is gone. -/
theorem of_failed {cause : IoFailure} (present : s.source = some pipe)
    (failed : (Transport.poll s room).result = some (.error cause)) :
    (Transport.poll s room).transport.source = none ∧ pipe.queued = [] ∧
      pipe.writerPresent = false := by
  have answers := s.answers room
  generalize Transport.poll s room = polled at answers failed
  have taken_eq {result : Except IoFailure Bytes} {rest other : Pipe}
      (here : s.source = some other) (taken : ByteSource.take other room = some (result, rest)) :
      pipe.take room = some (result, rest) := by
    cases present.symm.trans here
    exact taken
  cases answers with
  | gone closed cause => cases present.symm.trans closed
  | nowhere present nowhere => cases failed
  | pending present somewhere waits => cases failed
  | data present somewhere nonempty taken => cases failed
  | ended here somewhere taken cause notes =>
    have taken := taken_eq here taken
    unfold Pipe.take at taken
    split at taken
    · next empty =>
      split at taken
      · cases taken
      · next gone => exact ⟨rfl, List.isEmpty_iff.1 empty, by simpa using gone⟩
    · next waiting =>
      -- bytes that wait are taken, as the read has room for one
      have nothing : pipe.queued.take room = [] := by
        simpa using congrArg (Option.map Prod.fst) taken
      rcases List.take_eq_nil_iff.1 nothing with nowhere | empty
      · omega
      · simp [empty] at waiting
  | failed here somewhere taken =>
    have taken := taken_eq here taken
    unfold Pipe.take at taken
    split at taken
    · split at taken <;> cases taken
    · cases taken

/-- Writing into the pipe happens at the source of the stream. -/
theorem changed_write (s : Stream Pipe) (bytes : Bytes) : Changed s (s.write bytes).1 := by
  unfold write
  cases present : s.source with
  | none => exact ⟨id, by simp⟩
  | some pipe =>
    dsimp only
    split
    · exact ⟨id, by simp⟩
    · exact ⟨fun pipe => pipe.write bytes, by simp [present]⟩

theorem changed_hangUp (s : Stream Pipe) : Changed s s.hangUp := ⟨Pipe.hangUp, rfl⟩

/-- The bytes that one attempt to write puts into the pipe come last. -/
theorem write_source {bytes : Bytes} {pipe' : Pipe}
    (present' : (s.write bytes).1.source = some pipe') :
    ∃ pipe, s.source = some pipe ∧ pipe'.writerPresent = pipe.writerPresent ∧
      pipe'.queued = pipe.queued ++ bytes.take (s.write bytes).2.count := by
  unfold write at present' ⊢
  cases present : s.source with
  | none => simp [present] at present'
  | some pipe =>
    rw [present] at present'
    refine ⟨pipe, rfl, ?_⟩
    dsimp only at present' ⊢
    split at present'
    · next full =>
      obtain rfl : pipe = pipe' := Option.some.inj (present.symm.trans present')
      simp [full]
    · next free =>
      cases present'
      simp [free, Pipe.write, List.take_eq_take_iff, Nat.min_comm]

/-- Nothing goes into a closed stream. -/
theorem write_of_closed (closed : s.source = none) (bytes : Bytes) :
    s.write bytes = (s, .broken) := by
  unfold write
  rw [closed]

end Stream

namespace Engine

/-! ## Runs over a pipe -/

/-- The runs of an engine over an open pipe of any size.  The pipe has accepted those bytes, in
whatever portions they fitted, and its writer is gone or not; the threads take turns in any
order. -/
inductive Piped : Bytes → Bool → Engine (Stream Pipe) → Prop
  | started {e : Engine (Stream Pipe)} (settings : Settings) (label : String) (pipe : Pipe)
      (consumer : Option Consumer)
      (spawned : spawn settings { label, source := some pipe } consumer = .ok e) :
      Piped pipe.queued (!pipe.writerPresent) e
  | writes {sent : Bytes} {e : Engine (Stream Pipe)} (bytes : Bytes) (before : Piped sent false e) :
      Piped (sent ++ bytes.take (e.transport.write bytes).2.count) false
        (e.mapTransport fun stream => (stream.write bytes).1)
  | hangsUp {sent : Bytes} {gone : Bool} {e : Engine (Stream Pipe)} (before : Piped sent gone e) :
      Piped sent true (e.mapTransport Stream.hangUp)
  | turn {sent : Bytes} {gone : Bool} {e e' : Engine (Stream Pipe)} (label : Label)
      (before : Piped sent gone e) (stepped : e.next label = some e') : Piped sent gone e'

variable {sent : Bytes} {gone : Bool} {e e' : Engine (Stream Pipe)}

/-- What is done at the far end arrives at the source of the stream. -/
theorem Piped.steps (piped : Piped sent gone e) :
    ∃ start, Reachable Stream.Changed start ∧ LossWatched start ∧
      Steps Stream.Changed start e := by
  induction piped with
  | started settings label pipe consumer spawned =>
    exact ⟨_, .started settings _ consumer spawned, .started spawned rfl, .refl⟩
  | writes bytes before ih =>
    obtain ⟨start, reachable, watched, steps⟩ := ih
    exact ⟨start, reachable, watched, steps.tail (.arrival _ (Stream.changed_write _ bytes))⟩
  | hangsUp before ih =>
    obtain ⟨start, reachable, watched, steps⟩ := ih
    exact ⟨start, reachable, watched, steps.tail (.arrival _ (Stream.changed_hangUp _))⟩
  | turn label before stepped ih =>
    obtain ⟨start, reachable, watched, steps⟩ := ih
    exact ⟨start, reachable, watched, steps.tail (.turn label stepped)⟩

/-- A run over a pipe is a run over a stream at whose source anything may happen. -/
theorem Piped.reachable (piped : Piped sent gone e) : Reachable Stream.Changed e := by
  obtain ⟨start, reachable, -, steps⟩ := piped.steps
  exact reachable.steps steps

theorem Piped.lossWatched (piped : Piped sent gone e) : LossWatched e := by
  obtain ⟨start, reachable, watched, steps⟩ := piped.steps
  exact steps.lossWatched Stream.closesByFailure (fun _ _ changed => changed.isOpen) reachable
    watched

/-- Where no read has failed yet, the pipe is there. -/
theorem Piped.present (piped : Piped sent gone e) (live : e.stage.isLive = true) :
    ∃ pipe, e.transport.source = some pipe :=
  Option.isSome_iff_exists.1 (piped.lossWatched.live live)

/-! ## The bytes on their way -/

/-- Every byte that the pipe has accepted was returned by a read or waits in the pipe; and once a
read has failed, every one was returned. -/
structure Conveyed (sent : Bytes) (gone : Bool) (e : Engine (Stream Pipe)) : Prop where
  waiting : ∀ pipe, e.transport.source = some pipe →
    sent = returnedIn e.trace ++ pipe.queued ∧ pipe.writerPresent = !gone
  returned : returnedIn e.trace <+: sent
  drained : hasFailed e.trace = true →
    e.transport.source = none ∧ returnedIn e.trace = sent ∧ gone = true
  failed : e.stage.handlesFailure = true → hasFailed e.trace = true
  told : endIsTold e.trace = true → hasFailed e.trace = true
  shut : hasShut e.trace = true ∨ e.stage.isPastShut = true → e.transport.source = none

/-- A read of the open pipe has ended. -/
theorem Conveyed.ended {pipe : Pipe} {room : Nat} {result : Except IoFailure Bytes}
    {trace : List Event} (conveyed : Conveyed sent gone e)
    (present : e.transport.source = some pipe)
    (ended : (Transport.poll e.transport room).result = some result)
    (returned : returnedIn trace = returnedIn e.trace ++ Script.endedBytes result)
    (failed : hasFailed trace = true ↔ (∃ cause, result = .error cause) ∨ hasFailed e.trace = true)
    (told : endIsTold trace = endIsTold e.trace) (shut : hasShut trace = hasShut e.trace) :
    Conveyed sent gone
      { e with
        transport := (Transport.poll e.transport room).transport
        stage := .completing room result
        trace } := by
  have unfailed : hasFailed e.trace = false := by
    cases before : hasFailed e.trace with
    | false => rfl
    | true => cases present.symm.trans (conveyed.drained before).1
  have unshut : hasShut e.trace = false := by
    cases before : hasShut e.trace with
    | false => rfl
    | true => cases present.symm.trans (conveyed.shut (.inl before))
  have carries : Stream.Carries (returnedIn e.trace) sent gone e.transport :=
    ⟨conveyed.waiting, fun closed => nomatch present.symm.trans closed⟩
  have carries' := carries.poll ended
  rw [← returned] at carries'
  refine ⟨carries'.present, ?_, ?_, ?_, ?_, ?_⟩
  · show returnedIn trace <+: sent
    cases source : (Transport.poll e.transport room).transport.source with
    | none => exact ⟨[], by simpa using (carries'.ended source).symm⟩
    | some rest => exact ⟨rest.queued, (carries'.present rest source).1.symm⟩
  · intro fails
    rcases failed.1 fails with ⟨cause, rfl⟩ | before
    -- the read that failed just now found the pipe empty and without a writer
    · obtain ⟨closed, -, writerless⟩ := Stream.of_failed present ended
      have writer := (conveyed.waiting pipe present).2
      refine ⟨closed, (carries'.ended closed).symm, ?_⟩
      simpa [writerless] using writer.symm
    · cases unfailed.symm.trans before
  · intro handles
    cases result with
    | error cause => exact failed.2 (.inl ⟨cause, rfl⟩)
    | ok bytes => cases handles
  · intro tells
    exact failed.2 (.inr (conveyed.told (told ▸ tells)))
  · rintro (shuts | past)
    · cases unshut.symm.trans (shut.symm.trans shuts)
    · cases past

/-- A read takes what it returns from the front of the pipe; nothing else that the worker does
touches the bytes. -/
theorem Conveyed.worker (conveyed : Conveyed sent gone e) (kept : e.stage.isLive = true →
    ∃ pipe, e.transport.source = some pipe) (step : WorkerStep e e') : Conveyed sent gone e' := by
  cases step
  case issueEnded room polled result place unpermitted poll ended =>
    subst poll
    obtain ⟨pipe, present⟩ := kept (by rw [place]; rfl)
    refine conveyed.ended present ended ?_ ?_ ?_ ?_
    · rw [returnedIn_ended]; simp
    · cases result <;> simp
    · simp
    · simp
  case readEnded room polled result place unpermitted poll ended =>
    subst poll
    obtain ⟨pipe, present⟩ := kept (by rw [place]; rfl)
    refine conveyed.ended present ended ?_ ?_ ?_ ?_
    · exact returnedIn_ended result _ e.trace
    · cases result <;> simp
    · simp
    · simp
  -- A pending read leaves the pipe as it is.
  case issuePending room polled place unpermitted poll pending =>
    subst poll
    obtain ⟨waiting, returned, drained, failed, told, shut⟩ := conveyed
    have same : (Transport.startRead e.transport room).transport = e.transport :=
      Stream.transport_of_pending pending
    rw [place] at failed shut
    constructor <;> simp_all
  case shut place shut unfailed =>
    subst shut
    obtain ⟨waiting, returned, drained, failed, told, shut⟩ := conveyed
    constructor <;> simp_all
  -- a stream is always shut without a failure
  case shutFailed place shut failed =>
    cases shut.symm ▸ failed
  -- Nothing else reads, reports the end or shuts the transport, unless a failed read came before.
  all_goals
    clear kept
    have place := ‹e.stage = _›
    obtain ⟨waiting, returned, drained, failed, told, shut⟩ := conveyed
    rw [place] at failed shut
    first
      | exact ⟨waiting, returned, drained, failed, told, shut⟩
      | constructor <;> simp_all

theorem Conveyed.call (conveyed : Conveyed sent gone e) (step : CallStep e e') :
    Conveyed sent gone e' := by
  obtain ⟨waiting, returned, drained, failed, told, shut⟩ := conveyed
  cases step <;> constructor <;> simpa

/-- What is written waits in the pipe, and a closed one accepts nothing. -/
theorem Conveyed.writes (conveyed : Conveyed sent gone e) (bytes : Bytes) :
    Conveyed (sent ++ bytes.take (e.transport.write bytes).2.count) gone
      (e.mapTransport fun stream => (stream.write bytes).1) := by
  have stays (closed : e.transport.source = none) : (e.transport.write bytes).1.source = none := by
    rw [Stream.write_of_closed closed]
    exact closed
  refine ⟨?_, conveyed.returned.trans (List.prefix_append _ _), ?_, conveyed.failed, conveyed.told,
    fun shut => stays (conveyed.shut shut)⟩
  · intro pipe' present'
    obtain ⟨pipe, present, writer, queued⟩ := Stream.write_source present'
    obtain ⟨whole, here⟩ := conveyed.waiting pipe present
    refine ⟨?_, writer.trans here⟩
    rw [queued, whole]
    exact List.append_assoc _ _ _
  · intro failed
    obtain ⟨closed, all, last⟩ := conveyed.drained failed
    refine ⟨stays closed, ?_, last⟩
    show returnedIn e.trace = sent ++ _
    rw [Stream.write_of_closed closed, all]
    exact (List.append_nil sent).symm

/-- The bytes in the pipe outlive its writer. -/
theorem Conveyed.hangsUp (conveyed : Conveyed sent gone e) :
    Conveyed sent true (e.mapTransport Stream.hangUp) := by
  have stays (closed : e.transport.source = none) : e.transport.hangUp.source = none := by
    simp [Stream.hangUp, closed]
  refine ⟨?_, conveyed.returned, ?_, conveyed.failed, conveyed.told,
    fun shut => stays (conveyed.shut shut)⟩
  · intro pipe' present'
    obtain ⟨pipe, present, rfl⟩ := Option.map_eq_some_iff.1 present'
    exact ⟨(conveyed.waiting pipe present).1, rfl⟩
  · intro failed
    obtain ⟨closed, all, -⟩ := conveyed.drained failed
    exact ⟨stays closed, all, rfl⟩

/-- At every moment of a run over a pipe, its bytes are returned or waiting. -/
theorem Piped.conveyed (piped : Piped sent gone e) : Conveyed sent gone e := by
  induction piped with
  | started settings label pipe consumer spawned =>
    obtain ⟨-, -, registration, registrations, rfl⟩ := spawn_eq_ok spawned
    refine ⟨?_, List.nil_prefix, nofun, nofun, nofun, by simp⟩
    rintro _ ⟨⟩
    exact ⟨rfl, by simp⟩
  | writes bytes before ih => exact ih.writes bytes
  | hangsUp before ih => exact ih.hangsUp
  | turn label before stepped ih =>
    rcases cases_of_turn stepped with worker | call
    · exact ih.worker before.present worker
    · exact ih.call call

/-! ## Reads without bytes -/

/-- The reads that ended without bytes are those that were issued without room. -/
structure ZeroReads (e : Engine (Stream Pipe)) : Prop where
  reading : ∀ room, e.stage = .reading room → room ≠ 0
  nothing : ∀ room, e.stage = .completing room (.ok []) → room = 0
  counted : e.shared.tally.zeroByteReads + e.stage.emptyHanded = (issuedRooms e.trace).count 0

/-- A read without room is one that ends without bytes. -/
theorem emptyHanded_of_ended {stream : Stream Pipe} {room : Nat} {result : Except IoFailure Bytes}
    (isOpen : stream.isOpen = true) (ended : (Transport.poll stream room).result = some result) :
    (Stage.completing room result).emptyHanded = if room = 0 then 1 else 0 := by
  have nothing_iff : result = .ok [] ↔ room = 0 := by
    rw [← Stream.poll_eq_nothing_iff isOpen, ended, Option.some.injEq]
  split
  · next nowhere =>
    rw [nothing_iff.2 nowhere]
    rfl
  · next somewhere =>
    -- with room, a read fails or brings a byte
    match result with
    | .error cause => rfl
    | .ok [] => exact absurd (nothing_iff.1 rfl) somewhere
    | .ok (b :: bs) => rfl

/-- A read of the open pipe comes to nothing just where it had no room. -/
theorem ZeroReads.worker (zeros : ZeroReads e) (isOpen : e.stage.isLive = true →
    e.transport.isOpen = true) (step : WorkerStep e e') : ZeroReads e' := by
  obtain ⟨reading, nothing, counted⟩ := zeros
  cases step
  case issueEnded room polled result place unpermitted poll ended =>
    subst poll
    have isOpen := isOpen (by rw [place]; rfl)
    rw [place] at counted
    refine ⟨nofun, ?_, ?_⟩
    · rintro _ ⟨⟩
      exact (Stream.poll_eq_nothing_iff isOpen).1 ended
    · show e.shared.tally.zeroByteReads + (Stage.completing room result).emptyHanded = _
      rw [emptyHanded_of_ended isOpen ended]
      simp [← counted, List.count_cons]
  case issuePending room polled place unpermitted poll pending =>
    subst poll
    have isOpen := isOpen (by rw [place]; rfl)
    -- a read without room ends at once
    have somewhere : room ≠ 0 := fun nowhere =>
      nomatch pending.symm.trans ((Stream.poll_eq_nothing_iff isOpen).2 nowhere)
    rw [place] at counted
    refine ⟨?_, nofun, ?_⟩
    · rintro _ ⟨⟩
      exact somewhere
    · simpa [List.count_cons, somewhere] using counted
  case readEnded room polled result place unpermitted poll ended =>
    subst poll
    have isOpen := isOpen (by rw [place]; rfl)
    have somewhere := reading room place
    rw [place] at counted
    refine ⟨nofun, ?_, ?_⟩
    · rintro _ ⟨⟩
      exact (Stream.poll_eq_nothing_iff isOpen).1 ended
    · show e.shared.tally.zeroByteReads + (Stage.completing room result).emptyHanded = _
      rw [emptyHanded_of_ended isOpen ended, if_neg somewhere]
      simpa using counted
  all_goals
    have place := ‹e.stage = _›
    rw [place] at counted reading
    first
      | exact ⟨nofun, nofun, counted⟩
      | constructor <;> simp_all

theorem ZeroReads.call (zeros : ZeroReads e) (step : CallStep e e') : ZeroReads e' := by
  obtain ⟨reading, nothing, counted⟩ := zeros
  cases step <;> exact ⟨reading, nothing, counted⟩

/-- In every run over a pipe, the reads without bytes are those without room. -/
theorem Piped.zeroReads (piped : Piped sent gone e) : ZeroReads e := by
  induction piped with
  | started settings label pipe consumer spawned =>
    obtain ⟨-, -, registration, registrations, rfl⟩ := spawn_eq_ok spawned
    exact ⟨nofun, nofun, rfl⟩
  | writes bytes before ih => exact ⟨ih.reading, ih.nothing, ih.counted⟩
  | hangsUp before ih => exact ⟨ih.reading, ih.nothing, ih.counted⟩
  | turn label before stepped ih =>
    rcases cases_of_turn stepped with worker | call
    · exact ih.worker before.lossWatched.live worker
    · exact ih.call call

/-! ## At the hang-up -/

/-- No byte is lost, and nothing that is not the end is taken for it. -/
structure NothingLost (sent : Bytes) (gone : Bool) (e : Engine (Stream Pipe)) : Prop where
  /-- What was received is how the bytes begin that the pipe has accepted. -/
  received : receivedIn e.trace <+: sent
  counted : e.shared.tally.bytesReceived = (receivedIn e.trace).length
  /-- A read fails only after the writer has gone and every accepted byte was returned. -/
  failed : hasFailed e.trace = true → gone = true ∧ returnedIn e.trace = sent
  /-- The end is reported only after every accepted byte was received. -/
  told : ∀ fault ∈ e.faults, fault.tellsEnd = true → receivedIn e.trace = sent
  /-- A read that has ended well without bytes had no room for any. -/
  nothing : ∀ room, e.stage = .completing room (.ok []) → room = 0
  /-- The reads that were counted as empty, and the one at hand, are those without room. -/
  zeros : e.shared.tally.zeroByteReads + e.stage.emptyHanded = (issuedRooms e.trace).count 0
  stalling : 0 ∈ issuedRooms e.trace → e.settings.policy = .stall
  /-- After the end of the stream, or once it was shut, every read fails. -/
  refused : hasFailed e.trace = true ∨ hasShut e.trace = true ∨ e.shared.phase = .closed →
    ∀ room, (Transport.startRead e.transport room).result =
      some (.error ⟨.notConnected, e.transport.label ++ " is closed"⟩)

/-- Once a read has failed, no bytes are in hand any more. -/
theorem Piped.inHand_of_failed (piped : Piped sent gone e) (failed : hasFailed e.trace = true) :
    e.stage.inHand = [] := by
  have dead : e.stage.isLive ≠ true := by
    intro live
    obtain ⟨pipe, present⟩ := piped.present live
    cases present.symm.trans (piped.conveyed.drained failed).1
  cases place : e.stage with
  | completing room result =>
    cases result with
    | error cause => rfl
    | ok bytes => exact absurd (by rw [place]; rfl) dead
  | _ => rfl

/-- After a failed read or a shutdown the stream has no source. -/
theorem Piped.closed (piped : Piped sent gone e)
    (finished : hasFailed e.trace = true ∨ hasShut e.trace = true ∨ e.shared.phase = .closed) :
    e.transport.source = none := by
  rcases finished with failed | shut | closed
  · exact (piped.conveyed.drained failed).1
  · exact piped.conveyed.shut (.inl shut)
  · have isOver := piped.reachable.placed.closed_iff.1 closed
    refine piped.conveyed.shut (.inr ?_)
    cases place : e.stage <;> rw [place] at isOver <;> first | rfl | cases isOver

/-- A piped stream goes through the engine whole: whatever the consumers and the callers do, in
whatever portions the bytes come and whenever the writer goes away. -/
theorem nothing_lost_at_hang_up (piped : Piped sent gone e) : NothingLost sent gone e := by
  have kept := piped.reachable.streamKept (Stream.bounded Pipe.bounded)
  have conveyed := piped.conveyed
  have zeros := piped.zeroReads
  refine ⟨?_, kept.balanced.received, ?_, ?_, zeros.nothing, zeros.counted, ?_, ?_⟩
  · have returned := conveyed.returned
    rw [kept.returned] at returned
    exact (List.prefix_append _ _).trans returned
  · intro failed
    obtain ⟨-, all, last⟩ := conveyed.drained failed
    exact ⟨last, all⟩
  · intro fault among tells
    -- a report of the end follows the failed read that found it
    have failed := conveyed.told (endIsTold_of_mem (List.mem_reverse.1 among) tells)
    obtain ⟨-, all, -⟩ := conveyed.drained failed
    rw [kept.returned, piped.inHand_of_failed failed, List.append_nil] at all
    exact all
  · intro among
    obtain ⟨older, run⟩ := piped.reachable.run
    cases policy : e.settings.policy with
    -- a worker that discards has room for every read
    | stall => rfl
    | discard => exact absurd (run.roomy policy 0 among) (Nat.lt_irrefl 0)
  · intro finished room
    exact Stream.poll_of_closed (piped.closed finished) room

theorem Piped.run (piped : Piped sent gone e) (schedule : List Label) :
    Piped sent gone (e.run schedule) :=
  run_invariant (fun (_ : True) piped stepped => piped.turn _ stepped) (fun _ _ => trivial) piped

/-- Three of four bytes fit into the pipe before its writer goes away, and two of them fill the
buffer: the engine stalls until they are released, and receives the third before it tells of the
end. -/
theorem nothing_lost_at_hang_up_of_full_buffer :
    ∃ e : Engine (Stream Pipe), Piped [1, 2, 3] true e ∧
      e.faults = [.bufferExhausted 2,
        .readFailed "pipe" ⟨.unexpectedEnd, "pipe closed by peer"⟩, .disconnected "pipe"] ∧
      receivedIn e.trace = [1, 2, 3] ∧ issuedRooms e.trace = [1, 2, 0, 2] ∧
      NothingLost [1, 2, 3] true e := by
  have started : Piped [] false _ :=
    .started { capacity := 2 } "pipe" { capacity := 3 } none rfl
  have written : Piped [1, 2, 3] true _ := (started.writes [1, 2, 3, 4]).hangsUp
  have released : Piped [1, 2, 3] true (Engine.run _ _) :=
    written.run (List.replicate 11 .worker ++ [.enter (.consume 2), .call 0, .call 0])
  have ended : Piped [1, 2, 3] true (Engine.run _ _) := released.run (List.replicate 13 .worker)
  exact ⟨_, ended, by decide, by decide, by decide, nothing_lost_at_hang_up ended⟩

end Engine

end ByteTap
