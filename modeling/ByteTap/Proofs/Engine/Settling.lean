import ByteTap.Proofs.Engine.Counters
import ByteTap.Proofs.Engine.Policies
import ByteTap.Proofs.Engine.Release
import ByteTap.Proofs.Engine.Wake

/-!
# The loop settles

A round of the worker's loop can do without any of the steps of a script: a read without room takes
nothing, a stale permit only makes the worker look, and a full buffer is dropped.  What such rounds
take is counted apart from what is read.

* `readBound` bounds the reads that are still to come: what there is to read, the calls that are yet
  to release bytes, and what the place of the worker allows, which is never more than two;
* `toRest` is what every turn of the worker lowers and no other turn raises: `readBound` is its
  first digit, and the room that the worker has not seen, the permits and its place are the others;
* `loop_settles`: so an engine that is left alone comes to rest, after no more reads than that.
-/

namespace ByteTap

/-- A turn of a call that was made. -/
def Label.byCall : Label → Bool
  | call _ | expire _ | stir _ => true
  | _ => false

/-- The bytes of a step of a script. -/
@[simp] def ScriptStep.size : ScriptStep → Nat
  | data bytes => bytes.length
  | _ => 0

/-- The bytes of a script that are still to be read. -/
def Script.bytesLeft (s : Script) : Nat := s.leftover.length + (s.steps.map ScriptStep.size).sum

/-- The backlog of a script is made of steps and bytes, one of which a read takes that takes any. -/
theorem Script.backlog_eq (s : Script) :
    Transport.backlog s = s.steps.length + s.bytesLeft := by
  have steps (steps : List ScriptStep) :
      stepsBacklog steps = steps.length + (steps.map ScriptStep.size).sum := by
    induction steps with
    | nil => rfl
    | cons step rest ih =>
      cases step <;> simp [stepsBacklog, stepBacklog, ih] <;> omega
  show s.leftover.length + stepsBacklog s.steps = _
  rw [steps, bytesLeft]
  omega

/-- A closed transport fails every read, and stays closed. -/
theorem Script.poll_of_closed {s : Script} {room : Nat} {result : Except IoFailure Bytes}
    (closed : s.isOpen = false) (ended : (Transport.poll s room).result = some result) :
    (∃ cause, result = .error cause) ∧
      Transport.isOpen (Transport.poll s room).transport = false := by
  have answers := s.answers room
  have same := (sameScript_poll s room).isOpen
  rw [result_poll] at ended
  show (∃ cause, result = .error cause) ∧ (Transport.poll s room).transport.isOpen = false
  rw [same]
  generalize s.answer room = polled at answers ended
  cases answers with
  | gone closed cause =>
    cases ended
    exact ⟨⟨cause, rfl⟩, closed⟩
  | nowhere isOpen | leftover isOpen | data isOpen | zero isOpen | failure isOpen
  | disconnect isOpen | pending isOpen => cases closed.symm.trans isOpen

namespace Stage

/-- The reads that the worker may still issue from that place with nothing to read and no room to
see. -/
@[simp] def readsDue : Stage → Nat
  | starting | arming | reportingDrop _ | issuing _ => 1
  | completing room _ | reportingFailure room _ _ | settling room _ | backingOff _ room _ =>
      if room = 0 then 0 else 1
  | _ => 0

theorem readsDue_le_one (stage : Stage) : stage.readsDue ≤ 1 := by
  cases stage <;> simp only [Stage.readsDue] <;> first | omega | split <;> omega

/-- What lies ahead of the worker weighs less than room that it has not seen. -/
theorem ahead_le (stage : Stage) : stage.ahead ≤ 31 := by
  cases stage <;> simp only [Stage.ahead] <;> first | omega | split <;> omega

/-- The worker has a read in mind after which there was room. -/
@[simp] def hasSeenRoom : Stage → Bool
  | reportingFailure _ _ handled | settling _ handled => !handled.full
  | backingOff _ _ full => !full
  | _ => false

end Stage

namespace Call

/-- One for a call that is yet to release bytes. -/
def releases : Call → Nat
  | consuming _ | resetting => 1
  | _ => 0

/-- One for a call that may yet leave the worker a permit to look for room. -/
def permits : Call → Nat
  | consuming _ | resetting | permittingSpace _ => 1
  | _ => 0

theorem releases_le_one (call : Call) : call.releases ≤ 1 := by
  cases call <;> simp [releases]

theorem permits_le_one (call : Call) : call.permits ≤ 1 := by
  cases call <;> simp [permits]

@[simp] theorem releases_wake (call : Call) : call.wake.releases = call.releases := by
  cases call <;> rfl

@[simp] theorem permits_wake (call : Call) : call.wake.permits = call.permits := by
  cases call <;> rfl

theorem releases_waitOn (s : Shared) (timed : Bool) (seen : Nat) :
    (Engine.waitOn s timed seen).releases = 0 := by
  unfold Engine.waitOn
  split <;> rfl

theorem permits_waitOn (s : Shared) (timed : Bool) (seen : Nat) :
    (Engine.waitOn s timed seen).permits = 0 := by
  unfold Engine.waitOn
  split <;> rfl

end Call

namespace Engine

section

variable {τ : Type} {e e' : Engine τ}

/-! ## What the worker has in mind of the buffer -/

/-- Reads without room come of the policy to stall only, and room that was seen after a read is
still there. -/
structure Mindful (e : Engine τ) : Prop where
  policy : e.stage.lacksRoom = true → e.settings.policy = .stall
  seen : e.stage.hasSeenRoom = true → e.shared.buffer.isFull = false

/-- No call fills a buffer in which room was seen. -/
theorem Mindful.call (mindful : Mindful e) (step : CallStep e e') : Mindful e' := by
  obtain ⟨policy, seen⟩ := mindful
  cases step
  case consume count place => exact ⟨policy, fun has => Buffer.not_isFull_consume (seen has) count⟩
  case reset place => exact ⟨policy, fun has => Buffer.not_isFull_reset (seen has)⟩
  all_goals exact ⟨policy, seen⟩

variable [Transport τ] {arrives : τ → τ → Prop}

/-- A read without room comes of the stall, and what the worker sees of the buffer while it holds
the lock is true. -/
theorem Mindful.worker (mindful : Mindful e) (sized : Sized e) (step : WorkerStep e e') :
    Mindful e' := by
  obtain ⟨policy, seen⟩ := mindful
  cases step
  -- A read is armed without room only in the stall.
  case armRead place _ _ free =>
    have room := Buffer.spare_pos free
    exact ⟨fun lacks => absurd (beq_iff_eq.1 lacks) (by omega), nofun⟩
  case armDiscard place _ _ _ _ =>
    have room := sized.spare_reset_pos
    exact ⟨fun lacks => absurd (beq_iff_eq.1 lacks) (by omega), nofun⟩
  all_goals
    have place := ‹e.stage = _›
    rw [place] at policy seen
    constructor <;> simp_all

theorem Reachable.mindful (reachable : Reachable arrives e) : Mindful e := by
  induction reachable with
  | started settings transport consumer spawned =>
    obtain ⟨-, -, registration, registrations, rfl⟩ := spawn_eq_ok spawned
    exact ⟨nofun, nofun⟩
  | step before stepped ih =>
    rcases stepped.cases with worker | call | ⟨transport, -, rfl⟩
    · exact ih.worker before.sized worker
    · exact ih.call call
    · exact ⟨ih.policy, ih.seen⟩

end

/-! ## What is left to do -/

section

variable {τ : Type}

/-- The worker is with a read without room, or with what comes of it, and there is room that it has
not seen. -/
def unseenRoom (e : Engine τ) : Bool := e.stage.lacksRoom && !e.shared.buffer.isFull

/-- How many calls are yet to release bytes. -/
def releasesDue (e : Engine τ) : Nat := (e.calls.map Call.releases).sum

/-- How many calls may yet leave the worker a permit to look for room. -/
def permitsDue (e : Engine τ) : Nat := (e.calls.map Call.permits).sum

end

variable {e e' : Engine Script}

/-- The worker is with a failed read, and will find the transport gone. -/
def hasLost (e : Engine Script) : Bool := e.stage.handlesLoss && !Transport.isOpen e.transport

/-- The most reads that the worker still issues if no call releases anything. -/
def ownReads (e : Engine Script) : Nat :=
  Transport.backlog e.transport +
    if e.hasLost then 0 else e.stage.readsDue + e.unseenRoom.toNat

/-- The most reads that are still to come. -/
def readBound (e : Engine Script) : Nat := e.ownReads + e.releasesDue

/-- What the worker lowers by itself. -/
def ownRank (e : Engine Script) : Nat :=
  96 * e.ownReads + 32 * e.unseenRoom.toNat + 2 * e.spacePermit.toNat +
    9 * e.stage.isReading.toNat + e.stage.ahead

/-- What every turn of the worker lowers, and no other turn raises. -/
def toRest (e : Engine Script) : Nat := e.ownRank + 128 * e.releasesDue + 2 * e.permitsDue

/-- On top of steps and bytes the worker has two reads: the one that is due, and one for room that
it has not seen. -/
theorem ownReads_le (e : Engine Script) : e.ownReads ≤ Transport.backlog e.transport + 2 := by
  have due := e.stage.readsDue_le_one
  have unseen := Bool.toNat_le e.unseenRoom
  unfold ownReads
  split <;> omega

/-! ## One turn -/

/-- A read that has ended took from what there was to read, or it had no room, or it found the
transport gone. -/
theorem ownReads_of_ended {s : Script} {room : Nat} {result : Except IoFailure Bytes}
    (ended : (Transport.poll s room).result = some result)
    (place : e.stage = .completing room result)
    (after : e.transport = (Transport.poll s room).transport) :
    e.ownReads ≤ Transport.backlog s + e.unseenRoom.toNat := by
  have due : e.stage.readsDue ≤ 1 := by
    rw [place, Stage.readsDue]
    split <;> omega
  unfold ownReads
  rw [after]
  rcases Script.backlog_poll s room with fewer | ⟨same, closed | nowhere | pending⟩
  -- it took a step or a byte
  · split <;> omega
  -- the transport was closed: no read follows
  · obtain ⟨⟨cause, rfl⟩, gone⟩ := Script.poll_of_closed closed ended
    have lost : e.hasLost = true := by simp [hasLost, place, after, gone]
    rw [if_pos lost]
    omega
  -- it had no room: another one follows only where there is room by now
  · have none : e.stage.readsDue = 0 := by simp [place, nowhere]
    split <;> omega
  · cases ended.symm.trans pending

theorem ownReads_of_issuing {room : Nat} (place : e.stage = .issuing room) :
    e.ownReads = Transport.backlog e.transport + (1 + e.unseenRoom.toNat) := by
  simp [ownReads, hasLost, place]

theorem ownReads_of_reading {room : Nat} (place : e.stage = .reading room) :
    e.ownReads = Transport.backlog e.transport + e.unseenRoom.toNat := by
  simp [ownReads, hasLost, place]

/-- The worker has gone from a place with a read to another one with the same read. -/
structure SameRead (room : Nat) (e e' : Engine Script) : Prop where
  lacks : e.stage.lacksRoom = (room == 0)
  lacks' : e'.stage.lacksRoom = (room == 0)
  buffer : e'.shared.buffer = e.shared.buffer
  space : e'.spacePermit = e.spacePermit

theorem SameRead.unseenRoom {room : Nat} (same : SameRead room e e') :
    e'.unseenRoom = e.unseenRoom := by
  rw [Engine.unseenRoom, Engine.unseenRoom, same.lacks, same.lacks', same.buffer]

theorem SameRead.ownRank_lt {room : Nat} (same : SameRead room e e')
    (lower : 96 * e'.ownReads + 9 * e'.stage.isReading.toNat + e'.stage.ahead <
      96 * e.ownReads + 9 * e.stage.isReading.toNat + e.stage.ahead) :
    e'.ownRank < e.ownRank := by
  unfold ownRank
  rw [same.unseenRoom, same.space]
  omega

/-- Issuing a read costs one of the reads that are left. -/
theorem settles_of_issue {room : Nat} {result : Except IoFailure Bytes}
    (place : e.stage = .issuing room)
    (ended : (Transport.startRead e.transport room).result = some result)
    (place' : e'.stage = .completing room result)
    (after : e'.transport = (Transport.startRead e.transport room).transport)
    (same : SameRead room e e') (issued : issuedRooms e'.trace = room :: issuedRooms e.trace) :
    (issuedRooms e'.trace).length + e'.ownReads ≤ (issuedRooms e.trace).length + e.ownReads ∧
      e'.ownRank < e.ownRank := by
  have ended : (Transport.poll (Transport.issue e.transport room) room).result = some result :=
    ended
  have taken := ownReads_of_ended ended place' after
  rw [same.unseenRoom, Script.backlog_issue] at taken
  have before := ownReads_of_issuing place
  have ahead : e'.stage.ahead ≤ e.stage.ahead + 8 := by
    simp only [place, place', Stage.ahead]
    split <;> omega
  have elsewhere : e'.stage.isReading = false := by rw [place']; rfl
  refine ⟨by rw [issued, List.length_cons]; omega, same.ownRank_lt ?_⟩
  rw [elsewhere, Bool.toNat_false]
  omega

theorem settles_of_pending {room : Nat} (place : e.stage = .issuing room)
    (place' : e'.stage = .reading room)
    (after : e'.transport = (Transport.startRead e.transport room).transport)
    (same : SameRead room e e') (issued : issuedRooms e'.trace = room :: issuedRooms e.trace) :
    (issuedRooms e'.trace).length + e'.ownReads ≤ (issuedRooms e.trace).length + e.ownReads ∧
      e'.ownRank < e.ownRank := by
  have left : Transport.backlog e'.transport ≤ Transport.backlog e.transport := by
    rw [after]
    exact Script.backlog_poll_le _ room
  have later := ownReads_of_reading place'
  rw [same.unseenRoom] at later
  have before := ownReads_of_issuing place
  have ahead : e'.stage.ahead ≤ e.stage.ahead := by
    simp only [place, place', Stage.ahead]
    split <;> omega
  have reading : e'.stage.isReading.toNat ≤ 1 := Bool.toNat_le _
  refine ⟨by rw [issued, List.length_cons]; omega, same.ownRank_lt ?_⟩
  omega

/-- A read that was pending has cost its one already. -/
theorem settles_of_read {room : Nat} {result : Except IoFailure Bytes}
    (place : e.stage = .reading room)
    (ended : (Transport.poll e.transport room).result = some result)
    (place' : e'.stage = .completing room result)
    (after : e'.transport = (Transport.poll e.transport room).transport)
    (same : SameRead room e e') (issued : issuedRooms e'.trace = issuedRooms e.trace) :
    (issuedRooms e'.trace).length + e'.ownReads ≤ (issuedRooms e.trace).length + e.ownReads ∧
      e'.ownRank < e.ownRank := by
  have taken := ownReads_of_ended ended place' after
  rw [same.unseenRoom] at taken
  have before := ownReads_of_reading place
  have ahead : e'.stage.ahead ≤ e.stage.ahead + 8 := by
    simp only [place, place', Stage.ahead]
    split <;> omega
  have reading : e.stage.isReading = true := by rw [place]; rfl
  have elsewhere : e'.stage.isReading = false := by rw [place']; rfl
  refine ⟨by rw [issued]; omega, same.ownRank_lt ?_⟩
  rw [reading, elsewhere, Bool.toNat_false, Bool.toNat_true]
  omega

/-- A worker that goes on after a read without room has seen that there is room. -/
theorem Mindful.unseenRoom {room : Nat} {full : Bool} (mindful : Mindful e)
    (lacks : e.stage.lacksRoom = true) (seen : e.stage.hasSeenRoom = !full) (nowhere : room = 0)
    (onward : ¬ (room = 0 ∧ full = true ∧ e.settings.policy = .stall)) : e.unseenRoom = true := by
  have free : full = false := by
    cases full with
    | false => rfl
    | true => exact absurd ⟨nowhere, rfl, mindful.policy lacks⟩ onward
  have room := mindful.seen (by rw [seen, free]; rfl)
  rw [Engine.unseenRoom, lacks, room]
  rfl

/-- Back to arming a read, the worker pays for it with a read that had room, or with the room that
it has seen. -/
theorem settles_of_rearm (place' : e'.stage = .arming) (after : e'.transport = e.transport)
    (space : e'.spacePermit = e.spacePermit) (issued : e'.trace = e.trace ∨
      ∃ delay, e'.trace = .waited delay :: e.trace) (present : e.hasLost = false)
    (pays : e.stage.readsDue = 1 ∧ 26 < e.stage.ahead ∨ e.unseenRoom = true) :
    (issuedRooms e'.trace).length + e'.ownReads ≤ (issuedRooms e.trace).length + e.ownReads ∧
      e'.ownRank < e.ownRank := by
  have same : issuedRooms e'.trace = issuedRooms e.trace := by
    rcases issued with issued | ⟨delay, issued⟩ <;> rw [issued] <;> rfl
  have reads' : e'.ownReads = Transport.backlog e.transport + 1 := by
    simp [ownReads, hasLost, unseenRoom, place', after]
  have reads : e.ownReads =
      Transport.backlog e.transport + (e.stage.readsDue + e.unseenRoom.toNat) := by
    simp [ownReads, present]
  have rank' : e'.ownRank = 96 * e'.ownReads + 2 * e.spacePermit.toNat + 26 := by
    simp [ownRank, unseenRoom, place', space]
  rw [same, rank', ownRank]
  rcases pays with ⟨due, further⟩ | seen
  -- nothing else is owed, and the places behind are more than those ahead
  · omega
  · rw [seen, Bool.toNat_true] at reads ⊢
    omega

/-- A read that delivered bytes had room. -/
theorem RoomKept.somewhere {room : Nat} {bytes : Bytes} (kept : RoomKept e)
    (place : e.stage = .completing room (.ok bytes)) (nonempty : bytes ≠ []) : room ≠ 0 := by
  have fits := kept.inHand room (by rw [place]; rfl)
  rw [place] at fits
  have some : 0 < bytes.length := List.length_pos_iff.2 nonempty
  have most : bytes.length ≤ room := fits
  omega

/-- A turn of the worker lowers its rank, and a read that it issues was among those left. -/
theorem WorkerStep.settles_own (kept : RoomKept e) (mindful : Mindful e) (sized : Sized e)
    (step : WorkerStep e e') :
    (issuedRooms e'.trace).length + e'.ownReads ≤ (issuedRooms e.trace).length + e.ownReads ∧
      e'.ownRank < e.ownRank := by
  cases step
  case issueEnded room polled result place unpermitted poll ended =>
    subst poll
    exact settles_of_issue place ended rfl rfl ⟨by rw [place]; rfl, rfl, rfl, rfl⟩ (by simp)
  case issuePending room polled place unpermitted poll pending =>
    subst poll
    exact settles_of_pending place rfl rfl ⟨by rw [place]; rfl, rfl, rfl, rfl⟩ (by simp)
  case readEnded room polled result place unpermitted poll ended =>
    subst poll
    exact settles_of_read place ended rfl rfl ⟨by rw [place]; rfl, rfl, rfl, rfl⟩ (by simp)
  -- Bytes that were handled had room, so that one read more is due after them.
  case completeUnheard room bytes place nonempty nobody =>
    have somewhere := kept.somewhere place nonempty
    have lacks := beq_false_of_ne somewhere
    simp [ownRank, ownReads, unseenRoom, hasLost, place, somewhere, lacks]
  case completeHeard reply place nonempty heard replied returned =>
    have somewhere := kept.somewhere place nonempty
    have lacks := beq_false_of_ne somewhere
    simp [ownRank, ownReads, unseenRoom, hasLost, place, somewhere, lacks]
  case completePanicked reply payload place nonempty heard replied panicked =>
    have somewhere := kept.somewhere place nonempty
    have lacks := beq_false_of_ne somewhere
    simp [ownRank, ownReads, unseenRoom, hasLost, place, somewhere, lacks]
    omega
  -- Arming takes the read that is due; without room there is only the stall.
  case armRead place running unasked free =>
    have room : (e.shared.buffer.spare == 0) = false :=
      beq_false_of_ne (Nat.ne_of_gt (Buffer.spare_pos free))
    simp [ownRank, ownReads, unseenRoom, hasLost, place, room]
    split <;> omega
  case armStall place running unasked full policy =>
    simp [ownRank, ownReads, unseenRoom, hasLost, place, full]
  case armDiscard place running unasked full policy =>
    have room : (e.shared.buffer.reset.spare == 0) = false :=
      beq_false_of_ne (Nat.ne_of_gt sized.spare_reset_pos)
    simp [ownRank, ownReads, unseenRoom, hasLost, place, room]
  -- The worker rearms after a read that had room, or sees the room that was made since.
  case settleRearm room handled place running unfailed onward =>
    have present : e.hasLost = false := by simp [hasLost, place, unfailed]
    refine settles_of_rearm rfl rfl rfl (.inl rfl) present ?_
    by_cases nowhere : room = 0
    · have lacks : e.stage.lacksRoom = true := by simp [place, nowhere]
      exact .inr (mindful.unseenRoom lacks (by rw [place]; rfl) nowhere onward)
    · exact .inl (by simp [place, nowhere])
  case backoffRearm delay room full place onward =>
    have present : e.hasLost = false := by simp [hasLost, place]
    refine settles_of_rearm rfl rfl rfl (.inr ⟨delay, rfl⟩) present ?_
    by_cases nowhere : room = 0
    · have lacks : e.stage.lacksRoom = true := by simp [place, nowhere]
      exact .inr (mindful.unseenRoom lacks (by rw [place]; rfl) nowhere onward)
    · exact .inl (by simp [place, nowhere])
  case recheckFree place free =>
    have present : e.hasLost = false := by simp [hasLost, place]
    exact settles_of_rearm rfl rfl rfl (.inl rfl) present (.inr (by simp [unseenRoom, place, free]))
  -- A stale permit pays for one look.
  case stallWoken place unpermitted permit =>
    simp [ownRank, ownReads, unseenRoom, hasLost, place, permit]
  -- What follows a read depends on how it ended.
  case settleFailed room handled place running failed isOpen =>
    simp [ownRank, ownReads, unseenRoom, hasLost, place, failed, isOpen]
    split <;> omega
  case settleLost room handled place running failed lost =>
    simp [ownRank, ownReads, unseenRoom, hasLost, place, failed, lost]
    split <;> omega
  case settleStall room handled place running unfailed empty full policy reported =>
    simp [ownRank, ownReads, unseenRoom, hasLost, place, unfailed, empty]
  case settleFull room handled place running unfailed empty full policy unreported =>
    simp [ownRank, ownReads, unseenRoom, hasLost, place, unfailed, empty]
  case backoffStall delay room full place empty isFull policy reported =>
    simp [ownRank, ownReads, unseenRoom, hasLost, place, empty]
  case backoffFull delay room full place empty isFull policy unreported =>
    simp [ownRank, ownReads, unseenRoom, hasLost, place, empty]
  case shut place shut _ =>
    subst shut
    simp [ownRank, ownReads, unseenRoom, hasLost, place]
  case shutFailed place shut _ =>
    subst shut
    simp [ownRank, ownReads, unseenRoom, hasLost, place]
  -- The others go one place on, or leave the loop.
  all_goals
    have place := ‹e.stage = _›
    simp [ownRank, ownReads, unseenRoom, hasLost, place]
  all_goals (repeat' split) <;> omega

/-- Waking calls changes nothing of what they are worth. -/
theorem sum_of_woken {worth : Call → Nat} (asleep : ∀ call : Call, worth call.wake = worth call)
    {calls calls' : List Call} (woken : calls' = calls ∨ calls' = calls.map Call.wake) :
    (calls'.map worth).sum = (calls.map worth).sum := by
  rcases woken with rfl | rfl
  · rfl
  · rw [List.map_map]
    exact congrArg List.sum (List.map_congr_left fun call _ => asleep call)

theorem releasesDue_of_woken (woken : e'.calls = e.calls ∨ e'.calls = e.calls.map Call.wake) :
    e'.releasesDue = e.releasesDue :=
  sum_of_woken Call.releases_wake woken

theorem permitsDue_of_woken (woken : e'.calls = e.calls ∨ e'.calls = e.calls.map Call.wake) :
    e'.permitsDue = e.permitsDue :=
  sum_of_woken Call.permits_wake woken

/-- A call that moves gives at least what the worker gains by it. -/
theorem settles_of_call {i : Nat} {old new : Call} (place : e.calls[i]? = some old)
    (moved : e'.calls = e.calls.set i new)
    (reads : e'.ownReads + new.releases ≤ e.ownReads + old.releases)
    (rank : e'.ownRank + 128 * new.releases + 2 * new.permits ≤
      e.ownRank + 128 * old.releases + 2 * old.permits) :
    e'.readBound ≤ e.readBound ∧ e'.toRest ≤ e.toRest := by
  have releases := Call.sum_map_set Call.releases place new
  have permits := Call.sum_map_set Call.permits place new
  rw [← moved] at releases permits
  unfold readBound toRest releasesDue permitsDue
  omega

/-- Whoever makes room lets the worker see it once at most. -/
theorem settles_of_release {i : Nat} {old new : Call} (place : e.calls[i]? = some old)
    (moved : e'.calls = e.calls.set i new) (due : old.releases = 1) (done : new.releases = 0)
    (permits : new.permits ≤ old.permits) (stage : e'.stage = e.stage)
    (transport : e'.transport = e.transport) (space : e'.spacePermit = e.spacePermit) :
    e'.readBound ≤ e.readBound ∧ e'.toRest ≤ e.toRest := by
  have unseen := Bool.toNat_le e'.unseenRoom
  -- room that was made may be unseen, and is paid for by the call
  have reads : e'.ownReads ≤ e.ownReads + 1 := by
    unfold ownReads hasLost
    rw [stage, transport]
    split <;> omega
  have rank : e'.ownRank ≤ e.ownRank + 128 := by
    unfold ownRank
    rw [stage, space]
    omega
  exact settles_of_call place moved (by omega) (by omega)

/-- Whoever leaves the permit lets the worker look once at most. -/
theorem settles_of_permit {i : Nat} {old new : Call} (place : e.calls[i]? = some old)
    (moved : e'.calls = e.calls.set i new) (releases : new.releases = old.releases)
    (due : old.permits = 1) (done : new.permits = 0) (stage : e'.stage = e.stage)
    (reads : e'.ownReads = e.ownReads) (unseen : e'.unseenRoom = e.unseenRoom) :
    e'.readBound ≤ e.readBound ∧ e'.toRest ≤ e.toRest := by
  have permit := Bool.toNat_le e'.spacePermit
  have rank : e'.ownRank ≤ e.ownRank + 2 := by
    unfold ownRank
    rw [stage, reads, unseen]
    omega
  exact settles_of_call place moved (by omega) (by omega)

/-- A call that releases nothing and permits nothing is worth nothing. -/
theorem settles_of_idle {i : Nat} {old new : Call} (place : e.calls[i]? = some old)
    (moved : e'.calls = e.calls.set i new) (releases : new.releases = old.releases)
    (permits : new.permits = old.permits) (reads : e'.ownReads = e.ownReads)
    (rank : e'.ownRank = e.ownRank) : e'.readBound ≤ e.readBound ∧ e'.toRest ≤ e.toRest :=
  settles_of_call place moved (by omega) (by omega)

theorem settles_of_wakeAll
    (settles : e'.readBound ≤ e.wakeAll.readBound ∧ e'.toRest ≤ e.wakeAll.toRest) :
    e'.readBound ≤ e.readBound ∧ e'.toRest ≤ e.toRest := by
  have releases : e.wakeAll.releasesDue = e.releasesDue := releasesDue_of_woken (.inr rfl)
  have permits : e.wakeAll.permitsDue = e.permitsDue := permitsDue_of_woken (.inr rfl)
  unfold readBound toRest at settles ⊢
  rwa [releases, permits] at settles

/-- No call that was made adds a read or a turn to those that are left. -/
theorem CallStep.settles (step : CallStep e e') (same : e'.calls.length = e.calls.length) :
    e'.readBound ≤ e.readBound ∧ e'.toRest ≤ e.toRest := by
  cases step
  case enter request => simp at same
  case consume i count place =>
    refine settles_of_release place rfl rfl ?_ ?_ rfl rfl rfl <;> split <;>
      simp [Call.releases, Call.permits]
  case reset i place => exact settles_of_release place rfl rfl rfl (Nat.le_refl 1) rfl rfl rfl
  case permitSpace i answer place =>
    exact settles_of_permit place rfl rfl rfl rfl rfl rfl rfl
  case announceStop i place =>
    have woken : e.wakeAll.calls[i]? = some .announcingStop := by
      simp [wakeAll, place, Call.wake]
    exact settles_of_wakeAll (settles_of_idle woken rfl rfl rfl rfl rfl)
  case beginWait i timed place =>
    exact settles_of_idle place rfl (Call.releases_waitOn _ _ _) (Call.permits_waitOn _ _ _) rfl rfl
  case resumeWait i seen timed place =>
    exact settles_of_idle place rfl (Call.releases_waitOn _ _ _) (Call.permits_waitOn _ _ _) rfl rfl
  case stir i call place =>
    exact settles_of_idle place rfl call.releases_wake call.permits_wake rfl rfl
  all_goals
    have place := ‹e.calls[_]? = some _›
    exact settles_of_idle place rfl rfl rfl rfl rfl

/-- A turn of the worker uses up one of those that are left, and a read that it issues, too. -/
theorem WorkerStep.settles (reachable : Reachable Script.Pushed e) (step : WorkerStep e e') :
    (issuedRooms e'.trace).length + e'.readBound ≤ (issuedRooms e.trace).length + e.readBound ∧
      e'.toRest < e.toRest := by
  obtain ⟨reads, rank⟩ :=
    step.settles_own (reachable.streamKept Script.bounded).room reachable.mindful reachable.sized
  unfold readBound toRest
  rw [releasesDue_of_woken step.calls_eq, permitsDue_of_woken step.calls_eq]
  omega

/-! ## Left alone -/

/-- The owner makes no call any more.  Calls that were made go on, and the worker and time have
taken that many turns since `e`. -/
inductive Unattended (e : Engine Script) : Nat → Engine Script → Prop
  | refl : Unattended e 0 e
  | own {n : Nat} {later next : Engine Script} (label : Label) (before : Unattended e n later)
      (own : label.byWorker = true) (stepped : later.next label = some next) :
      Unattended e (n + 1) next
  | call {n : Nat} {later next : Engine Script} (label : Label) (before : Unattended e n later)
      (made : label.byCall = true) (stepped : later.next label = some next) :
      Unattended e n next

/-- The turn of a call is a step of it, and makes no other. -/
theorem CallStep.of_byCall {label : Label} (made : label.byCall = true)
    (stepped : e.next label = some e') : CallStep e e' ∧ e'.calls.length = e.calls.length := by
  have others : label.byWorker = false := by cases label <;> first | rfl | cases made
  refine ⟨.of_others others stepped, calls_length_of_turn ?_ stepped⟩
  rintro request rfl
  cases made

variable {n : Nat} {later : Engine Script}

theorem Unattended.reachable (unattended : Unattended e n later)
    (reachable : Reachable Script.Pushed e) : Reachable Script.Pushed later := by
  induction unattended with
  | refl => exact reachable
  | own label before own stepped ih => exact ih.step (.turn label stepped)
  | call label before made stepped ih => exact ih.step (.turn label stepped)

/-- However long an engine is left alone, the reads and the turns were among those left at first. -/
theorem Unattended.settles (unattended : Unattended e n later)
    (reachable : Reachable Script.Pushed e) :
    (issuedRooms later.trace).length + later.readBound ≤
        (issuedRooms e.trace).length + e.readBound ∧
      n + later.toRest ≤ e.toRest := by
  induction unattended with
  | refl => exact ⟨Nat.le_refl _, by omega⟩
  | own label before own stepped ih =>
    have step : WorkerStep _ _ := .of_byWorker own stepped
    obtain ⟨reads, rank⟩ := step.settles (before.reachable reachable)
    omega
  -- the trace of a call has no read in it
  | @call n later next label before made stepped ih =>
    obtain ⟨step, same⟩ := CallStep.of_byCall made stepped
    obtain ⟨reads, rank⟩ := step.settles same
    have issued : issuedRooms next.trace = issuedRooms later.trace := by
      cases step <;> rfl
    rw [issued]
    omega

/-- Left to the worker and to time, an engine comes to rest. -/
theorem Reachable.comes_to_rest (reachable : Reachable Script.Pushed e) :
    ∃ schedule : List Label, (∀ label ∈ schedule, label.byWorker = true) ∧
      Rests (e.run schedule) := by
  -- the worker and time lower the rank, so they cannot go on for ever
  obtain ⟨schedule, alone, rests, -⟩ := rests_of_rank toRest
    (fun reachable alone stepped => ⟨reachable.step (.turn _ stepped),
      (WorkerStep.settles reachable (.of_byWorker alone stepped)).2⟩) reachable
  exact ⟨schedule, alone, rests⟩

/-- Where the worker rests, it is parked or gone. -/
theorem Rests.parked_or_gone (rests : Rests e) : e.stage.isPark = true ∨ e.stage = .exited := by
  by_cases gone : e.stage = .exited
  · exact .inr gone
  · exact .inl ((work_eq_none_iff.1 rests.worker).parked gone).1

/-- How an engine settles once its owner makes no call any more.  A call that was made and has yet
to take the lock to release bytes counts as if it were made later. -/
structure Settles (e : Engine Script) : Prop where
  /-- There are no more reads than steps and bytes to read, two, and such calls. -/
  reads : ∀ n later, Unattended e n later →
    (issuedRooms later.trace).length ≤ (issuedRooms e.trace).length +
      (e.transport.steps.length + e.transport.bytesLeft + 2 + e.releasesDue)
  /-- So where no such call is left, at most two reads come on top of the steps and bytes. -/
  readsAlone : (∀ call ∈ e.calls, call.releases = 0) → ∀ n later, Unattended e n later →
    (issuedRooms later.trace).length ≤ (issuedRooms e.trace).length +
      (e.transport.steps.length + e.transport.bytesLeft + 2)
  /-- The worker and time take a bounded number of turns, in whatever order the turns come. -/
  turns : ∀ n later, Unattended e n later →
    n ≤ 96 * (e.transport.steps.length + e.transport.bytesLeft + 3) + 130 * e.calls.length
  /-- So wherever the engine is meanwhile, the worker parks or is gone in the end. -/
  rests : ∀ n later, Unattended e n later →
    ∃ schedule : List Label, (∀ label ∈ schedule, label.byWorker = true) ∧
      Rests (later.run schedule) ∧
      ((later.run schedule).stage.isPark = true ∨ (later.run schedule).stage = .exited)

/-- Where no call is worth more than one, all are worth no more than their number. -/
theorem sum_le_length {worth : Call → Nat} (most : ∀ call : Call, worth call ≤ 1)
    (calls : List Call) : (calls.map worth).sum ≤ calls.length := by
  induction calls with
  | nil => exact Nat.le_refl 0
  | cons call others ih =>
    have one := most call
    simp only [List.map_cons, List.sum_cons, List.length_cons]
    omega

/-- What is left to do is bounded by the script and the calls alone. -/
theorem toRest_le (e : Engine Script) :
    e.toRest ≤ 96 * (Transport.backlog e.transport + 3) + 130 * e.calls.length := by
  have reads : e.ownReads ≤ Transport.backlog e.transport + 2 := e.ownReads_le
  have ahead := e.stage.ahead_le
  have unseen := Bool.toNat_le e.unseenRoom
  have permit := Bool.toNat_le e.spacePermit
  have reading := Bool.toNat_le e.stage.isReading
  have releases : e.releasesDue ≤ e.calls.length := sum_le_length Call.releases_le_one e.calls
  have permits : e.permitsDue ≤ e.calls.length := sum_le_length Call.permits_le_one e.calls
  unfold toRest ownRank
  omega

/-- Whatever the script, the policy, the consumer and the permits: an engine whose owner makes no
call any more comes to rest, after a number of reads that the script alone bounds. -/
theorem loop_settles (reachable : Reachable Script.Pushed e) : Settles e := by
  have left := e.transport.backlog_eq
  have most := e.ownReads_le
  refine ⟨?_, ?_, ?_, ?_⟩
  · intro n later unattended
    have reads := (unattended.settles reachable).1
    unfold readBound at reads
    omega
  · intro none n later unattended
    have reads := (unattended.settles reachable).1
    have due : e.releasesDue = 0 := List.sum_eq_zero_iff_forall_eq_nat.2 (by simpa using none)
    unfold readBound at reads
    omega
  · intro n later unattended
    have turns := (unattended.settles reachable).2
    have most := e.toRest_le
    omega
  · intro n later unattended
    obtain ⟨schedule, alone, rests⟩ := (unattended.reachable reachable).comes_to_rest
    exact ⟨schedule, alone, rests, rests.parked_or_gone⟩

/-- A stalled engine whose buffer was just emptied, with two bytes left over and three more steps to
read, one of them a failure and one a disconnect. -/
theorem loop_settles_of_emptied_stall :
    ∃ start e : Engine Script,
      spawn { capacity := 2 }
        { steps := [.data [1, 2, 3, 4], .zero, .failure .timedOut, .disconnect] } none = .ok start ∧
      e = start.run (List.replicate 11 .worker ++ [.enter .reset, .call 0]) ∧
      e.stage.isStalled = true ∧ e.unseenRoom = true ∧ e.releasesDue = 0 ∧
      e.transport.steps.length = 3 ∧ e.transport.bytesLeft = 2 ∧
      Reachable Script.Pushed e ∧ Settles e := by
  have started : Reachable Script.Pushed _ :=
    .started { capacity := 2 }
      { steps := [.data [1, 2, 3, 4], .zero, .failure .timedOut, .disconnect] } none rfl
  have emptied := started.steps
    (steps_run _ (List.replicate 11 .worker ++ [.enter .reset, .call 0]))
  exact ⟨_, _, rfl, rfl, rfl, rfl, rfl, rfl, rfl, emptied, loop_settles emptied⟩

end Engine

end ByteTap
