import ByteTap.Proofs.Engine.AfterStop
import ByteTap.Proofs.Engine.Stall
import ByteTap.Proofs.Engine.Stream

/-!
# Reads over a full buffer

A read is as long as there was room when it was armed, and under the policy to stall it has no room
at all where the buffer was full (`Run.armedRoom`).  Between two such reads bytes are received, and
bytes are released from the time that the first is armed to the time that the second is
(`Run.turnover`); a caller may release them before the first read is issued
(`released_before_issue`).  The worker counts and reports a full buffer on its way into the stall,
and only there; it comes that way again only after it has seen room, since it remembers that it
reported (`Reachable.remembers`, `Run.episodes`).

What is said of the last time a read was armed, and of how often the worker stalled, is said of the
states that a run went through (`Run`).
-/

namespace ByteTap

/-- How often the full buffer was reported. -/
@[simp] def exhaustionReports : List Event → Nat
  | [] => 0
  | .reported (.bufferExhausted _) :: older => exhaustionReports older + 1
  | _ :: older => exhaustionReports older

@[simp] theorem exhaustionReports_noted (notes : List String) (older : List Event) :
    exhaustionReports ((notes.map Event.noted).reverse ++ older) = exhaustionReports older :=
  eq_of_noted (fun _ _ => rfl) notes older

namespace Stage

/-- The worker is about to arm a read. -/
@[simp] def isArming : Stage → Bool
  | arming => true
  | _ => false

/-- A read was armed and not issued yet. -/
@[simp] def awaitsIssue : Stage → Bool
  | reportingDrop _ | issuing _ => true
  | _ => false

/-- The worker is parked on the full buffer, or looks whether it is still full. -/
@[simp] def inStall : Stage → Bool
  | stalled | rechecking => true
  | _ => false

/-- The worker is parked on the full buffer. -/
@[simp] def isStalled : Stage → Bool
  | stalled => true
  | _ => false

/-- The full buffer was counted and not yet reported. -/
@[simp] def isCounted : Stage → Bool
  | reportingFull => true
  | _ => false

/-- The worker is with a zero-length read that found the buffer full, or with what comes of it. -/
@[simp] def onFullRead : Stage → Bool
  | starting | arming | reportingDrop _ => false
  | issuing room | reading room | completing room _ => room == 0
  | reportingFailure room _ handled | settling room handled => room == 0 && handled.full
  | backingOff _ room full => room == 0 && full
  | _ => true

theorem isArming_of_onFullRead {stage : Stage} (place : stage.onFullRead = true) :
    stage.isArming = false := by
  cases stage with
  | arming => cases place
  | _ => rfl

end Stage

namespace Buffer

theorem spare_pos {b : Buffer} (free : b.isFull = false) : 0 < b.spare := by
  have le := b.occupied_le_capacity
  have free : b.occupied ≠ b.capacity := by simpa [isFull] using free
  show 0 < b.capacity - b.occupied
  omega

theorem isFull_of_spare {b : Buffer} (nothing : b.spare = 0) : b.isFull = true := by
  cases full : b.isFull with
  | true => rfl
  | false => exact absurd nothing (Nat.pos_iff_ne_zero.1 (spare_pos full))

theorem not_isFull_of_spare {b : Buffer} (some : 0 < b.spare) : b.isFull = false := by
  have some : 0 < b.capacity - b.occupied := some
  show (b.occupied == b.capacity) = false
  rw [beq_eq_false_iff_ne]
  omega

theorem isFull_extend {b : Buffer} (full : b.isFull = true) (bytes : Bytes) :
    (b.extend bytes).isFull = true := by
  have least := isFull_iff.1 full
  have most := (b.extend bytes).occupied_le_capacity
  rw [isFull_iff]
  show b.occupied + (b.accepted bytes).length = b.capacity
  have : b.occupied + (b.accepted bytes).length ≤ b.capacity := most
  omega

theorem not_isFull_consume {b : Buffer} (free : b.isFull = false) (n : Nat) :
    (b.consume n).isFull = false := by
  have le := b.occupied_le_capacity
  have free : b.occupied ≠ b.capacity := by simpa [isFull] using free
  show (b.occupied - b.released n == b.capacity) = false
  rw [beq_eq_false_iff_ne]
  omega

theorem not_isFull_reset {b : Buffer} (free : b.isFull = false) : b.reset.isFull = false := by
  have le := b.occupied_le_capacity
  have free : b.occupied ≠ b.capacity := by simpa [isFull] using free
  show (0 == b.capacity) = false
  rw [beq_eq_false_iff_ne]
  omega

end Buffer

namespace Engine

variable {τ : Type} [Transport τ] {arrives : τ → τ → Prop} {e e' : Engine τ}

/-! ## The size of the buffer, and what is in it -/

/-- The buffer is of the size in the settings, which is not zero. -/
structure Sized (e : Engine τ) : Prop where
  capacity : e.shared.buffer.capacity = e.settings.capacity.toNat
  positive : 0 < e.settings.capacity.toNat

omit [Transport τ] in
theorem Sized.spare_reset_pos (sized : Sized e) : 0 < e.shared.buffer.reset.spare := by
  show 0 < e.shared.buffer.capacity - 0
  have size := sized.capacity
  have positive := sized.positive
  omega

/-- In every reachable engine the buffer has the size that its settings ask for. -/
theorem Reachable.sized (reachable : Reachable arrives e) : Sized e := by
  refine reachable.invariant ?_ ?_ ?_ ?_
  · intro settings transport consumer e spawned
    obtain ⟨valid, -, registration, registrations, rfl⟩ := spawn_eq_ok spawned
    refine ⟨rfl, ?_⟩
    unfold Settings.defect? at valid
    split at valid
    · cases valid
    · next nonzero =>
      show 0 < settings.capacity.toNat
      refine Nat.pos_of_ne_zero fun zero => nonzero ?_
      exact UInt64.toNat_inj.1 zero
  · intro e e' sized step
    obtain ⟨capacity, positive⟩ := sized
    cases step <;> exact ⟨capacity, positive⟩
  · intro e e' sized step
    obtain ⟨capacity, positive⟩ := sized
    cases step <;> exact ⟨capacity, positive⟩
  · exact fun sized _ => ⟨sized.capacity, sized.positive⟩

omit [Transport τ] in
/-- Bytes that were released stay released. -/
theorem Transfer.released_le (transfer : Transfer e e') :
    e.shared.tally.bytesReleased ≤ e'.shared.tally.bytesReleased := by
  cases transfer with
  | none buffer received released history => omega
  | emptied event buffer received released told history => omega
  | consumed count buffer received released history => omega
  | delivered room bytes place nonempty buffer received released history =>
    exact Nat.le_of_eq released.symm
  | shown room bytes number reply place nonempty buffer received released history =>
    rw [released]
    exact Nat.le_add_right _ _

/-- What was received is in the buffer or was released. -/
def Conserved (e : Engine τ) : Prop :=
  e.shared.buffer.occupied + e.shared.tally.bytesReleased = e.shared.tally.bytesReceived

omit [Transport τ] in
theorem Conserved.release {count : Nat} (conserved : Conserved e)
    (buffer : e'.shared.buffer = e.shared.buffer.consume count)
    (received : e'.shared.tally.bytesReceived = e.shared.tally.bytesReceived)
    (released : e'.shared.tally.bytesReleased =
      e.shared.tally.bytesReleased + e.shared.buffer.released count) : Conserved e' := by
  have most : e.shared.buffer.released count ≤ e.shared.buffer.occupied := Nat.min_le_right _ _
  have left : e'.shared.buffer.occupied =
      e.shared.buffer.occupied - e.shared.buffer.released count := by rw [buffer]; rfl
  unfold Conserved at *
  omega

omit [Transport τ] in
theorem Conserved.receive (conserved : Conserved e) (bytes : Bytes) :
    Conserved (e.receive bytes) := by
  show e.shared.buffer.occupied + (e.shared.buffer.accepted bytes).length
    + e.shared.tally.bytesReleased
      = e.shared.tally.bytesReceived + (e.shared.buffer.accepted bytes).length
  unfold Conserved at conserved
  omega

omit [Transport τ] in
/-- No step loses a byte. -/
theorem Conserved.transfer (conserved : Conserved e) (transfer : Transfer e e') :
    Conserved e' := by
  cases transfer with
  | none buffer received released history =>
    unfold Conserved
    rw [buffer, received, released]
    exact conserved
  | emptied event buffer received released told history =>
    have nothing : e'.shared.buffer.occupied = 0 := by rw [buffer]; rfl
    unfold Conserved at *
    omega
  | consumed count buffer received released history =>
    exact conserved.release buffer received released
  | delivered room bytes place nonempty buffer received released history =>
    unfold Conserved
    rw [buffer, received, released]
    exact conserved.receive bytes
  | shown room bytes number reply place nonempty buffer received released history =>
    have grown := conserved.receive bytes
    cases panicked : reply.panic.isSome with
    -- a consumer that panics releases nothing
    | true =>
      rw [panicked] at buffer released
      unfold Conserved
      rw [buffer, received, released]
      exact grown
    | false =>
      rw [panicked] at buffer released
      exact grown.release buffer received released

/-- In every reachable engine what was received is in the buffer or was released. -/
theorem Reachable.conserved (reachable : Reachable arrives e) : Conserved e := by
  refine reachable.invariant ?_ ?_ ?_ ?_
  · intro settings transport consumer e spawned
    obtain ⟨-, -, registration, registrations, rfl⟩ := spawn_eq_ok spawned
    rfl
  · exact fun conserved step => conserved.transfer step.transfer
  · exact fun conserved step => conserved.transfer step.transfer
  · exact fun conserved _ => conserved

/-! ## The states of a run -/

/-- The states that a run went through, newest first. -/
inductive Run (arrives : τ → τ → Prop) : List (Engine τ) → Prop
  | started {e : Engine τ} (settings : Settings) (transport : τ) (consumer : Option Consumer)
      (spawned : spawn settings transport consumer = .ok e) : Run arrives [e]
  | step {e e' : Engine τ} {older : List (Engine τ)} (before : Run arrives (e :: older))
      (stepped : Step arrives e e') : Run arrives (e' :: e :: older)

/-- What holds of a started engine and is kept by every step, given the states before. -/
theorem Run.invariant {motive : Engine τ → List (Engine τ) → Prop}
    (started : ∀ {settings : Settings} {transport : τ} {consumer : Option Consumer}
      {e : Engine τ}, spawn settings transport consumer = .ok e → motive e [])
    (step : ∀ {e e' : Engine τ} {older : List (Engine τ)}, Run arrives (e :: older) →
      motive e older → Step arrives e e' → motive e' (e :: older))
    {older : List (Engine τ)} (run : Run arrives (e :: older)) : motive e older := by
  generalize states : e :: older = all at run
  induction run generalizing e older with
  | started settings transport consumer spawned =>
    cases states
    exact started spawned
  | step before stepped ih =>
    cases states
    exact step before (ih rfl) stepped

theorem Run.reachable {older : List (Engine τ)} (run : Run arrives (e :: older)) :
    Reachable arrives e := by
  refine run.invariant (motive := fun e _ => Reachable arrives e) ?_ ?_
  · exact fun spawned => .started _ _ _ spawned
  · exact fun _ reachable stepped => .step reachable stepped

theorem Reachable.run (reachable : Reachable arrives e) : ∃ older, Run arrives (e :: older) := by
  induction reachable with
  | started settings transport consumer spawned =>
    exact ⟨[], .started settings transport consumer spawned⟩
  | step _ stepped ih =>
    obtain ⟨older, run⟩ := ih
    exact ⟨_, .step run stepped⟩

/-- What a run went through leads to where it came. -/
theorem Run.steps_of_mem {older : List (Engine τ)} (run : Run arrives (e :: older)) :
    ∀ past ∈ e :: older, Steps arrives past e := by
  refine run.invariant (motive := fun e older => ∀ past ∈ e :: older, Steps arrives past e) ?_ ?_
  · intro settings transport consumer e spawned past among
    obtain rfl := List.mem_singleton.1 among
    exact .refl
  · intro e e' older before reached stepped past among
    rcases List.mem_cons.1 among with rfl | among
    · exact .refl
    · exact (reached past among).tail stepped

theorem Run.last_step {older : List (Engine τ)} (run : Run arrives (e' :: e :: older)) :
    Run arrives (e :: older) ∧ Step arrives e e' := by
  cases run with
  | step before stepped => exact ⟨before, stepped⟩

theorem Run.before {newer older : List (Engine τ)} (run : Run arrives (newer ++ e :: older)) :
    Run arrives (e :: older) := by
  induction newer with
  | nil => exact run
  | cons last newer ih =>
    refine ih ?_
    generalize states : last :: newer ++ e :: older = all at run
    cases run with
    | started settings transport consumer spawned => simp at states
    | step before stepped =>
      have rest : newer ++ e :: older = _ := (List.cons.inj states).2
      rw [rest]
      exact before

/-- The state right after the worker last armed a read, or left its loop instead. -/
def lastArmed : List (Engine τ) → Option (Engine τ)
  | e' :: e :: older =>
      if e.stage.isArming && !e'.stage.isArming then some e' else lastArmed (e :: older)
  | _ => none

/-- The worker goes into the stall, from elsewhere than the stall itself. -/
def entersStall (e e' : Engine τ) : Bool := e'.stage.isStalled && !e.stage.inStall

/-- How often the worker went into the stall. -/
def stallings : List (Engine τ) → Nat
  | e' :: e :: older => stallings (e :: older) + (e.entersStall e').toNat
  | _ => 0

/-! ## The length of a read -/

/-- A step of the worker that arms a read gives it the room that there is, and every other step
hands the room on or leaves no read at hand. -/
theorem WorkerStep.room (sized : Sized e) (step : WorkerStep e e') :
    (e.stage.isArming = true ∧ e'.stage.isArming = false ∧
      ∀ room, e'.stage.room? = some room →
        room = e'.shared.buffer.spare ∧ (room = 0 → e'.settings.policy = .stall)) ∨
    e.stage.isArming = false ∧ (e'.stage.room? = none ∨ e'.stage.room? = e.stage.room?) := by
  cases step
  case armStopped place _ => exact .inl ⟨by rw [place]; rfl, rfl, by rintro _ ⟨⟩⟩
  case armAsked place _ _ => exact .inl ⟨by rw [place]; rfl, rfl, by rintro _ ⟨⟩⟩
  case armRead place _ _ free =>
    refine .inl ⟨by rw [place]; rfl, rfl, ?_⟩
    rintro _ ⟨⟩
    refine ⟨rfl, fun nothing => ?_⟩
    exact absurd nothing (Nat.pos_iff_ne_zero.1 (Buffer.spare_pos free))
  case armStall place _ _ full policy =>
    refine .inl ⟨by rw [place]; rfl, rfl, ?_⟩
    rintro _ ⟨⟩
    refine ⟨?_, fun _ => policy⟩
    show 0 = e.shared.buffer.capacity - e.shared.buffer.occupied
    have full := Buffer.isFull_iff.1 full
    omega
  case armDiscard place _ _ _ _ =>
    refine .inl ⟨by rw [place]; rfl, rfl, ?_⟩
    rintro _ ⟨⟩
    refine ⟨rfl, fun nothing => ?_⟩
    exact absurd nothing (Nat.pos_iff_ne_zero.1 sized.spare_reset_pos)
  all_goals
    have place := ‹e.stage = _›
    refine .inr ⟨by rw [place]; rfl, ?_⟩
    simp [place]

/-- The read at hand has the room there was when it was armed. -/
def ArmedRoom (e : Engine τ) (older : List (Engine τ)) : Prop :=
  ∀ room, e.stage.room? = some room → ∃ armed, lastArmed (e :: older) = some armed ∧
    armed.shared.buffer.capacity = e.settings.capacity.toNat ∧
    room = armed.shared.buffer.spare ∧ (room = 0 → e.settings.policy = .stall)

omit [Transport τ] in
/-- The room stays what it was while the read is at hand. -/
theorem ArmedRoom.kept {older : List (Engine τ)} (armed : ArmedRoom e older)
    (arms : (e.stage.isArming && !e'.stage.isArming) = false)
    (settings : e'.settings = e.settings)
    (room : e'.stage.room? = none ∨ e'.stage.room? = e.stage.room?) :
    ArmedRoom e' (e :: older) := by
  intro r here
  rcases room with nothing | same
  · cases nothing.symm.trans here
  · obtain ⟨state, last, sized, found, policy⟩ := armed r (same.symm.trans here)
    refine ⟨state, ?_, by rwa [settings], found, by rwa [settings]⟩
    rw [lastArmed, arms]
    exact last

/-- In every run a read has the room that arming it found. -/
theorem Run.armedRoom {older : List (Engine τ)} (run : Run arrives (e :: older)) :
    ArmedRoom e older := by
  refine run.invariant ?_ ?_
  · intro settings transport consumer e spawned
    obtain ⟨-, -, registration, registrations, rfl⟩ := spawn_eq_ok spawned
    rintro _ ⟨⟩
  · intro e e' older before armed stepped
    rcases stepped.cases with step | step | ⟨transport, -, rfl⟩
    · rcases step.room before.reachable.sized with ⟨arming, passed, room⟩ | ⟨elsewhere, room⟩
      · intro r here
        -- this step arms the read, so its room is that of the new state
        obtain ⟨found, policy⟩ := room r here
        refine ⟨_, ?_, (before.reachable.step stepped).sized.capacity, found, policy⟩
        rw [lastArmed, arming, passed]
        rfl
      · exact armed.kept (by rw [elsewhere]; rfl) step.settings_same room
    · obtain ⟨stage, -, settings, -, -⟩ := step.same_worker
      exact armed.kept (by rw [stage]; simp) settings (.inr (by rw [stage]))
    · exact armed.kept (by simp) rfl (.inr rfl)

/-- A read is issued: the transport has it in flight or has ended it, and nothing has changed behind
the lock. -/
structure IssuesRead (room : Nat) (e e' : Engine τ) : Prop where
  place : e.stage = .issuing room
  after : e'.stage = .reading room ∨ ∃ result, e'.stage = .completing room result
  shared : e'.shared = e.shared
  history : issuedRooms e'.trace = room :: issuedRooms e.trace

theorem WorkerStep.issues (step : WorkerStep e e') :
    issuedRooms e'.trace = issuedRooms e.trace ∨ ∃ room, IssuesRead room e e' := by
  cases step
  case issueEnded room _ result place _ _ _ =>
    exact .inr ⟨room, place, .inr ⟨result, rfl⟩, rfl, by simp⟩
  case issuePending room _ place _ _ _ => exact .inr ⟨room, place, .inl rfl, rfl, by simp⟩
  case completeHeard reply _ _ _ _ _ => cases reply.stops <;> exact .inl rfl
  case completePanicked reply _ _ _ _ _ _ => cases reply.stops <;> exact .inl rfl
  all_goals exact .inl (by simp)

theorem Step.issues (step : Step arrives e e') :
    issuedRooms e'.trace = issuedRooms e.trace ∨ ∃ room, IssuesRead room e e' := by
  rcases step.cases with worker | call | ⟨transport, -, rfl⟩
  · exact worker.issues
  · cases call <;> exact .inl rfl
  · exact .inl rfl

theorem Step.issuesRead {room : Nat} (step : Step arrives e e')
    (issued : issuedRooms e'.trace = room :: issuedRooms e.trace) : IssuesRead room e e' := by
  rcases step.issues with same | ⟨new, issues⟩
  · simp [same] at issued
  · obtain rfl : new = room := (List.cons.inj (issues.history.symm.trans issued)).1
    exact issues

/-- Under the policy to discard no read is without room. -/
theorem Run.roomy {older : List (Engine τ)} (run : Run arrives (e :: older)) :
    e.settings.policy = .discard → ∀ room ∈ issuedRooms e.trace, 0 < room := by
  refine run.invariant (motive := fun e _ => e.settings.policy = .discard →
    ∀ room ∈ issuedRooms e.trace, 0 < room) ?_ ?_
  · intro settings transport consumer e spawned
    obtain ⟨-, -, registration, registrations, rfl⟩ := spawn_eq_ok spawned
    rintro - _ ⟨⟩
  · intro e e' older before roomy stepped policy room among
    rw [stepped.settings_same] at policy
    rcases stepped.issues with same | ⟨new, issues⟩
    · exact roomy policy room (same ▸ among)
    · rw [issues.history] at among
      rcases List.mem_cons.1 among with rfl | old
      · obtain ⟨armed, -, -, -, stalls⟩ := before.armedRoom room (by rw [issues.place]; rfl)
        refine Nat.pos_of_ne_zero fun nothing => ?_
        cases policy.symm.trans (stalls nothing)
      · exact roomy policy room old

/-! ## Between two reads without room -/

/-- A read that awaits its issue was there before the step, or is armed by it. -/
theorem WorkerStep.arms_or_awaits (step : WorkerStep e e')
    (awaits : e'.stage.awaitsIssue = true) :
    e.stage.isArming = true ∨ e.stage.awaitsIssue = true := by
  cases step
  case armRead place _ _ _ => exact .inl (by rw [place]; rfl)
  case armStall place _ _ _ _ => exact .inl (by rw [place]; rfl)
  case armDiscard place _ _ _ _ => exact .inl (by rw [place]; rfl)
  case reportDrop place => exact .inr (by rw [place]; rfl)
  all_goals cases awaits

omit [Transport τ] in
/-- While a read awaits its issue nothing is received. -/
theorem Transfer.received_of_awaits (transfer : Transfer e e')
    (awaits : e.stage.awaitsIssue = true) :
    e'.shared.tally.bytesReceived = e.shared.tally.bytesReceived := by
  cases transfer with
  | none buffer received released history => exact received
  | emptied event buffer received released told history => exact received
  | consumed count buffer received released history => exact received
  | delivered room bytes place nonempty buffer received released history =>
    rw [place] at awaits
    cases awaits
  | shown room bytes number reply place nonempty buffer received released history =>
    rw [place] at awaits
    cases awaits

/-- The read that awaits its issue in `e` was armed in `armed`, later than every state of the run in
which none did. -/
structure ArmedIn (arrives : τ → τ → Prop) (armed e : Engine τ) (older : List (Engine τ)) :
    Prop where
  last : lastArmed (e :: older) = some armed
  awaits : armed.stage.awaitsIssue = true
  among : armed ∈ e :: older
  received : e.shared.tally.bytesReceived = armed.shared.tally.bytesReceived
  since : ∀ past ∈ e :: older, past.stage.awaitsIssue = false → Steps arrives past armed

/-- A read that awaits its issue was armed in the run, and nothing was received since. -/
theorem Run.armedIn {older : List (Engine τ)} (run : Run arrives (e :: older)) :
    e.stage.awaitsIssue = true → ∃ armed, ArmedIn arrives armed e older := by
  refine run.invariant (motive := fun e older => e.stage.awaitsIssue = true →
    ∃ armed, ArmedIn arrives armed e older) ?_ ?_
  · intro settings transport consumer e spawned awaits
    obtain ⟨-, -, registration, registrations, rfl⟩ := spawn_eq_ok spawned
    cases awaits
  · intro e e' older before ih stepped awaits
    -- The read is armed by this step, or it awaited its issue before.
    have earlier : e.stage.isArming = true ∨ e.stage.awaitsIssue = true := by
      rcases stepped.cases with worker | call | ⟨transport, -, rfl⟩
      · exact worker.arms_or_awaits awaits
      · exact .inr (call.same_worker.stage ▸ awaits)
      · exact .inr awaits
    rcases earlier with arming | awaited
    · have passed : e'.stage.isArming = false := by
        cases place : e'.stage <;> simp_all
      have last : lastArmed (e' :: e :: older) = some e' := by rw [lastArmed, arming, passed]; rfl
      refine ⟨e', last, awaits, List.mem_cons_self, rfl, ?_⟩
      exact fun past among _ => (before.step stepped).steps_of_mem past among
    · obtain ⟨armed, last, armedAwaits, among, received, since⟩ := ih awaited
      have elsewhere : e.stage.isArming = false := by
        cases place : e.stage <;> simp_all
      have still : lastArmed (e' :: e :: older) = some armed := by
        rw [lastArmed, elsewhere]
        exact last
      refine ⟨armed, still, armedAwaits,
        List.mem_cons_of_mem e' among,
        (stepped.transfer.received_of_awaits awaited).trans received, ?_⟩
      intro past past_among free
      rcases List.mem_cons.1 past_among with rfl | older_among
      · cases awaits.symm.trans free
      · exact since past older_among free

/-- Since the counter of released bytes stood at `released`, it has moved on, or the worker is still
with the read that found the buffer full, which was issued. -/
structure Turned (released : Nat) (e : Engine τ) : Prop where
  policy : e.settings.policy = .stall
  moved : released < e.shared.tally.bytesReleased ∨
    released = e.shared.tally.bytesReleased ∧ e.shared.buffer.isFull = true ∧
      e.stage.onFullRead = true ∧ e.stage.awaitsIssue = false

/-- From a read that found the buffer full, the worker goes on only after bytes were released. -/
theorem WorkerStep.turns (policy : e.settings.policy = .stall)
    (full : e.shared.buffer.isFull = true) (place : e.stage.onFullRead = true)
    (step : WorkerStep e e') :
    e.shared.tally.bytesReleased < e'.shared.tally.bytesReleased ∨
      e.shared.tally.bytesReleased = e'.shared.tally.bytesReleased ∧
        e'.shared.buffer.isFull = true ∧ e'.stage.onFullRead = true := by
  cases step
  case completeUnheard room bytes here nonempty nobody =>
    rw [here] at place
    exact .inr ⟨rfl, Buffer.isFull_extend full bytes, by
      simpa [Buffer.isFull_extend full bytes] using place⟩
  case completePanicked room bytes _ _ _ here _ _ _ _ =>
    exact .inr ⟨rfl, Buffer.isFull_extend full bytes, rfl⟩
  case completeHeard room bytes registration reply here nonempty heard replied returned =>
    rw [here] at place
    -- the reply may release something, and otherwise the buffer is as full as before
    by_cases nothing : (e.shared.buffer.extend bytes).released reply.amount = 0
    · have still : ((e.shared.buffer.extend bytes).consume reply.amount).isFull = true :=
        (Buffer.isFull_consume_of_nothing nothing).trans (Buffer.isFull_extend full bytes)
      exact .inr ⟨by simp [nothing], still, by simpa [still] using place⟩
    · exact .inl (by simp; omega)
  -- The worker rearms only if the read had room, or if it sees room.
  case settleRearm here _ _ onward => simp_all
  case backoffRearm here onward => simp_all
  case recheckFree here free => simp_all
  all_goals
    have here := ‹e.stage = _›
    rw [here] at place
    simp_all

omit [Transport τ] in
/-- A call releases bytes, or leaves the buffer full. -/
theorem CallStep.turns (sized : Sized e) (full : e.shared.buffer.isFull = true)
    (step : CallStep e e') :
    e.shared.tally.bytesReleased < e'.shared.tally.bytesReleased ∨
      e.shared.tally.bytesReleased = e'.shared.tally.bytesReleased ∧
        e'.shared.buffer.isFull = true := by
  cases step
  case consume count place =>
    by_cases nothing : e.shared.buffer.released count = 0
    · exact .inr ⟨by simp [nothing], (Buffer.isFull_consume_of_nothing nothing).trans full⟩
    · exact .inl (by simp; omega)
  case reset place =>
    have full := Buffer.isFull_iff.1 full
    have := sized.capacity
    have := sized.positive
    exact .inl (by simp; omega)
  all_goals exact .inr ⟨rfl, full⟩

/-- Before the next read is armed, bytes are released. -/
theorem Turned.step {released : Nat} (sized : Sized e) (turned : Turned released e)
    (step : Step arrives e e') : Turned released e' := by
  obtain ⟨policy, moved⟩ := turned
  refine ⟨by rw [step.settings_same, policy], ?_⟩
  rcases moved with moved | ⟨rfl, full, place, issued⟩
  · exact .inl (Nat.lt_of_lt_of_le moved step.transfer.released_le)
  · rcases step.cases with worker | call | ⟨transport, -, rfl⟩
    · rcases worker.turns policy full place with more | ⟨same, still, place'⟩
      · exact .inl more
      · refine .inr ⟨same, still, place', ?_⟩
        refine Bool.eq_false_iff.2 fun awaits => ?_
        rcases worker.arms_or_awaits awaits with arming | awaited
        · cases arming.symm.trans (Stage.isArming_of_onFullRead place)
        · cases issued.symm.trans awaited
    · rcases call.turns sized full with more | ⟨same, still⟩
      · exact .inl more
      · exact .inr ⟨same, still, by rw [call.same_worker.stage, place],
          by rw [call.same_worker.stage, issued]⟩
    · exact .inr ⟨rfl, full, place, issued⟩

theorem Turned.steps {released : Nat} (reachable : Reachable arrives e) (turned : Turned released e)
    (steps : Steps arrives e e') : Turned released e' := by
  induction steps with
  | refl => exact turned
  | tail before step ih => exact ih.step (reachable.steps before).sized step

/-- A read without room that awaits its issue was armed on a full buffer: what had been received was
either released by then or filled the buffer. -/
theorem Run.armedFull {older : List (Engine τ)} (run : Run arrives (e :: older))
    (place : e.stage = .issuing 0) :
    e.settings.policy = .stall ∧ ∃ armed, ArmedIn arrives armed e older ∧
      e.shared.tally.bytesReceived =
        e.settings.capacity.toNat + armed.shared.tally.bytesReleased := by
  obtain ⟨armed, inRun⟩ := run.armedIn (by rw [place]; rfl)
  obtain ⟨_, last, size, nothing, policy⟩ := run.armedRoom 0 (by rw [place]; rfl)
  cases last.symm.trans inRun.last
  refine ⟨policy rfl, armed, inRun, ?_⟩
  -- in the state in which the read was armed, all that had been received filled the buffer or was
  -- out
  obtain ⟨newer, tail, split⟩ := List.append_of_mem inRun.among
  rw [split] at run
  have conserved : Conserved armed := run.before.reachable.conserved
  have full := Buffer.isFull_iff.1 (Buffer.isFull_of_spare nothing.symm)
  have received := inRun.received
  unfold Conserved at conserved
  omega

/-- Between two reads without room bytes are received, and bytes are released from the time that the
first is armed to the time that the second is. -/
theorem Run.turnover {older between before : List (Engine τ)} {issued reader : Engine τ}
    (run : Run arrives (e :: older)) (split : e :: older = between ++ issued :: reader :: before)
    (first : IssuesRead 0 reader issued) (second : e.stage = .issuing 0) :
    issued.shared.tally.bytesReceived < e.shared.tally.bytesReceived ∧
      ∃ armed rearmed, lastArmed (reader :: before) = some armed ∧
        lastArmed (e :: older) = some rearmed ∧
        armed.shared.tally.bytesReleased < rearmed.shared.tally.bytesReleased := by
  have past : Run arrives (issued :: reader :: before) := (split ▸ run).before
  obtain ⟨reading, stepped⟩ := past.last_step
  obtain ⟨policy, armed, armedIn, atFirst⟩ := reading.armedFull first.place
  obtain ⟨-, rearmed, rearmedIn, atSecond⟩ := run.armedFull second
  have among : issued ∈ e :: older := by simp [split]
  have settings : e.settings = reader.settings :=
    (run.steps_of_mem issued among).settings_same.trans stepped.settings_same
  have unarmed : issued.stage.awaitsIssue = false := by
    rcases first.after with after | ⟨result, after⟩ <;> rw [after] <;> rfl
  -- What was released before the first read was issued counts: when armed, the buffer was full.
  have turned : Turned armed.shared.tally.bytesReleased issued := by
    refine ⟨by rw [stepped.settings_same, policy], ?_⟩
    have conserved : Conserved reader := reading.reachable.conserved
    have size := reading.reachable.sized.capacity
    have most := reader.shared.buffer.occupied_le_capacity
    unfold Conserved at conserved
    rw [first.shared]
    by_cases full : reader.shared.buffer.occupied = reader.shared.buffer.capacity
    · refine .inr ⟨by omega, Buffer.isFull_iff.2 full, ?_, unarmed⟩
      rcases first.after with after | ⟨result, after⟩ <;> rw [after] <;> rfl
    · exact .inl (by omega)
  have released : armed.shared.tally.bytesReleased < rearmed.shared.tally.bytesReleased := by
    have since := turned.steps past.reachable (rearmedIn.since issued among unarmed)
    rcases since.moved with moved | ⟨-, -, -, elsewhere⟩
    · exact moved
    · cases rearmedIn.awaits.symm.trans elsewhere
  refine ⟨?_, armed, rearmed, armedIn.last, rearmedIn.last, released⟩
  rw [settings] at atSecond
  rw [first.shared]
  omega

/-! ## One report for each stall -/

/-- What the worker keeps in mind of a full buffer that it has reported: it is in the stall, or it
has seen room and arms a read, or it is on its way out.  Nothing is dropped under the policy to
stall. -/
structure Remembers (e : Engine τ) : Prop where
  reported : e.exhaustionReported = true → e.stage.stalls = true ∨
    e.stage.isArming = true ∧ e.shared.buffer.isFull = false ∨ e.stage.isLeaving = true
  dropping : ∀ room, e.stage = .reportingDrop room → e.settings.policy = .discard

/-- The worker forgets a full buffer that it has reported only when it arms a read with room. -/
theorem Remembers.worker (remembers : Remembers e) (step : WorkerStep e e') : Remembers e' := by
  obtain ⟨reported, dropping⟩ := remembers
  refine ⟨?_, ?_⟩
  · cases step <;> simp_all [Stage.stalls, Stage.isLeaving]
  · cases step <;> simp_all

omit [Transport τ] in
/-- No call fills the buffer again that the worker has seen with room. -/
theorem Remembers.call (remembers : Remembers e) (step : CallStep e e') : Remembers e' := by
  obtain ⟨reported, dropping⟩ := remembers
  refine ⟨?_, ?_⟩
  · cases step
    -- Room that the worker has seen can only become more.
    case consume count place =>
      intro already
      rcases reported already with stalls | ⟨arming, free⟩ | leaving
      · exact .inl stalls
      · exact .inr (.inl ⟨arming, Buffer.not_isFull_consume free count⟩)
      · exact .inr (.inr leaving)
    case reset place =>
      intro already
      rcases reported already with stalls | ⟨arming, free⟩ | leaving
      · exact .inl stalls
      · exact .inr (.inl ⟨arming, Buffer.not_isFull_reset free⟩)
      · exact .inr (.inr leaving)
    all_goals exact reported
  · cases step <;> exact dropping

theorem Reachable.remembers (reachable : Reachable arrives e) : Remembers e := by
  refine reachable.invariant ?_ Remembers.worker Remembers.call ?_
  · intro settings transport consumer e spawned
    obtain ⟨-, -, registration, registrations, rfl⟩ := spawn_eq_ok spawned
    exact ⟨by rintro ⟨⟩, by rintro _ ⟨⟩⟩
  · exact fun remembers _ => ⟨remembers.reported, remembers.dropping⟩

/-- Under the policy to stall, a step that leads into the stall reports the full buffer, and the
step before it has counted the full buffer.  No other step counts or reports it. -/
theorem WorkerStep.episode (policy : e.settings.policy = .stall) (remembers : Remembers e)
    (step : WorkerStep e e') :
    e'.shared.tally.exhaustionEvents + e.stage.isCounted.toNat =
        e.shared.tally.exhaustionEvents + e'.stage.isCounted.toNat + (e.entersStall e').toNat ∧
      exhaustionReports e'.trace = exhaustionReports e.trace + (e.entersStall e').toNat := by
  obtain ⟨reported, dropping⟩ := remembers
  have stall : e.settings.policy ≠ .discard := by rw [policy]; decide
  cases step
  case armDiscard discard => exact absurd discard stall
  case reportDrop room place => exact absurd (dropping room place) stall
  -- What was reported is remembered, so nothing else leads into the stall.
  case settleStall running _ _ _ _ already =>
    have place := ‹e.stage = _›
    simp_all [Stage.stalls, Stage.isLeaving]
  case backoffStall place _ _ _ already =>
    simp_all [Stage.stalls, Stage.isLeaving]
  case completeHeard reply place _ _ _ _ => cases reply.stops <;> simp [place, entersStall]
  case completePanicked reply _ place _ _ _ _ => cases reply.stops <;> simp [place, entersStall]
  all_goals
    have place := ‹e.stage = _›
    simp [place, entersStall]

/-- The full buffer was counted and reported once for every time the worker stalled; it is counted
first. -/
def Episodes (e : Engine τ) (older : List (Engine τ)) : Prop :=
  e.settings.policy = .stall →
    e.shared.tally.exhaustionEvents = stallings (e :: older) + e.stage.isCounted.toNat ∧
      exhaustionReports e.trace = stallings (e :: older)

omit [Transport τ] in
/-- A step that leaves the worker in its place adds no stall. -/
theorem Episodes.still {older : List (Engine τ)} (episodes : Episodes e older)
    (stage : e'.stage = e.stage) (settings : e'.settings = e.settings)
    (events : e'.shared.tally.exhaustionEvents = e.shared.tally.exhaustionEvents)
    (reports : exhaustionReports e'.trace = exhaustionReports e.trace) :
    Episodes e' (e :: older) := by
  have outside : e.entersStall e' = false := by
    rw [entersStall, stage]
    cases e.stage <;> rfl
  intro policy
  rw [settings] at policy
  rw [stallings, outside, stage, events, reports]
  exact episodes policy

/-- In every run under the policy to stall, each stall was counted and reported once. -/
theorem Run.episodes {older : List (Engine τ)} (run : Run arrives (e :: older)) :
    Episodes e older := by
  refine run.invariant ?_ ?_
  · intro settings transport consumer e spawned
    obtain ⟨-, -, registration, registrations, rfl⟩ := spawn_eq_ok spawned
    exact fun _ => ⟨rfl, rfl⟩
  · intro e e' older before episodes stepped
    rcases stepped.cases with worker | call | ⟨transport, -, rfl⟩
    · intro policy
      rw [worker.settings_same] at policy
      -- each way into the stall counts once and reports once
      obtain ⟨events, reports⟩ := episodes policy
      obtain ⟨counted, told⟩ := worker.episode policy before.reachable.remembers
      rw [stallings]
      exact ⟨by omega, by omega⟩
    · obtain ⟨stage, -, settings, -, -⟩ := call.same_worker
      refine episodes.still stage settings ?_ ?_ <;> cases call <;> rfl
    · exact episodes.still rfl rfl rfl rfl

/-! ## The discipline -/

/-- What a run that came to `e` through the states `older` says of reads and of the full buffer. -/
structure Disciplined (arrives : τ → τ → Prop) (e : Engine τ) (older : List (Engine τ)) :
    Prop where
  /-- A read that is issued is as long as there was room when it was armed. -/
  length : ∀ e' room, Step arrives e e' → issuedRooms e'.trace = room :: issuedRooms e.trace →
    ∃ armed, lastArmed (e :: older) = some armed ∧
      room = e.settings.capacity.toNat - armed.shared.buffer.occupied ∧
      (room = 0 → e.settings.policy = .stall ∧ armed.shared.buffer.isFull = true)
  roomy : e.settings.policy = .discard → ∀ room ∈ issuedRooms e.trace, 0 < room
  /-- Where a read without room is issued next and one was issued before, bytes were received since
  then, and bytes were released from the time that the earlier was armed to the time that the later
  was.  That may be before the earlier is issued. -/
  turnover : ∀ e' between issued reader before, Step arrives e e' →
    issuedRooms e'.trace = 0 :: issuedRooms e.trace →
    e :: older = between ++ issued :: reader :: before →
    issuedRooms issued.trace = 0 :: issuedRooms reader.trace →
      issued.shared.tally.bytesReceived < e.shared.tally.bytesReceived ∧
        ∃ armed rearmed, lastArmed (reader :: before) = some armed ∧
          lastArmed (e :: older) = some rearmed ∧
          armed.shared.tally.bytesReleased < rearmed.shared.tally.bytesReleased
  episodes : Episodes e older

/-- Whatever is released, shown and read in whatever order: every read is as long as there was room
when it was armed, reads without room do not follow each other before bytes went out and in, and
each stall is counted and reported once. -/
theorem read_length_discipline {older : List (Engine τ)} (run : Run arrives (e :: older)) :
    Disciplined arrives e older := by
  refine ⟨?_, run.roomy, ?_, run.episodes⟩
  · intro e' room stepped issued
    have issues := stepped.issuesRead issued
    obtain ⟨armed, last, size, found, policy⟩ := run.armedRoom room (by rw [issues.place]; rfl)
    refine ⟨armed, last, size ▸ found, fun nothing => ⟨policy nothing, ?_⟩⟩
    exact Buffer.isFull_of_spare (found.symm.trans nothing)
  · intro e' between issued reader before stepped second split first
    obtain ⟨-, earlier⟩ := Run.last_step (split ▸ run).before
    exact run.turnover split (earlier.issuesRead first) (stepped.issuesRead second).place

/-- A caller makes room too early; the worker stalls later, is woken by that permit, and stalls
on. -/
theorem read_length_discipline_of_stale_permit :
    ∃ (start stalled : Engine Script) (older : List (Engine Script)),
      spawn { capacity := 2 } { steps := [.data [1], .data [2, 3]] } none = .ok start ∧
      stalled = start.run (List.replicate 5 .worker ++ .enter (.consume 1) :: .call 0 :: .call 0 ::
        List.replicate 12 .worker) ∧
      Run Script.Pushed (stalled :: older) ∧ issuedRooms stalled.trace = [0, 2, 2] ∧
      stalled.stage.isStalled = true ∧ stallings (stalled :: older) = 1 ∧
      Disciplined Script.Pushed stalled older := by
  have started : Reachable Script.Pushed _ :=
    .started { capacity := 2 } { steps := [.data [1], .data [2, 3]] } none rfl
  have stalled := started.steps (steps_run _ (List.replicate 5 .worker ++
    .enter (.consume 1) :: .call 0 :: .call 0 :: List.replicate 12 .worker))
  obtain ⟨older, run⟩ := stalled.run
  have disciplined := read_length_discipline run
  refine ⟨_, _, older, rfl, rfl, run, by decide, rfl, ?_, disciplined⟩
  exact (disciplined.episodes rfl).2.symm

/-- The worker arms a read on a full buffer of one byte, and a caller releases that byte. -/
def releasedMeanwhile : List Label :=
  List.replicate 6 .worker ++ [.enter (.consume 1), .call 0, .call 0]

/-- The byte is released when the read is issued, and the next read without room is issued before
another byte is released. -/
theorem exists_releasedMeanwhile :
    ∃ start e issued reader e' : Engine Script,
      spawn { capacity := 1 } { steps := [.data [1], .data [2]] } none = .ok start ∧
      e = start.run releasedMeanwhile ∧ issued = e.run [.worker] ∧
      reader = issued.run (List.replicate 7 .worker) ∧ e' = reader.run [.worker] ∧
      Reachable Script.Pushed e ∧ Step Script.Pushed e issued ∧
      issuedRooms issued.trace = 0 :: issuedRooms e.trace ∧
      Steps Script.Pushed issued reader ∧ Step Script.Pushed reader e' ∧
      issuedRooms e'.trace = 0 :: issuedRooms reader.trace ∧
      e.shared.tally.bytesReleased = 1 ∧ e'.shared.tally.bytesReleased = 1 := by
  have started : Reachable Script.Pushed _ :=
    .started { capacity := 1 } { steps := [.data [1], .data [2]] } none rfl
  refine ⟨_, _, _, _, _, rfl, rfl, rfl, rfl, rfl, started.steps (steps_run _ _), step_run ?_, ?_,
    steps_run _ _, step_run ?_, ?_, ?_, ?_⟩
  all_goals decide +kernel

/-- Bytes need not be released between the issues of two reads without room: a caller releases the
only byte of a full buffer after the worker has armed such a read and before it issues it. -/
theorem released_before_issue :
    ¬ ∀ e issued reader e' : Engine Script, Reachable Script.Pushed e →
      Step Script.Pushed e issued → issuedRooms issued.trace = 0 :: issuedRooms e.trace →
      Steps Script.Pushed issued reader →
      Step Script.Pushed reader e' → issuedRooms e'.trace = 0 :: issuedRooms reader.trace →
        e.shared.tally.bytesReleased < e'.shared.tally.bytesReleased := by
  intro always
  obtain ⟨_, e, issued, reader, e', -, -, -, -, -, reachable, first, firstRoom, onward, second,
    secondRoom, before, after⟩ := exists_releasedMeanwhile
  have between := always e issued reader e' reachable first firstRoom onward second secondRoom
  omega

end Engine

end ByteTap
