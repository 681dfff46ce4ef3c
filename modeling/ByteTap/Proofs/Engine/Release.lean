import ByteTap.Proofs.Engine.FullBuffer
import Mathlib.Algebra.GroupWithZero.Nat

/-!
# Where released bytes went

Bytes leave the buffer for four reasons: a caller consumes them, a caller resets the buffer, a
consumer is done with them, or the full buffer is dropped under the policy to discard.  Each of the
four ways keeps the counter of released bytes itself.  `Engine.Attributed` compares the counter with
what the four causes come to in a run:

* what the calls to consume return (`Engine.consumed`);
* how much the buffer held whenever it was reset (`Engine.resetLengths`);
* what consumers that returned were done with (`usedIn`);
* one whole buffer for each time that it was dropped (`Engine.ownDrops`).

`CallStep.attributes` and `WorkerStep.attributes` make the comparison for one step.
-/

namespace ByteTap

namespace Call

/-- What a call to consume has returned, or returns once it has left the worker its permit. -/
def consumed : Call → Nat
  | permittingSpace (.released count) | returned (.released count) => count
  | _ => 0

/-- One for a call that is about to release every byte. -/
def aboutToReset : Call → Nat
  | resetting => 1
  | _ => 0

theorem consumed_wake (call : Call) : call.wake.consumed = call.consumed := by
  cases call <;> rfl

theorem aboutToReset_wake (call : Call) : call.wake.aboutToReset = call.aboutToReset := by
  cases call <;> rfl

/-- One call moves on, and the sum over all calls changes by what this one is worth. -/
theorem sum_map_set (worth : Call → Nat) {calls : List Call} {i : Nat} {old : Call}
    (place : calls[i]? = some old) (new : Call) :
    ((calls.set i new).map worth).sum + worth old = (calls.map worth).sum + worth new := by
  induction calls generalizing i with
  | nil => cases place
  | cons first others ih =>
    cases i with
    | zero =>
      cases place
      simp only [List.set_cons_zero, List.map_cons, List.sum_cons]
      omega
    | succ i =>
      have rest := ih (i := i) place
      simp only [List.set_cons_succ, List.map_cons, List.sum_cons]
      omega

end Call

/-- How many bytes the consumers that returned were done with.  None is done with more than it was
shown. -/
@[simp] def usedIn : List Event → Nat
  | [] => 0
  | .called _ shown reply :: older =>
      usedIn older + if reply.panic.isSome then 0 else min reply.amount shown.length
  | _ :: older => usedIn older

@[simp] theorem usedIn_noted (notes : List String) (older : List Event) :
    usedIn ((notes.map Event.noted).reverse ++ older) = usedIn older :=
  eq_of_noted (fun _ _ => rfl) notes older

@[simp] theorem usedIn_asked (asked : Bool) (older : List Event) :
    usedIn ((if asked then [.stopAsked] else []) ++ older) = usedIn older := by
  cases asked <;> rfl

namespace Engine

variable {τ : Type} {arrives : τ → τ → Prop} {e e' : Engine τ}

/-! ## What the causes come to -/

/-- What the calls to consume return, together. -/
def consumed (e : Engine τ) : Nat := (e.calls.map Call.consumed).sum

/-- How many calls are about to reset the buffer. -/
def resettings (e : Engine τ) : Nat := (e.calls.map Call.aboutToReset).sum

/-- A call that was about to reset the buffer has done so. -/
def resets (e e' : Engine τ) : Bool := e'.resettings < e.resettings

/-- How much the buffer held each time that a call reset it, newest first. -/
def resetLengths : List (Engine τ) → List Nat
  | e' :: e :: older =>
      (if e.resets e' then [e.shared.buffer.occupied] else []) ++ resetLengths (e :: older)
  | _ => []

/-- How many bytes the engine has dropped by itself: whole buffers, under the policy to discard. -/
def ownDrops (e : Engine τ) : Nat :=
  match e.settings.policy with
  | .stall => 0
  | .discard => e.settings.capacity.toNat * e.shared.tally.exhaustionEvents

theorem resets_iff : e.resets e' = true ↔ e'.resettings < e.resettings := decide_eq_true_iff

theorem consumed_of_woken (woken : e'.calls = e.calls ∨ e'.calls = e.calls.map Call.wake) :
    e'.consumed = e.consumed := by
  rcases woken with same | woken
  · rw [consumed, same, consumed]
  · rw [consumed, woken, List.map_map]
    exact congrArg List.sum (List.map_congr_left fun call _ => call.consumed_wake)

theorem resettings_of_woken (woken : e'.calls = e.calls ∨ e'.calls = e.calls.map Call.wake) :
    e'.resettings = e.resettings := by
  rcases woken with same | woken
  · rw [resettings, same, resettings]
  · rw [resettings, woken, List.map_map]
    exact congrArg List.sum (List.map_congr_left fun call _ => call.aboutToReset_wake)

theorem resets_of_woken (woken : e'.calls = e.calls ∨ e'.calls = e.calls.map Call.wake) :
    e.resets e' = false := by
  rw [resets, resettings_of_woken woken, decide_eq_false_iff_not]
  exact Nat.lt_irrefl _

/-! ## One step -/

/-- The counter of released bytes moves as far as what calls return, and what a reset found. -/
def ReleasedByCalls (e e' : Engine τ) : Prop :=
  e'.shared.tally.bytesReleased + e.consumed = e.shared.tally.bytesReleased + e'.consumed +
    if e.resets e' then e.shared.buffer.occupied else 0

/-- One call moves on, and what it was worth before and is worth now accounts for the counter. -/
theorem ReleasedByCalls.of_set {i : Nat} {old new : Call} (place : e.calls[i]? = some old)
    (calls : e'.calls = e.calls.set i new)
    (released : e'.shared.tally.bytesReleased + old.consumed =
      e.shared.tally.bytesReleased + new.consumed +
        if new.aboutToReset < old.aboutToReset then e.shared.buffer.occupied else 0) :
    ReleasedByCalls e e' := by
  have consumed := Call.sum_map_set Call.consumed place new
  have resettings := Call.sum_map_set Call.aboutToReset place new
  rw [← calls] at consumed resettings
  have same : e.resets e' = true ↔ new.aboutToReset < old.aboutToReset := by
    rw [resets_iff, Engine.resettings, Engine.resettings]
    omega
  unfold ReleasedByCalls Engine.consumed
  simp only [same]
  omega

theorem ReleasedByCalls.of_wakeAll (released : ReleasedByCalls e.wakeAll e') :
    ReleasedByCalls e e' := by
  have consumed : e.wakeAll.consumed = e.consumed := consumed_of_woken (.inr rfl)
  have resettings : e.wakeAll.resettings = e.resettings := resettings_of_woken (.inr rfl)
  rw [ReleasedByCalls, resets, consumed, resettings] at released
  exact released

/-- A caller releases what its call returns, or what a reset finds in the buffer. -/
theorem CallStep.attributes (step : CallStep e e') : ReleasedByCalls e e' := by
  cases step
  case enter request =>
    have nothing : (Call.ofRequest request).consumed = 0 := by cases request <;> rfl
    have more : e.resettings ≤ Engine.resettings { e with
        calls := e.calls ++ [Call.ofRequest request] } := by
      simp [resettings]
    rw [ReleasedByCalls, if_neg (by rw [resets_iff]; omega)]
    simp [consumed, nothing]
  -- The waiters are woken first, then the one call moves on.
  case announceStop i place =>
    have awake : e.wakeAll.calls[i]? = some .announcingStop := by
      simp [wakeAll, place, Call.wake]
    exact .of_wakeAll (.of_set awake rfl rfl)
  case consume i count place =>
    refine .of_set place rfl ?_
    by_cases nothing : e.shared.buffer.released count = 0 <;>
      simp [nothing, Call.consumed, Call.aboutToReset]
  case permitSpace i answer place => exact .of_set place rfl (by cases answer <;> rfl)
  case beginWait i timed place =>
    refine .of_set place rfl ?_
    unfold waitOn
    split <;> rfl
  case resumeWait i seen timed place =>
    refine .of_set place rfl ?_
    unfold waitOn
    split <;> rfl
  case stir i call place =>
    refine .of_set place rfl ?_
    rw [Call.consumed_wake, Call.aboutToReset_wake, if_neg (Nat.lt_irrefl _)]
    rfl
  all_goals exact .of_set ‹_› rfl rfl

/-- No byte leaves the buffer. -/
structure KeepsBytes (e e' : Engine τ) : Prop where
  released : e'.shared.tally.bytesReleased = e.shared.tally.bytesReleased
  content : e.shared.buffer.filled <+: e'.shared.buffer.filled

/-- The buffer is full, all of it is dropped, and that is counted once. -/
structure DropsAll (e e' : Engine τ) : Prop where
  full : e.shared.buffer.occupied = e.settings.capacity.toNat
  content : e'.shared.buffer.filled = []
  released : e'.shared.tally.bytesReleased =
    e.shared.tally.bytesReleased + e.settings.capacity.toNat
  counted : e'.shared.tally.exhaustionEvents = e.shared.tally.exhaustionEvents + 1

/-- Everything is dropped where the buffer is full, so what is dropped is a whole buffer. -/
theorem occupied_of_isFull (sized : Sized e) (full : e.shared.buffer.isFull = true) :
    e.shared.buffer.occupied = e.settings.capacity.toNat :=
  (Buffer.isFull_iff.1 full).trans sized.capacity

section

variable [Transport τ]

/-- The worker releases what a consumer that returned is done with, or a whole buffer for each event
that it counts under the policy to discard. -/
theorem WorkerStep.attributes (sized : Sized e) (watched : RoomWatched e)
    (step : WorkerStep e e') :
    e'.shared.tally.bytesReleased + usedIn e.trace + e.ownDrops =
      e.shared.tally.bytesReleased + usedIn e'.trace + e'.ownDrops := by
  cases step
  case armDiscard place running unasked full policy =>
    have whole := occupied_of_isFull sized full
    simp only [ownDrops, policy, usedIn, whole, Nat.mul_succ]
    omega
  case completeHeard reply place nonempty heard replied returned =>
    simp only [usedIn_asked, usedIn, returned, Buffer.length_filled, Buffer.released,
      Option.isSome_none, if_neg Bool.false_ne_true, ownDrops]
    omega
  case completePanicked reply payload place nonempty heard replied panicked =>
    simp only [usedIn_asked, usedIn, panicked, Option.isSome_some, if_true, Nat.add_zero, ownDrops]
  case recordFull place =>
    -- the full buffer is counted here under the other policy, which drops nothing
    have policy : e.settings.policy = .stall := watched.policy (by rw [place]; rfl)
    simp only [ownDrops, policy]
  all_goals simp [ownDrops]

/-- A step in which a consumer is called adds to the invocations. -/
theorem invocations_ne_of_called {number : Nat} {shown : Bytes} {reply : Reply} {asked : Bool}
    {older : List Event} (uncalled : invocations ((if asked then [.stopAsked] else []) ++
      .called number shown reply :: older) = invocations older) : False := by
  have length := congrArg List.length uncalled
  cases asked <;> simp at length

/-- A step of the worker in which no consumer is called keeps every byte, or it drops the whole
buffer under the policy to discard. -/
theorem WorkerStep.keeps_or_drops (sized : Sized e) (step : WorkerStep e e')
    (uncalled : invocations e'.trace = invocations e.trace) :
    KeepsBytes e e' ∨ e.settings.policy = .discard ∧ DropsAll e e' := by
  cases step
  case armDiscard place running unasked full policy =>
    have whole := occupied_of_isFull sized full
    exact .inr ⟨policy, whole, Buffer.filled_reset _, congrArg _ whole, rfl⟩
  case completeUnheard bytes place nonempty nobody =>
    refine .inl ⟨rfl, ?_⟩
    rw [Buffer.filled_extend]
    exact List.prefix_append _ _
  case completeHeard => exact (invocations_ne_of_called uncalled).elim
  case completePanicked => exact (invocations_ne_of_called uncalled).elim
  all_goals exact .inl ⟨rfl, List.prefix_refl _⟩

/-- Under the policy to discard an event is counted for a whole buffer that is dropped, and for
nothing else. -/
theorem Step.drops_of_counted (sized : Sized e) (watched : RoomWatched e)
    (policy : e.settings.policy = .discard) (step : Step arrives e e')
    (counted : e'.shared.tally.exhaustionEvents ≠ e.shared.tally.exhaustionEvents) :
    DropsAll e e' := by
  rcases step.cases with worker | call | ⟨transport, -, rfl⟩
  · cases worker
    case armDiscard place running unasked full _ =>
      have whole := occupied_of_isFull sized full
      exact ⟨whole, Buffer.filled_reset _, congrArg _ whole, rfl⟩
    case recordFull place =>
      cases policy.symm.trans (watched.policy (by rw [place]; rfl))
    all_goals exact absurd rfl counted
  · cases call <;> exact absurd rfl counted
  · exact absurd rfl counted

/-- A consumer that panics has released nothing. -/
theorem WorkerStep.keeps_of_panic {payload : Payload} (step : WorkerStep e e')
    (panicked : e'.stage = .unwinding payload) : KeepsBytes e e' := by
  cases step
  case completePanicked bytes registration reply payload place nonempty heard replied panicked =>
    refine ⟨rfl, ?_⟩
    rw [Buffer.filled_extend]
    exact List.prefix_append _ _
  all_goals cases panicked

/-! ## A whole run -/

/-- Where the bytes went that were released in a run that came to `e` through the states `older`. -/
structure Attributed (arrives : τ → τ → Prop) (e : Engine τ) (older : List (Engine τ)) :
    Prop where
  total : e.shared.tally.bytesReleased =
    e.consumed + (resetLengths (e :: older)).sum + usedIn e.trace + e.ownDrops
  /-- What the engine drops of its own accord is a whole buffer, under the policy to discard. -/
  own : ∀ label e', label = .worker ∨ label = .timer → e.next label = some e' →
    invocations e'.trace = invocations e.trace →
      KeepsBytes e e' ∨ e.settings.policy = .discard ∧ DropsAll e e'
  /-- Every event under that policy stands for a whole buffer. -/
  event : e.settings.policy = .discard → ∀ e', Step arrives e e' →
    e'.shared.tally.exhaustionEvents ≠ e.shared.tally.exhaustionEvents → DropsAll e e'
  panicked : ∀ e' payload, e.next .worker = some e' → e'.stage = .unwinding payload →
    KeepsBytes e e'

/-- The four causes add up to the counter at every point of a run, whatever it went through. -/
theorem Run.attributed {older : List (Engine τ)} (run : Run arrives (e :: older)) :
    e.shared.tally.bytesReleased =
      e.consumed + (resetLengths (e :: older)).sum + usedIn e.trace + e.ownDrops := by
  refine run.invariant (motive := fun e older => e.shared.tally.bytesReleased =
    e.consumed + (resetLengths (e :: older)).sum + usedIn e.trace + e.ownDrops) ?_ ?_
  · intro settings transport consumer e spawned
    obtain ⟨-, -, registration, registrations, rfl⟩ := spawn_eq_ok spawned
    cases policy : settings.policy <;> simp [consumed, resetLengths, ownDrops, policy]
  · intro e e' older before total stepped
    have reachable := before.reachable
    rw [resetLengths, List.sum_append]
    rcases stepped.cases with worker | call | ⟨transport, -, rfl⟩
    -- the worker adds to what consumers used or to its own drops, and resets nothing
    · have released := worker.attributes reachable.sized reachable.roomWatched
      rw [consumed_of_woken worker.calls_eq, resets_of_woken worker.calls_eq]
      simp only [if_neg Bool.false_ne_true, List.sum_nil]
      omega
    -- a call adds to what was consumed, or resets
    · have released := call.attributes
      have drops : e'.ownDrops = e.ownDrops := by cases call <;> rfl
      have used : usedIn e'.trace = usedIn e.trace := by cases call <;> rfl
      unfold ReleasedByCalls at released
      rw [drops, used]
      cases reset : e.resets e' with
      | true =>
        simp only [reset, if_true, List.sum_cons, List.sum_nil] at released ⊢
        omega
      | false =>
        simp only [reset, if_neg Bool.false_ne_true, List.sum_nil] at released ⊢
        omega
    · have unmoved : e.resets { e with transport } = false := resets_of_woken (.inl rfl)
      rw [unmoved]
      simp only [if_neg Bool.false_ne_true, List.sum_nil, Nat.zero_add]
      exact total

/-- Whatever is released by whom and in whatever order: the counter of released bytes is what the
calls to consume return, what the resets found, what the consumers that returned were done with, and
a whole buffer for every event under the policy to discard. -/
theorem released_bytes_attributed {older : List (Engine τ)} (run : Run arrives (e :: older)) :
    Attributed arrives e older := by
  have reachable := run.reachable
  have sized := reachable.sized
  refine ⟨run.attributed, ?_, ?_, ?_⟩
  · intro label e' own stepped uncalled
    rcases own with rfl | rfl
    · exact (WorkerStep.of_work stepped).keeps_or_drops sized uncalled
    · exact (WorkerStep.of_wakeFromBackoff stepped).keeps_or_drops sized uncalled
  · intro policy e' stepped counted
    exact stepped.drops_of_counted sized reachable.roomWatched policy counted
  · intro e' payload stepped panicked
    exact (WorkerStep.of_work stepped).keeps_of_panic panicked

end

/-- A consumer that is done with one byte at first and panics in the end, a caller who consumes a
byte, a full buffer that is dropped, and a caller who resets the buffer. -/
theorem released_bytes_attributed_of_every_cause :
    ∃ (start ended : Engine Script) (older : List (Engine Script)),
      spawn { capacity := 4, policy := .discard }
        { steps := [.data [1, 2, 3], .data [4, 5, 6], .data [7], .data [8]] }
        (some ((Consumer.amounts [1, 0, 0, 5]).panickingAt 4 .other)) = .ok start ∧
      ended = start.run (List.replicate 5 .worker ++ .enter (.consume 1) :: .call 0 :: .call 0 ::
        List.replicate 9 .worker ++ .enter .reset :: .call 1 :: .call 1 ::
        List.replicate 6 .worker) ∧
      Run Script.Pushed (ended :: older) ∧ ended.shared.tally.bytesReleased = 7 ∧
      ended.consumed = 1 ∧ usedIn ended.trace = 1 ∧ ended.ownDrops = 4 ∧
      (resetLengths (ended :: older)).sum = 1 ∧ Attributed Script.Pushed ended older := by
  have started : Reachable Script.Pushed _ :=
    .started { capacity := 4, policy := .discard }
      { steps := [.data [1, 2, 3], .data [4, 5, 6], .data [7], .data [8]] }
      (some ((Consumer.amounts [1, 0, 0, 5]).panickingAt 4 .other)) rfl
  have ended := started.steps (steps_run _ (List.replicate 5 .worker ++
    .enter (.consume 1) :: .call 0 :: .call 0 :: List.replicate 9 .worker ++
    .enter .reset :: .call 1 :: .call 1 :: List.replicate 6 .worker))
  obtain ⟨older, run⟩ := ended.run
  have attributed := released_bytes_attributed run
  refine ⟨_, _, older, rfl, rfl, run, by decide, by decide, by decide, by decide, ?_, attributed⟩
  have total : 7 = 1 + (resetLengths _).sum + 1 + 4 := attributed.total
  omega

end Engine

end ByteTap
