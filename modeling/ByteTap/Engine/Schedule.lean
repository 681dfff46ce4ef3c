import ByteTap.Engine.Worker

/-!
# Interleavings

The threads of an engine take turns.  A `Label` says whose turn it is, and `next` is the step, if
that thread has one: any list of labels is a schedule, and everything an engine can do is done by
some schedule, together with what arrives at the far end of the transport (`mapTransport`).

`settle` is one schedule among them, for an owner who looks at the engine only when it rests: calls
go first, then the worker, and time passes when nobody else has anything to do.
-/

namespace ByteTap

/-- Whose turn it is. -/
inductive Label where
  /-- The worker's. -/
  | worker
  /-- Time passes, and the wait after a failed read is over. -/
  | timer
  /-- A caller makes a call. -/
  | enter (request : Request)
  /-- The call of that position goes on. -/
  | call (position : Nat)
  /-- The deadline of the call of that position passes. -/
  | expire (position : Nat)
  /-- The call of that position wakes for no reason. -/
  | stir (position : Nat)

namespace Engine

variable {τ : Type}

/-! ## Calls -/

/-- The reason to end a wait that started at the given generation, if there is one. -/
def waitReason (s : Shared) (seen : Nat) : Option WaitOutcome :=
  if s.generation != seen then some .dataReceived
  else if s.phase != .running then some .shutdown
  else if !s.isOpen then some .disconnected
  else none

/-- A wait with the lock in hand: it returns if it has a reason, and parks otherwise. -/
def waitOn (s : Shared) (timed : Bool) (seen : Nat) : Call :=
  match waitReason s seen with
  | some outcome => .returned (.outcome outcome)
  | none => .parked timed seen

/-- Puts the call of a position to another place. -/
def place (e : Engine τ) (i : Nat) (call : Call) : Engine τ :=
  { e with calls := e.calls.set i call }

/-- One step of the call of a position, which stands at the given place. -/
def stepCall (e : Engine τ) (i : Nat) : Call → Option (Engine τ)
  | .closing =>
      if e.shared.phase == .running then
        some ((e.modify fun s => { s with phase := .stopping }).place i .announcingStop)
      else some (e.place i .joining)
  | .announcingStop => some ((e.note .shutdownRequested).wakeAll.place i .permittingStop)
  | .permittingStop => some ({ e with shutdownPermit := true }.place i .joining)
  | .joining =>
      match e.stage with
      | .exited => some (e.place i (.returned .done))
      | _ => none
  | .consuming count =>
      let released := e.shared.buffer.released count
      let e := (e.modify fun s =>
        { s with
          buffer := s.buffer.consume count
          tally := { s.tally with bytesReleased := s.tally.bytesReleased + released } }).note
        (.consumed released)
      some (e.place i (if released = 0 then .returned (.released 0)
        else .permittingSpace (.released released)))
  | .resetting =>
      let dropped := e.shared.buffer.occupied
      let e := (e.modify fun s =>
        { s with
          buffer := s.buffer.reset
          tally := { s.tally with bytesReleased := s.tally.bytesReleased + dropped } }).note
        (.emptied dropped)
      some (e.place i (.permittingSpace .done))
  | .permittingSpace answer => some ({ e with spacePermit := true }.place i (.returned answer))
  | .installing consumer =>
      some (((e.register consumer).note .registered).place i (.returned .done))
  | .uninstalling =>
      some ((e.modify fun s => { s with registration := none }).place i (.returned .done))
  | .waiting timed => some (e.place i (waitOn e.shared timed e.shared.generation))
  | .woken timed seen => some (e.place i (waitOn e.shared timed seen))
  | .expired seen =>
      some (e.place i (.returned (.outcome
        (if e.shared.generation != seen then .dataReceived else .timedOut))))
  | .parked .. | .returned _ => none

/-- The step of an engine whose turn is given by a label. -/
def next [Transport τ] (e : Engine τ) : Label → Option (Engine τ)
  | .worker => e.work
  | .timer => e.wakeFromBackoff
  | .enter request => some { e with calls := e.calls ++ [Call.ofRequest request] }
  | .call i => do e.stepCall i (← e.calls[i]?)
  | .expire i => do
      let call ← (← e.calls[i]?).expire?
      pure (e.place i call)
  | .stir i => do
      let call ← e.calls[i]?
      pure (e.place i call.wake)

/-- Follows a schedule; a thread that has no step loses its turn. -/
def run [Transport τ] (e : Engine τ) (schedule : List Label) : Engine τ :=
  schedule.foldl (fun e label => (e.next label).getD e) e

/-! ## The schedule of a patient owner -/

/-- The step of the first call that has one. -/
def stepCalls [Transport τ] (e : Engine τ) : Option (Engine τ) :=
  (List.range e.calls.length).findSome? fun i => e.next (.call i)

/-- One step of the calls, of the worker, or of time, in this order of preference. -/
def advance [Transport τ] (e : Engine τ) : Option (Engine τ) :=
  e.stepCalls <|> e.next .worker <|> e.next .timer

/-- At most that many steps. -/
def advanceFor [Transport τ] : Nat → Engine τ → Engine τ
  | 0, e => e
  | n + 1, e => match e.advance with
    | some e => advanceFor n e
    | none => e

/-- More steps than it takes until nobody has one, unless the transport does nothing but fail: no
round of the loop has more than sixteen, and at most every second round is a zero-length read. -/
def patience [Transport τ] (e : Engine τ) : Nat :=
  32 * (Transport.backlog e.transport + 4) + 16 * (e.calls.length + 1)

/-- Goes on until nobody has a step. -/
def settle [Transport τ] (e : Engine τ) : Engine τ := advanceFor e.patience e

/-- Makes a call and goes on until nobody has a step. -/
def enter [Transport τ] (e : Engine τ) (request : Request) : Engine τ :=
  { e with calls := e.calls ++ [Call.ofRequest request] }.settle

/-- Lets the deadlines of the parked calls of some positions pass, and goes on until nobody has a
step. -/
def expireCalls [Transport τ] (e : Engine τ) (positions : List Nat) : Engine τ :=
  (e.run (positions.map .expire)).settle

/-- What the calls have returned; a call that has not returned has nothing. -/
def answers (e : Engine τ) : List (Option Answer) := e.calls.map Call.answer?

/-- What the newest call has returned. -/
def lastAnswer (e : Engine τ) : Option Answer := e.answers.getLast?.join

/-- Forgets the calls. -/
def forgetCalls (e : Engine τ) : Engine τ := { e with calls := [] }

/-- Makes a call, and goes on until nobody has a step; with the engine comes the answer. -/
def perform [Transport τ] (e : Engine τ) (request : Request) : Engine τ × Option Answer :=
  let e := e.enter request
  (e, e.lastAnswer)

/-- Waits for data while nothing arrives. -/
def waitIdle [Transport τ] (e : Engine τ) : Engine τ × Option Answer :=
  let e := e.enter (.wait true)
  let e := e.expireCalls [e.calls.length - 1]
  (e, e.lastAnswer)

end Engine

end ByteTap
