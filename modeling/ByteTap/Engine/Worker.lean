import ByteTap.Engine

/-!
# The worker's steps

`work` is one step of the worker: one section under the lock, or one thing done outside it.  It has
no step (`none`) while the worker is parked and nothing has happened for it, and after it is gone.

At every park a stored shutdown permit is looked for first.
-/

namespace ByteTap.Engine

variable {τ : Type}

/-! ## Under the lock -/

/-- Turns a shutdown asked for by the consumer into the phase of the engine. -/
def applyStopRequest (e : Engine τ) : Engine τ :=
  if e.stopRequested && e.shared.phase == .running then
    (e.modify fun s => { s with phase := .stopping }).wakeAll
  else e

/-- Drops everything in the buffer. -/
def discardAll (e : Engine τ) : Engine τ :=
  (e.modify fun s =>
    { s with
      buffer := s.buffer.reset
      tally :=
        { s.tally with
          exhaustionEvents := s.tally.exhaustionEvents + 1
          bytesReleased := s.tally.bytesReleased + s.buffer.occupied } }).note
    (.discarded e.shared.buffer.occupied)

/-- Decides on the next read. -/
def arm (e : Engine τ) : Engine τ :=
  let e := e.applyStopRequest
  if e.shared.phase != .running then e.goto .closing
  else if !e.shared.buffer.isFull then
    { e with exhaustionReported := false, stage := .issuing e.shared.buffer.spare }
  else match e.settings.policy with
    | .stall => e.goto (.issuing 0)
    | .discard =>
        let e := e.discardAll
        e.goto (.reportingDrop e.shared.buffer.spare)

/-- Puts the bytes of a read into the buffer. -/
def receive (e : Engine τ) (bytes : Bytes) : Engine τ :=
  let accepted := e.shared.buffer.accepted bytes
  let e := e.modify fun s =>
    { s with
      buffer := s.buffer.extend bytes
      tally :=
        { s.tally with
          readsCompleted := s.tally.readsCompleted + 1
          bytesReceived := s.tally.bytesReceived + accepted.length } }
  e.note (.received bytes accepted e.shared.buffer.occupied)

/-- The consumer asks for shutdown. -/
def askStop (e : Engine τ) : Engine τ :=
  { e with stopRequested := true, shutdownPermit := true }.note .stopAsked

/-- The consumer returns: what it is done with leaves the buffer. -/
def releaseFront (e : Engine τ) (amount : Nat) : Engine τ :=
  e.modify fun s =>
    { s with
      buffer := s.buffer.consume amount
      tally :=
        { s.tally with
          callbacksInvoked := s.tally.callbacksInvoked + 1
          bytesReleased := s.tally.bytesReleased + s.buffer.released amount } }

/-- Calls the registered consumer, if there is one.  With the state afterwards comes the panic in
which the call ended. -/
def consult (e : Engine τ) : Engine τ × Option Payload :=
  match e.shared.registration with
  | none => (e, none)
  | some registration =>
      let shown := e.shared.buffer.filled
      let history := shown :: registration.history
      let reply := registration.consumer.reply history
      let e := e.modify fun s => { s with registration := some { registration with history } }
      let e := e.note (.called registration.number shown reply)
      let e := if reply.stops then e.askStop else e
      match reply.panic with
      | some payload => (e, some payload)
      | none => (e.releaseFront reply.amount, none)

/-- The delivery of a read is complete: whoever waits for data is woken. -/
def announceData (e : Engine τ) : Engine τ :=
  (e.modify fun s => { s with generation := s.generation + 1 }).wakeAll

/-- The end of every handled read: a shutdown asked for meanwhile takes effect, and the worker
keeps in mind what it needs.  A failed read is reported next. -/
def conclude (e : Engine τ) (room : Nat) (cause : Option IoFailure) : Engine τ :=
  let e := e.applyStopRequest
  let handled : Handled :=
    { running := e.shared.phase == .running
      failed := cause.isSome
      full := e.shared.buffer.isFull }
  match cause with
  | some cause => e.goto (.reportingFailure room cause handled)
  | none => e.goto (.settling room handled)

/-- Handles a read that has ended. -/
def complete [Transport τ] (e : Engine τ) (room : Nat) : Except IoFailure Bytes → Engine τ
  | .error cause =>
      conclude
        (e.modify fun s =>
          { s with
            isOpen := Transport.isOpen e.transport
            tally := { s.tally with readErrors := s.tally.readErrors + 1 } })
        room (some cause)
  | .ok [] =>
      conclude (e.count fun t => { t with zeroByteReads := t.zeroByteReads + 1 }) room none
  | .ok bytes =>
      match (e.receive bytes).consult with
      | (e, some payload) => e.goto (.unwinding payload)
      | (e, none) => e.announceData.conclude room none

/-! ## Outside the lock -/

/-- Goes on with the read in flight after a poll. -/
def follow (e : Engine τ) (room : Nat) (polled : Polled τ) : Engine τ :=
  let e := { e with transport := polled.transport }.noteAll polled.notes
  match polled.result with
  | some result => (e.note (.ended result)).goto (.completing room result)
  | none => e.goto (.reading room)

/-- Issues a read, unless shutdown comes first. -/
def issue [Transport τ] (e : Engine τ) (room : Nat) : Engine τ :=
  let e := e.note (.armed room)
  if e.shutdownPermit then { e with shutdownPermit := false, stage := .closing }
  else (e.note (.issued room)).follow room (Transport.startRead e.transport room)

/-- Looks at the read in flight: shutdown comes first and drops it. -/
def look [Transport τ] (e : Engine τ) (room : Nat) : Option (Engine τ) :=
  if e.shutdownPermit then
    some ({ e with
      shutdownPermit := false
      transport := Transport.abandon e.transport
      stage := .closing }.note .abandoned)
  else
    let polled := Transport.poll e.transport room
    if polled.result.isSome then some (e.follow room polled) else none

/-- The shutdown permit ends a park, if it is there. -/
def leaveOnPermit (e : Engine τ) : Option (Engine τ) :=
  if e.shutdownPermit then some { e with shutdownPermit := false, stage := .closing } else none

/-- After a read that did not lead into a wait or out of the loop: the worker stalls once a
zero-length read has found the buffer full, and arms the next read otherwise. -/
def proceed (e : Engine τ) (room : Nat) (full : Bool) : Engine τ :=
  if room == 0 && full && e.settings.policy == .stall then
    if e.exhaustionReported then e.goto .stalled
    else { e with exhaustionReported := true, stage := .recordingFull }
  else e.goto .arming

/-- Decides what follows a read. -/
def settleRead [Transport τ] (e : Engine τ) (room : Nat) (handled : Handled) : Engine τ :=
  if !handled.running then e.goto .closing
  else if handled.failed then
    let e := { e with failures := e.failures + 1 }
    if Transport.isOpen e.transport then
      e.goto (.backingOff (e.settings.backoff e.failures) room handled.full)
    else e.goto .reportingLoss
  else { e with failures := 0 }.proceed room handled.full

/-- Shuts the transport. -/
def shutTransport [Transport τ] (e : Engine τ) : Engine τ :=
  let closing := Transport.shut e.transport
  let e := ({ e with transport := closing.transport }.noteAll closing.notes).note
    (.shut closing.failure)
  match closing.failure with
  | some cause => e.goto (.reportingClose cause)
  | none => e.goto .markingShut

/-- One step of the worker. -/
def work [Transport τ] (e : Engine τ) : Option (Engine τ) :=
  match e.stage with
  | .starting => some ((e.note .started).goto .arming)
  | .arming => some e.arm
  | .reportingDrop room =>
      some ((e.report (.bufferExhausted e.settings.capacity.toNat)).goto (.issuing room))
  | .issuing room => some (e.issue room)
  | .reading room => e.look room
  | .completing room result => some (e.complete room result)
  | .reportingFailure room cause handled =>
      some ((e.report (.readFailed e.label cause)).goto (.settling room handled))
  | .settling room handled => some (e.settleRead room handled)
  | .backingOff .. => e.leaveOnPermit
  | .recordingFull =>
      some ((e.count fun t => { t with exhaustionEvents := t.exhaustionEvents + 1 }).goto
        .reportingFull)
  | .reportingFull =>
      some ((e.report (.bufferExhausted e.settings.capacity.toNat)).goto .stalled)
  | .stalled =>
      if e.shutdownPermit then e.leaveOnPermit
      else if e.spacePermit then some { e with spacePermit := false, stage := .rechecking }
      else none
  | .rechecking => some (e.goto (if e.shared.buffer.isFull then .stalled else .arming))
  | .reportingLoss => some ((e.report (.disconnected e.label)).goto .signallingLoss)
  | .signallingLoss => some (e.wakeAll.goto .suspended)
  | .suspended => e.leaveOnPermit
  | .closing => some e.shutTransport
  | .reportingClose cause =>
      some ((e.report (.closeFailed e.label cause)).goto .markingShut)
  | .markingShut =>
      some (((e.modify fun s => { s with isOpen := false }).note .stopped).goto .finishing)
  | .unwinding payload =>
      some (({ e with transport := Transport.release e.transport }.report
        (.workerPanicked payload.reason)).goto .finishing)
  | .finishing =>
      some ((e.modify fun s => { s with phase := .closed, isOpen := false }).goto .signallingEnd)
  | .signallingEnd => some (e.wakeAll.goto .exited)
  | .exited => none

/-- The wait after a failed read is over. -/
def wakeFromBackoff (e : Engine τ) : Option (Engine τ) :=
  match e.stage with
  | .backingOff delay room full => some ((e.note (.waited delay)).proceed room full)
  | _ => none

end ByteTap.Engine
