import ByteTap.Engine.Schedule

/-!
# What a step of a call can do

`CallStep e e'` lists everything that a caller can make of the engine `e` in one step: it makes a
call, a call of its goes on, its deadline passes, or it wakes for no reason.  No such step touches
the transport, the place of the worker or what only the worker sees (`CallStep.same_worker`).  One
call at its place goes on as `CallMove` says.
-/

namespace ByteTap

namespace Engine

variable {τ : Type}

/-- What one step of a caller can make of an engine. -/
inductive CallStep (e : Engine τ) : Engine τ → Prop
  | enter (request : Request) :
      CallStep e { e with calls := e.calls ++ [Call.ofRequest request] }
  -- Closing.
  | requestStop {i : Nat} (place : e.calls[i]? = some .closing)
      (running : e.shared.phase = .running) :
      CallStep e
        { e with
          shared := { e.shared with phase := .stopping }
          calls := e.calls.set i .announcingStop }
  | closeAgain {i : Nat} (place : e.calls[i]? = some .closing)
      (stopped : e.shared.phase ≠ .running) :
      CallStep e { e with calls := e.calls.set i .joining }
  | announceStop {i : Nat} (place : e.calls[i]? = some .announcingStop) :
      CallStep e
        { e with
          calls := (e.calls.map Call.wake).set i .permittingStop
          trace := .shutdownRequested :: e.trace }
  | permitStop {i : Nat} (place : e.calls[i]? = some .permittingStop) :
      CallStep e { e with shutdownPermit := true, calls := e.calls.set i .joining }
  | join {i : Nat} (place : e.calls[i]? = some .joining) (gone : e.stage = .exited) :
      CallStep e { e with calls := e.calls.set i (.returned .done) }
  -- Releasing bytes.
  | consume {i count : Nat} (place : e.calls[i]? = some (.consuming count)) :
      CallStep e
        { e with
          shared :=
            { e.shared with
              buffer := e.shared.buffer.consume count
              tally :=
                { e.shared.tally with
                  bytesReleased :=
                    e.shared.tally.bytesReleased + e.shared.buffer.released count } }
          calls := e.calls.set i
            (if e.shared.buffer.released count = 0 then .returned (.released 0)
              else .permittingSpace (.released (e.shared.buffer.released count)))
          trace := .consumed (e.shared.buffer.released count) :: e.trace }
  | reset {i : Nat} (place : e.calls[i]? = some .resetting) :
      CallStep e
        { e with
          shared :=
            { e.shared with
              buffer := e.shared.buffer.reset
              tally :=
                { e.shared.tally with
                  bytesReleased := e.shared.tally.bytesReleased + e.shared.buffer.occupied } }
          calls := e.calls.set i (.permittingSpace .done)
          trace := .emptied e.shared.buffer.occupied :: e.trace }
  | permitSpace {i : Nat} {answer : Answer} (place : e.calls[i]? = some (.permittingSpace answer)) :
      CallStep e { e with spacePermit := true, calls := e.calls.set i (.returned answer) }
  -- Consumers.
  | install {i : Nat} {consumer : Consumer} (place : e.calls[i]? = some (.installing consumer)) :
      CallStep e
        { e with
          shared :=
            { e.shared with
              registration := some { number := e.registrations + 1, consumer } }
          calls := e.calls.set i (.returned .done)
          registrations := e.registrations + 1
          trace := .registered :: e.trace }
  | uninstall {i : Nat} (place : e.calls[i]? = some .uninstalling) :
      CallStep e
        { e with
          shared := { e.shared with registration := none }
          calls := e.calls.set i (.returned .done) }
  -- Waiting for data.
  | beginWait {i : Nat} {timed : Bool} (place : e.calls[i]? = some (.waiting timed)) :
      CallStep e
        { e with calls := e.calls.set i (waitOn e.shared timed e.shared.generation) }
  | resumeWait {i seen : Nat} {timed : Bool} (place : e.calls[i]? = some (.woken timed seen)) :
      CallStep e { e with calls := e.calls.set i (waitOn e.shared timed seen) }
  | endWait {i seen : Nat} (place : e.calls[i]? = some (.expired seen)) :
      CallStep e
        { e with
          calls := e.calls.set i (.returned (.outcome
            (if e.shared.generation != seen then .dataReceived else .timedOut))) }
  | expire {i seen : Nat} (place : e.calls[i]? = some (.parked true seen)) :
      CallStep e { e with calls := e.calls.set i (.expired seen) }
  | stir {i : Nat} {call : Call} (place : e.calls[i]? = some call) :
      CallStep e { e with calls := e.calls.set i call.wake }

section

variable {e e' : Engine τ}

theorem CallStep.of_stepCall {i : Nat} {call : Call} (place : e.calls[i]? = some call)
    (step : e.stepCall i call = some e') : CallStep e e' := by
  cases call with
  | closing =>
    dsimp only [stepCall] at step
    split at step
    · next running => cases step; exact .requestStop place (by simpa using running)
    · next stopped => cases step; exact .closeAgain place (by simpa using stopped)
  | announcingStop => cases step; exact .announceStop place
  | permittingStop => cases step; exact .permitStop place
  | joining =>
    dsimp only [stepCall] at step
    split at step
    · next gone => cases step; exact .join place gone
    · cases step
  | consuming count => cases step; exact .consume place
  | resetting => cases step; exact .reset place
  | permittingSpace answer => cases step; exact .permitSpace place
  | installing consumer => cases step; exact .install place
  | uninstalling => cases step; exact .uninstall place
  | waiting timed => cases step; exact .beginWait place
  | woken timed seen => cases step; exact .resumeWait place
  | expired seen => cases step; exact .endWait place
  | parked timed seen => cases step
  | returned answer => cases step

theorem next_call_eq_some [Transport τ] {i : Nat} (step : e.next (.call i) = some e') :
    ∃ call, e.calls[i]? = some call ∧ e.stepCall i call = some e' := by
  obtain ⟨call, place, stepped⟩ := Option.bind_eq_some_iff.1 step
  exact ⟨call, place, stepped⟩

theorem getElem?_place {i : Nat} {call : Call} (place : e.calls[i]? = some call) (new : Call) :
    (e.place i new).calls[i]? = some new :=
  List.getElem?_set_self (List.getElem?_eq_some_iff.1 place).1

/-- A deadline passes for a parked call that has one. -/
theorem next_expire_eq_some [Transport τ] {i : Nat} (step : e.next (.expire i) = some e') :
    ∃ seen, e.calls[i]? = some (.parked true seen) ∧ e' = e.place i (.expired seen) := by
  obtain ⟨call, place, stepped⟩ := Option.bind_eq_some_iff.1 step
  cases call with
  | parked timed seen =>
    cases timed with
    | true => cases stepped; exact ⟨seen, place, rfl⟩
    | false => cases stepped
  | _ => cases stepped

theorem CallStep.of_expire [Transport τ] {i : Nat} (step : e.next (.expire i) = some e') :
    CallStep e e' := by
  obtain ⟨seen, place, rfl⟩ := next_expire_eq_some step
  exact .expire place

theorem CallStep.of_stir [Transport τ] {i : Nat} (step : e.next (.stir i) = some e') :
    CallStep e e' := by
  obtain ⟨call, place, stepped⟩ := Option.bind_eq_some_iff.1 step
  cases stepped
  exact .stir place

end

/-- What only the worker changes is the same. -/
structure SameWorker (e e' : Engine τ) : Prop where
  stage : e'.stage = e.stage
  transport : e'.transport = e.transport
  settings : e'.settings = e.settings
  stopRequested : e'.stopRequested = e.stopRequested
  exhaustionReported : e'.exhaustionReported = e.exhaustionReported

theorem CallStep.same_worker {e e' : Engine τ} (step : CallStep e e') : SameWorker e e' := by
  cases step <;> exact ⟨rfl, rfl, rfl, rfl, rfl⟩

/-! ## One call at its place -/

/-- Where a step from `e` to `e'` can take the call of one position. -/
inductive CallMove (e e' : Engine τ) : Call → Call → Prop
  | stay (call : Call) : CallMove e e' call call
  | wake (call : Call) : CallMove e e' call call.wake
  | requestStop (running : e.shared.phase = .running) (stopped : e'.shared.phase = .stopping) :
      CallMove e e' .closing .announcingStop
  | closeAgain (stopped : e.shared.phase ≠ .running) : CallMove e e' .closing .joining
  | announceStop : CallMove e e' .announcingStop .permittingStop
  | permitStop (permitted : e'.shutdownPermit = true) : CallMove e e' .permittingStop .joining
  | join (gone : e.stage = .exited) : CallMove e e' .joining (.returned .done)
  | consumeNothing {count : Nat} (nothing : e.shared.buffer.released count = 0) :
      CallMove e e' (.consuming count) (.returned (.released 0))
  | consume {count : Nat} (something : e.shared.buffer.released count ≠ 0) :
      CallMove e e' (.consuming count)
        (.permittingSpace (.released (e.shared.buffer.released count)))
  | reset : CallMove e e' .resetting (.permittingSpace .done)
  | permitSpace {answer : Answer} (permitted : e'.spacePermit = true) :
      CallMove e e' (.permittingSpace answer) (.returned answer)
  | install {consumer : Consumer} : CallMove e e' (.installing consumer) (.returned .done)
  | uninstall : CallMove e e' .uninstalling (.returned .done)
  | beginWait {timed : Bool} :
      CallMove e e' (.waiting timed) (waitOn e.shared timed e.shared.generation)
  | resumeWait {timed : Bool} {seen : Nat} :
      CallMove e e' (.woken timed seen) (waitOn e.shared timed seen)
  | endWait {seen : Nat} :
      CallMove e e' (.expired seen) (.returned (.outcome
        (if e.shared.generation != seen then .dataReceived else .timedOut)))
  | expire {seen : Nat} : CallMove e e' (.parked true seen) (.expired seen)

section

variable {e e' : Engine τ} {i : Nat} {call : Call}

/-- Every call moves as it may, or stays. -/
def CallsMove (e e' : Engine τ) : Prop :=
  ∀ ⦃i : Nat⦄ ⦃call : Call⦄, e.calls[i]? = some call →
    ∃ call', e'.calls[i]? = some call' ∧ CallMove e e' call call'

/-- After one call has moved, the call at any place is that one, or the one that was there. -/
theorem CallMove.at_set {j : Nat} {old new : Call} (place : e.calls[i]? = some call)
    (moved : e.calls[j]? = some old) (move : CallMove e e' old new) :
    ∃ call', (e.calls.set j new)[i]? = some call' ∧ CallMove e e' call call' := by
  by_cases same : j = i
  · subst same
    have inside : j < e.calls.length := (List.getElem?_eq_some_iff.1 place).1
    obtain rfl : call = old := Option.some.inj (place.symm.trans moved)
    exact ⟨new, List.getElem?_set_self inside, move⟩
  · exact ⟨call, (List.getElem?_set_ne same).trans place, .stay call⟩

/-- In a step of one call the others stay as they are, or are woken. -/
theorem CallStep.move (step : CallStep e e') : CallsMove e e' := by
  intro i call place
  have inside : i < e.calls.length := (List.getElem?_eq_some_iff.1 place).1
  cases step with
  | enter request => exact ⟨call, (List.getElem?_append_left inside).trans place, .stay call⟩
  | requestStop moved running => exact CallMove.at_set place moved (.requestStop running rfl)
  | closeAgain moved stopped => exact CallMove.at_set place moved (.closeAgain stopped)
  | @announceStop j moved =>
    by_cases same : j = i
    · subst same
      obtain rfl : call = .announcingStop := Option.some.inj (place.symm.trans moved)
      exact ⟨.permittingStop, List.getElem?_set_self (by simpa using inside), .announceStop⟩
    · refine ⟨call.wake, ?_, .wake call⟩
      show ((e.calls.map Call.wake).set j .permittingStop)[i]? = some call.wake
      rw [List.getElem?_set_ne same, List.getElem?_map, place, Option.map_some]
  | permitStop moved => exact CallMove.at_set place moved (.permitStop rfl)
  | join moved gone => exact CallMove.at_set place moved (.join gone)
  | @consume j count moved =>
    refine CallMove.at_set place moved ?_
    split
    · next nothing => exact .consumeNothing nothing
    · next something => exact .consume something
  | reset moved => exact CallMove.at_set place moved .reset
  | permitSpace moved => exact CallMove.at_set place moved (.permitSpace rfl)
  | install moved => exact CallMove.at_set place moved .install
  | uninstall moved => exact CallMove.at_set place moved .uninstall
  | beginWait moved => exact CallMove.at_set place moved .beginWait
  | resumeWait moved => exact CallMove.at_set place moved .resumeWait
  | endWait moved => exact CallMove.at_set place moved .endWait
  | expire moved => exact CallMove.at_set place moved .expire
  | stir moved => exact CallMove.at_set place moved (.wake _)

end

end Engine

/-! ## The calls that shut the engine down -/

namespace Call

/-- A call to shut the engine down, which has not returned. -/
def isClosing : Call → Bool
  | closing | announcingStop | permittingStop | joining => true
  | _ => false

/-- A call that has requested shutdown and still owes the worker its permit. -/
def owesStop : Call → Bool
  | announcingStop | permittingStop => true
  | _ => false

/-- A call that has released bytes and still owes the worker its permit. -/
def owesSpace : Call → Bool
  | permittingSpace _ => true
  | _ => false

end Call

namespace Engine

variable {τ : Type} {e e' : Engine τ} {call call' : Call}

/-- A closing call is closing until the worker is gone. -/
theorem CallMove.isClosing (move : CallMove e e' call call') (closing : call.isClosing = true) :
    call'.isClosing = true ∨ e.stage = .exited := by
  cases move
  case join gone => exact .inr gone
  case wake => cases call <;> first | exact .inl rfl | cases closing
  all_goals first | exact .inl closing | exact .inl rfl | cases closing

/-- Shutdown is owed until the permit is there. -/
theorem CallMove.owesStop (move : CallMove e e' call call') (owes : call.owesStop = true) :
    call'.owesStop = true ∨ e'.shutdownPermit = true := by
  cases move
  case permitStop permitted => exact .inr permitted
  case wake => cases call <;> exact .inl owes
  all_goals first | exact .inl owes | exact .inl rfl | cases owes

/-- Whoever owes shutdown owed it before, or has just requested it. -/
theorem CallMove.owesStop_before (move : CallMove e e' call call')
    (owes : call'.owesStop = true) : call.owesStop = true ∨ e'.shared.phase = .stopping := by
  cases move
  case requestStop running stopped => exact .inr stopped
  case wake => cases call <;> exact .inl owes
  case beginWait => unfold waitOn at owes; split at owes <;> cases owes
  case resumeWait => unfold waitOn at owes; split at owes <;> cases owes
  all_goals first | exact .inl owes | exact .inl rfl

/-- A permit to look for room is owed until it is there. -/
theorem CallMove.owesSpace (move : CallMove e e' call call') (owes : call.owesSpace = true) :
    call'.owesSpace = true ∨ e'.spacePermit = true := by
  cases move
  case permitSpace permitted => exact .inr permitted
  case wake => cases call <;> exact .inl owes
  all_goals first | exact .inl owes | cases owes

end Engine

end ByteTap
