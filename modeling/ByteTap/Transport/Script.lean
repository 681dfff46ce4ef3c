import ByteTap.Transport

/-!
# Scripted transports

A transport whose reads end as a script says.  Each step of the script answers one read; data too
long for the destination are split, and what is left over is returned before the next step.
While the script is empty, reads stay pending like a quiet line.

A probe beside the script notes every read and every closing.
-/

namespace ByteTap

/-- How a scripted read ends. -/
inductive ScriptStep where
  /-- It delivers these bytes. -/
  | data (bytes : Bytes)
  /-- It delivers nothing, and does not fail. -/
  | zero
  /-- It fails; the transport stays open. -/
  | failure (kind : IoKind)
  /-- It fails and leaves the transport closed. -/
  | disconnect
  deriving DecidableEq, Repr

/-- What was done with a scripted transport. -/
structure Probe where
  /-- The room at the destination of every read, newest first. -/
  requestedRev : List Nat := []
  /-- A read has started and has neither ended nor been dropped. -/
  inFlight : Bool := false
  /-- Reads that started while another was in flight. -/
  overlapping : Nat := 0
  /-- Times the transport was closed. -/
  closes : Nat := 0
  deriving DecidableEq, Repr

namespace Probe

/-- The room at the destination of every read, in order. -/
def requested (p : Probe) : List Nat := p.requestedRev.reverse

/-- The number of reads. -/
def started (p : Probe) : Nat := p.requestedRev.length

/-- A read starts. -/
def begin (p : Probe) (room : Nat) : Probe :=
  { p with
    requestedRev := room :: p.requestedRev
    inFlight := true
    overlapping := if p.inFlight then p.overlapping + 1 else p.overlapping }

/-- The read in flight has ended or was dropped. -/
def finish (p : Probe) : Probe := { p with inFlight := false }

end Probe

/-- A transport whose reads end as a script says. -/
structure Script where
  label : String := "scripted"
  /-- Closing the transport reports a failure, though it closes. -/
  closeFails : Bool := false
  isOpen : Bool := true
  /-- The steps not yet taken. -/
  steps : List ScriptStep := []
  /-- What is left of data that were too long for a destination. -/
  leftover : Bytes := []
  probe : Probe := {}
  deriving DecidableEq, Repr

namespace Script

/-- Adds steps at the end of the script. -/
def push (s : Script) (steps : List ScriptStep) : Script := { s with steps := s.steps ++ steps }

/-- The read ends with as many of `bytes` as fit; the others are left over. -/
def deliver (s : Script) (bytes : Bytes) (room : Nat) : Polled Script where
  transport := { s with leftover := bytes.drop room }
  result := some (.ok (bytes.take room))

/-- The read ends as the first step of the script says. -/
def takeStep (s : Script) (room : Nat) : Polled Script :=
  match s.steps with
  | [] => { transport := s, result := none }
  | .data bytes :: rest => deliver { s with steps := rest } bytes room
  | .zero :: rest => { transport := { s with steps := rest }, result := some (.ok []) }
  | .failure kind :: rest =>
      { transport := { s with steps := rest }
        result := some (.error ⟨kind, "scripted read failure"⟩) }
  | .disconnect :: rest =>
      { transport := { s with steps := rest, isOpen := false }
        result := some (.error ⟨.unexpectedEnd, "scripted disconnect"⟩) }

/-- The result of the read in flight, before the probe takes note of it. -/
def answer (s : Script) (room : Nat) : Polled Script :=
  if !s.isOpen then
    { transport := s, result := some (.error ⟨.notConnected, "scripted transport closed"⟩) }
  else if room = 0 then { transport := s, result := some (.ok []) }
  else if s.leftover.isEmpty then s.takeStep room
  else s.deliver s.leftover room

/-- The read in flight has ended or was dropped. -/
def finish (s : Script) : Script := { s with probe := s.probe.finish }

/-- The result of the read in flight. -/
def poll (s : Script) (room : Nat) : Polled Script :=
  let polled := s.answer room
  match polled.result with
  | some _ => { polled with transport := polled.transport.finish }
  | none => polled

/-- Closes the transport. -/
def shut (s : Script) : Shut Script where
  transport := { s with isOpen := false, probe := { s.probe with closes := s.probe.closes + 1 } }
  failure := if s.closeFails then some ⟨.other, "scripted close failure"⟩ else none
  notes := ["Scripted transport " ++ s.label ++ " closed"]

/-- How many non-empty reads a step can answer. -/
def stepBacklog : ScriptStep → Nat
  | .data bytes => bytes.length + 1
  | _ => 1

/-- How many non-empty reads a list of steps can answer. -/
def stepsBacklog : List ScriptStep → Nat
  | [] => 0
  | step :: rest => stepBacklog step + stepsBacklog rest

instance : Transport Script where
  label s := s.label
  isOpen s := s.isOpen
  issue s room := { s with probe := s.probe.begin room }
  poll := poll
  abandon := finish
  shut := shut
  release s := s
  backlog s := s.leftover.length + stepsBacklog s.steps

end Script

end ByteTap
