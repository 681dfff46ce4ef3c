import ByteTap.Transport.Script
import ByteTap.Transport.Stream

/-!
# Any of the transports

A silent transport never answers; a line is any transport of the library.
-/

namespace ByteTap

/-- A transport that never answers a read. -/
structure Silent where
  isOpen : Bool := true
  deriving DecidableEq, Repr

namespace Silent

instance : Transport Silent where
  label _ := "transport"
  isOpen s := s.isOpen
  issue s _ := s
  poll s _ := { transport := s, result := none }
  abandon s := s
  shut _ := { transport := ⟨false⟩ }
  release s := s
  backlog _ := 0

end Silent

/-- Any of the transports. -/
inductive Line where
  | script (script : Script)
  | pipe (stream : Stream Pipe)
  | file (stream : Stream Content)
  | silent (silent : Silent)

namespace Polled

/-- The same finding, with the transport seen as another. -/
def map {τ υ : Type} (f : τ → υ) (p : Polled τ) : Polled υ := ⟨f p.transport, p.result, p.notes⟩

end Polled

namespace Shut

/-- The same closing, with the transport seen as another. -/
def map {τ υ : Type} (f : τ → υ) (s : Shut τ) : Shut υ := ⟨f s.transport, s.failure, s.notes⟩

end Shut

namespace Line

instance : Transport Line where
  label
    | script t => Transport.label t
    | pipe t => Transport.label t
    | file t => Transport.label t
    | silent t => Transport.label t
  isOpen
    | script t => Transport.isOpen t
    | pipe t => Transport.isOpen t
    | file t => Transport.isOpen t
    | silent t => Transport.isOpen t
  issue
    | script t, room => script (Transport.issue t room)
    | pipe t, room => pipe (Transport.issue t room)
    | file t, room => file (Transport.issue t room)
    | silent t, room => silent (Transport.issue t room)
  poll
    | script t, room => (Transport.poll t room).map script
    | pipe t, room => (Transport.poll t room).map pipe
    | file t, room => (Transport.poll t room).map file
    | silent t, room => (Transport.poll t room).map silent
  abandon
    | script t => script (Transport.abandon t)
    | pipe t => pipe (Transport.abandon t)
    | file t => file (Transport.abandon t)
    | silent t => silent (Transport.abandon t)
  shut
    | script t => (Transport.shut t).map script
    | pipe t => (Transport.shut t).map pipe
    | file t => (Transport.shut t).map file
    | silent t => (Transport.shut t).map silent
  release
    | script t => script (Transport.release t)
    | pipe t => pipe (Transport.release t)
    | file t => file (Transport.release t)
    | silent t => silent (Transport.release t)
  backlog
    | script t => Transport.backlog t
    | pipe t => Transport.backlog t
    | file t => Transport.backlog t
    | silent t => Transport.backlog t

/-- The probe of a scripted line. -/
def probe? : Line → Option Probe
  | script t => some t.probe
  | _ => none

end Line

end ByteTap
