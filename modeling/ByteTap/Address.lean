import ByteTap.Number.Word
import ByteTap.Text.Parts
import ByteTap.Transport.Stream

/-!
# Network addresses

An address is a host and a port with a colon between them.  What lies behind an address is up to the
network; on a machine without one, nothing can be reached.
-/

namespace ByteTap

/-- A host and a port. -/
structure Address where
  host : String
  port : UInt16
  deriving DecidableEq, Repr

namespace Address

/-- The failure of a text that is no address. -/
def malformed (text : String) : IoFailure := ⟨.invalidInput, text⟩

/-- Reads an address; the port stands behind the last colon. -/
def parse (text : String) : Except IoFailure Address :=
  match text.toList.reverse.span (· ≠ ':') with
  | (port, _ :: host) =>
      match Word.parse (String.ofList port.reverse) with
      | .ok n =>
          if n.toNat < UInt16.size then .ok ⟨String.ofList host.reverse, UInt16.ofNat n.toNat⟩
          else .error (malformed "invalid port value")
      | .error _ => .error (malformed "invalid port value")
  | (_, []) => .error (malformed "invalid socket address")

/-- A part of a host that is written as four numbers. -/
def isOctet (part : String) : Bool :=
  match Word.parse part with
  | .ok n => n.toNat < 256 && part.toList.all Char.isDigit
  | .error _ => false

/-- The host is written as numbers, so that it need not be looked up. -/
def isNumeric (a : Address) : Bool :=
  let parts := Text.parts '.' a.host
  (parts.length == 4 && parts.all isOctet)
    || (a.host.toList.head? == some '[' && a.host.toList.getLast? == some ']')

end Address

/-- What a network does with a wish to connect. -/
abbrev Network := Address → Except IoFailure (Stream Pipe)

namespace Network

/-- The failure to reach a host. -/
def unreachable : IoFailure := ⟨.networkUnreachable, "Network is unreachable (os error 101)"⟩

/-- The failure to look up a host. -/
def unknownHost : IoFailure :=
  ⟨.other, "failed to lookup address information: Temporary failure in name resolution"⟩

/-- No network: no host can be looked up but the machine itself, and none can be reached. -/
def isolated : Network := fun address =>
  if address.isNumeric || address.host == "localhost" then .error unreachable
  else .error unknownHost

end Network

end ByteTap
