/-!
# Bytes as text

Byte strings are lists of `UInt8`.  Logs and reports write them in lower-case hexadecimal, two
digits a byte.
-/

namespace ByteTap

/-- A byte string. -/
abbrev Bytes := List UInt8

namespace Bytes

/-- The two hexadecimal digits of a byte, the high one first. -/
def hexDigits (b : UInt8) : List Char :=
  [Nat.digitChar (b.toNat / 16), Nat.digitChar (b.toNat % 16)]

/-- Lower-case hexadecimal text, two digits a byte. -/
def hex (bytes : Bytes) : String :=
  String.ofList (bytes.flatMap hexDigits)

end Bytes

end ByteTap
