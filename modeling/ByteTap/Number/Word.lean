/-!
# Words in decimal digits

A number of 64 bits as it is written on the command line and in addresses.
-/

namespace ByteTap

/-- Why a text is no number. -/
inductive NumberError where
  | empty
  | invalidDigit
  | tooLarge
  deriving DecidableEq, Repr

/-- What an error says. -/
def NumberError.message : NumberError → String
  | empty => "cannot parse integer from empty string"
  | invalidDigit => "invalid digit found in string"
  | tooLarge => "number too large to fit in target type"

namespace Word

/-- The number that digits write after one that is already there.  The first character at which
something is wrong decides. -/
def parseFrom (n : Nat) : List Char → Except NumberError UInt64
  | [] => .ok (UInt64.ofNat n)
  | c :: cs =>
      if !c.isDigit then .error .invalidDigit
      else
        let next := n * 10 + (c.toNat - 48)
        if next < UInt64.size then parseFrom next cs else .error .tooLarge

/-- The number that a text writes, with a plus sign or without one. -/
def parse (text : String) : Except NumberError UInt64 :=
  match text.toList with
  | [] => .error .empty
  | ['+'] => .error .invalidDigit
  | '+' :: cs => parseFrom 0 cs
  | cs => parseFrom 0 cs

end Word

end ByteTap
