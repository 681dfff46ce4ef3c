import ByteTap.Fault

/-!
# The capacity policy

What the engine does with a full buffer: wait until the owner makes room, or drop everything and
read on.  On the command line the policy is written in any mixture of upper and lower case; in
documents only its lower-case name stands for it (`Document.Decode`).
-/

namespace ByteTap

/-- What happens once the buffer is full. -/
inductive Policy where
  /-- Issue a zero-length read, report the full buffer once, and wait for room. -/
  | stall
  /-- Drop everything that was accumulated, report it, and read on. -/
  | discard
  deriving DecidableEq, Repr, Inhabited

namespace Policy

/-- Every policy. -/
def all : List Policy := [stall, discard]

/-- The name of a policy, in lower case. -/
def name : Policy → String
  | stall => "stall"
  | discard => "discard"

/-- The policy of exactly that name. -/
def ofName? (name : String) : Option Policy := all.find? (·.name == name)

/-- A text without the difference between the ASCII capitals and small letters. -/
def foldCase (s : String) : String := String.ofList (s.toList.map Char.toLower)

/-- The policy written in any mixture of upper and lower case. -/
def parse (text : String) : Except Fault Policy :=
  match ofName? (foldCase text) with
  | some policy => .ok policy
  | none => .error (.invalidConfiguration ("unknown capacity policy '" ++ foldCase text ++ "'"))

end Policy

end ByteTap
