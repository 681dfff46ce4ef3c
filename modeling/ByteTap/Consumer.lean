import ByteTap.Bytes

/-!
# Consumers

A consumer is the owner's callback: after every read that delivered bytes it is shown everything
that has accumulated, and answers how many of the leading bytes it is done with.  It may also ask
for the shutdown of the engine, and it may panic.

What a consumer does is a function of everything it was shown so far.
-/

namespace ByteTap

/-- What a panic carries. -/
inductive Payload where
  | text (message : String)
  | other
  deriving DecidableEq, Repr

/-- A panic in words. -/
def Payload.reason : Payload → String
  | text message => message
  | other => "unknown panic payload"

/-- What a consumer does when it is called. -/
structure Reply where
  /-- The number of leading bytes it is done with. -/
  amount : Nat := 0
  /-- It asks for the shutdown of the engine. -/
  stops : Bool := false
  /-- It panics instead of returning. -/
  panic : Option Payload := none
  deriving DecidableEq, Repr

/-- A consumer: its reply to what it was shown, from the newest to the oldest. -/
structure Consumer where
  reply : List Bytes → Reply

namespace Consumer

/-- Done with an amount that depends on the bytes shown. -/
def ofAmount (amount : Bytes → Nat) : Consumer where
  reply
    | [] => {}
    | shown :: _ => { amount := amount shown }

/-- Done with nothing. -/
def observe : Consumer := ofAmount fun _ => 0

/-- Done with everything. -/
def all : Consumer := ofAmount List.length

/-- Done with half of it, rounded down. -/
def half : Consumer := ofAmount fun shown => shown.length / 2

/-- Done with everything through the last line feed. -/
def lines : Consumer :=
  ofAmount fun shown => (shown.reverse.dropWhile (· != 10)).length

/-- Done with the given amounts, one a call; the last one counts for all later calls. -/
def amounts (list : List Nat) : Consumer where
  reply history := { amount := list.getD (history.length - 1) (list.getLastD 0) }

/-- The same consumer, which also asks for shutdown at its `k`-th call. -/
def stoppingAt (c : Consumer) (k : Nat) : Consumer where
  reply history := { c.reply history with stops := (c.reply history).stops || history.length == k }

/-- The same consumer, which panics at its `k`-th call. -/
def panickingAt (c : Consumer) (k : Nat) (payload : Payload) : Consumer where
  reply history :=
    { c.reply history with
      panic := if history.length = k then some payload else (c.reply history).panic }

end Consumer

end ByteTap
