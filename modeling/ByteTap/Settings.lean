import ByteTap.Policy
import ByteTap.Text.Blank

/-!
# Engine settings

The size of the buffer is the setting that matters most.  The others say what happens when the
buffer fills up, how long the engine waits after failed reads, and what the worker thread is called.

All numbers are 64-bit words, and the arithmetic on them saturates instead of wrapping.
-/

namespace ByteTap

/-- How an engine is set up. -/
structure Settings where
  /-- The size of the receive buffer in bytes. -/
  capacity : UInt64 := 8192
  /-- What happens once the buffer is full. -/
  policy : Policy := .stall
  /-- The wait after the first of a run of failed reads, in milliseconds. -/
  errorBackoffMs : UInt64 := 10
  /-- The longest wait after a failed read, in milliseconds. -/
  maxErrorBackoffMs : UInt64 := 1000
  /-- The name of the worker thread. -/
  workerName : String := "rxstream-worker"
  deriving DecidableEq, Repr, Inhabited

namespace Settings

/-- The default settings with another buffer size. -/
def ofCapacity (capacity : UInt64) : Settings := { capacity }

/-- A small buffer and short waits, for tests. -/
def forTesting : Settings where
  capacity := 256
  errorBackoffMs := 1
  maxErrorBackoffMs := 5
  workerName := "rxstream-test-worker"

/-! ## Waiting after failed reads -/

/-- The product of two words, or the largest word if it does not fit. -/
def saturatingMul (a b : UInt64) : UInt64 :=
  if a.toNat * b.toNat < UInt64.size then a * b else UInt64.ofNat (UInt64.size - 1)

/-- How often the wait has doubled after that many failed reads in a row: at most 16 times. -/
def doublings (failures : Nat) : Nat := min (failures - 1) 16

/-- The wait in milliseconds after that many failed reads in a row. -/
def backoff (s : Settings) (failures : Nat) : UInt64 :=
  min (saturatingMul s.errorBackoffMs (UInt64.ofNat (Nat.pow 2 (doublings failures))))
    s.maxErrorBackoffMs

/-! ## Validity -/

/-- What makes settings useless. -/
inductive Defect where
  | zeroCapacity
  | blankName
  | nulInName
  | backoffOrder (longest first : UInt64)
  deriving DecidableEq, Repr

/-- What a defect says. -/
def Defect.message : Defect → String
  | zeroCapacity => "buffer capacity must be greater than 0"
  | blankName => "worker thread name must not be empty"
  | nulInName => "worker thread name must not contain NUL bytes"
  | backoffOrder longest first =>
      "max_error_backoff_ms (" ++ toString longest.toNat ++ ") is smaller than error_backoff_ms ("
        ++ toString first.toNat ++ ")"

/-- The first defect of the settings, if any. -/
def defect? (s : Settings) : Option Defect :=
  if s.capacity = 0 then some .zeroCapacity
  else if Text.isAllBlank s.workerName then some .blankName
  else if s.workerName.toList.contains '\x00' then some .nulInName
  else if s.maxErrorBackoffMs < s.errorBackoffMs then
    some (.backoffOrder s.maxErrorBackoffMs s.errorBackoffMs)
  else none

/-- Refuses settings that an engine cannot run with. -/
def validate (s : Settings) : Except Fault Unit :=
  match s.defect? with
  | some defect => .error (.invalidConfiguration defect.message)
  | none => .ok ()

end Settings

end ByteTap
