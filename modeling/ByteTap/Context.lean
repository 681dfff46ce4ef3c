import ByteTap.Fault

/-!
# Execution contexts

The event loop that the worker drives.  An engine takes over a loop on one thread only: on several,
completions and consumers would run beside the worker.
-/

namespace ByteTap

/-- How many threads an event loop uses. -/
inductive Flavor where
  | currentThread
  | multiThread
  deriving DecidableEq, Repr

/-- The name of a flavor. -/
def Flavor.name : Flavor → String
  | currentThread => "CurrentThread"
  | multiThread => "MultiThread"

/-- An event loop that an engine can take over. -/
structure Context where
  flavor : Flavor := .currentThread
  single : flavor = .currentThread := by rfl

namespace Context

/-- Takes over an event loop, unless it uses several threads. -/
def ofFlavor : Flavor → Except Fault Context
  | .currentThread => .ok {}
  | .multiThread =>
      .error (.invalidConfiguration
        ("execution context needs a current-thread runtime, got " ++ Flavor.multiThread.name))

/-- The context in words. -/
def describe (c : Context) : String :=
  "ExecutionContext \x7b flavor: " ++ c.flavor.name ++ " \x7d"

end Context

end ByteTap
