import EndpointWatch.Record.Metric
import EndpointWatch.Text.Quoted

/-!
# Collectors

A `Collector` yields metrics when it runs. `Collected` is how one run of it ends, `CollectError` what can go wrong
around it.
-/

namespace EndpointWatch

/-- How one run of a collector ends. A crash takes its whole task down. -/
inductive Collected where
  | metrics (ms : List Metric)
  | failed (reason : String)
  | crashed (text : String)
  deriving Inhabited

/-- A collector: whether it is switched on, how many milliseconds a run takes, and how it ends. A run may fire
the cancellation of whoever started it, just before it ends. -/
structure Collector where
  isEnabled : Bool
  lasts : Nat
  cancels : Bool
  result : Collected
  deriving Inhabited

inductive CollectError where
  | emptyName
  | duplicate (name : String)
  | notFound (name : String)
  | failed (name reason : String)
  | cancelled
  deriving DecidableEq, Repr

namespace CollectError

def message : CollectError → String
  | emptyName => "collector name cannot be empty"
  | duplicate name => s!"collector '{name}' already registered"
  | notFound name => s!"collector '{name}' not found"
  | failed name reason => s!"collector '{name}' failed: {reason}"
  | cancelled => "collection cancelled"

end CollectError

namespace Collected

def metrics? : Collected → Option (List Metric)
  | metrics ms => some ms
  | failed _ | crashed _ => none

/-- What the run of the named collector is to blame for. The number of a crashed task is not told. -/
def error? (name : String) : Collected → Option CollectError
  | metrics _ => none
  | failed reason => some (.failed name reason)
  | crashed text => some (.failed name s!"collector task failed: task N panicked with message {Text.quoted text}")

theorem error?_eq_none_iff (name : String) (r : Collected) : r.error? name = none ↔ r.metrics?.isSome := by
  cases r <;> simp [error?, metrics?]

end Collected

end EndpointWatch
