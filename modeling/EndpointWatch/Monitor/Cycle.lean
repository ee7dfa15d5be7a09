import EndpointWatch.Record.CheckResult
import EndpointWatch.Storage.Operation
import EndpointWatch.Text.Duration

/-!
# Cycles

In a cycle every active endpoint is checked once. The checks run on their own and hand in their results, for which
the cycle has an inbox of limited size; the cycle takes one result after the other and saves it, and is complete when
all results are in and handled.
-/

namespace EndpointWatch

/-- How many results a cycle has taken, saved, and failed to save. -/
structure CycleReport where
  checked : Nat
  persisted : Nat
  failed : Nat
  deriving DecidableEq, Repr

def CycleReport.empty : CycleReport := ⟨0, 0, 0⟩

/-- Why a cycle ended early. A deadline is in milliseconds. -/
inductive CycleError where
  | cancelled
  | deadline (limit : Nat)
  | fetch (e : StorageError)
  deriving DecidableEq, Repr

def CycleError.message : CycleError → String
  | cancelled => "monitoring cycle cancelled"
  | deadline limit => s!"monitoring cycle exceeded its deadline of {String.ofList (Text.duration limit)}"
  | fetch e => s!"failed to get active endpoints: {e.message}"

/-- A cycle under way: how many results fit into its inbox, how many checks have not handed in yet, the results that
wait, and the one being saved. -/
structure Cycle where
  capacity : Nat
  outstanding : Nat
  inbox : List CheckResult
  saving? : Option CheckResult
  report : CycleReport
  deriving DecidableEq, Repr

namespace Cycle

/-- A cycle over that many endpoints, with room for a result of each. -/
def start (endpoints : Nat) : Cycle := ⟨endpoints, endpoints, [], none, .empty⟩

/-- A check hands in its result, if there is room for it. -/
def deliver? (r : CheckResult) (c : Cycle) : Option Cycle :=
  if c.inbox.length < c.capacity then
    some { c with outstanding := c.outstanding - 1, inbox := c.inbox ++ [r] }
  else none

/-- The cycle takes the oldest result that waits, to save it. -/
def take? (c : Cycle) : Option Cycle :=
  match c.saving?, c.inbox with
  | none, r :: rest =>
    some { c with inbox := rest, saving? := some r, report := { c.report with checked := c.report.checked + 1 } }
  | _, _ => none

/-- The result that was taken is saved, or could not be. -/
def saved? (success : Bool) (c : Cycle) : Option (CheckResult × Cycle) :=
  c.saving?.map fun r =>
    (r, { c with
      saving? := none
      report :=
        if success then { c.report with persisted := c.report.persisted + 1 }
        else { c.report with failed := c.report.failed + 1 } })

/-- Whether nothing is left to wait for. -/
def isComplete (c : Cycle) : Bool := c.saving?.isNone && c.inbox.isEmpty && c.outstanding = 0

end Cycle

end EndpointWatch
