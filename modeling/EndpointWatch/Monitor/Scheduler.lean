import EndpointWatch.Monitor.Basic
import EndpointWatch.Monitor.Ticker

/-!
# Schedulers

A `Scheduler` begins a cycle whenever its ticker is due, and looks at the ticker again when that cycle has ended, in
whatever way. It notices a shutdown between two turns only.
-/

namespace EndpointWatch

/-- What a scheduler is at. The cycle of a turn has a number once its endpoints are fetched. -/
inductive Scheduler.Stage where
  | waiting
  | fetching (since : Nat)
  | running (since cycle : Nat)
  | stopped
  deriving DecidableEq, Repr

structure Scheduler where
  ticker : Ticker
  stage : Scheduler.Stage
  deriving DecidableEq, Repr

/-- A turn of a scheduler that is over: its cycle, when it began and ended, and what came of it. -/
structure Turn where
  cycle : Nat
  began : Nat
  ended : Nat
  outcome : Except CycleError CycleReport

namespace Scheduler

def start (perMilli interval now : Nat) : Scheduler := ⟨.start perMilli interval now, .waiting⟩

/-- A turn begins. -/
def tick? (now : Nat) (s : Scheduler) : Option Scheduler :=
  match s.stage with
  | .waiting => (s.ticker.serve? now).map fun ticker => ⟨ticker, .fetching now⟩
  | _ => none

/-- The fetch is through. -/
def fetched? (cycle : Nat) (s : Scheduler) : Option Scheduler :=
  match s.stage with
  | .fetching since => some { s with stage := .running since cycle }
  | _ => none

/-- The turn is over when its cycle has ended. -/
def resume? (now : Nat) (m : Monitor) (s : Scheduler) : Option (Turn × Scheduler) :=
  match s.stage with
  | .running since cycle =>
    (m.outcome? cycle).map fun outcome => (⟨cycle, since, now, outcome⟩, { s with stage := .waiting })
  | _ => none

/-- The scheduler stops. -/
def stop? (s : Scheduler) : Option Scheduler :=
  match s.stage with
  | .waiting => some { s with stage := .stopped }
  | _ => none

end Scheduler

end EndpointWatch
