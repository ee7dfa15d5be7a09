import EndpointWatch.Record.CheckResult
import EndpointWatch.Retry.Run

/-!
# Handing saved results on

A saved result goes to the result stream and to the alert evaluator, each by a `Delivery` of its own. A delivery
calls until a call succeeds, the attempts are spent or its time is up.
-/

namespace EndpointWatch

/-- Where saved results go. -/
inductive Channel where
  | stream
  | evaluator
  deriving DecidableEq, Repr

/-- What a delivery does: wait for the time of its next call, or call. -/
inductive Delivery.Stage where
  | waiting (due : Nat)
  | calling
  deriving DecidableEq, Repr

/-- A delivery under way. `calls` counts the calls that it has begun. `began` is the time at which it was spawned, and
its limit counts from there: that a limit counts only from the time at which the delivery first gets its turn is left
out, as if it always got it at once. -/
structure Delivery where
  channel : Channel
  result : CheckResult
  began : Nat
  calls : Nat
  stage : Delivery.Stage
  deriving DecidableEq, Repr

namespace Delivery

/-- A delivery whose first call is due. -/
def start (channel : Channel) (r : CheckResult) (now : Nat) : Delivery := ⟨channel, r, now, 0, .waiting now⟩

def deadline (limit : Nat) (d : Delivery) : Nat := d.began + limit

def isWaiting (d : Delivery) : Bool :=
  match d.stage with
  | .waiting _ => true
  | .calling => false

/-- A call begins, if one is due and the time is not up. -/
def call? (limit now : Nat) (d : Delivery) : Option Delivery :=
  match d.stage with
  | .waiting due =>
    if due ≤ now && now ≤ d.deadline limit then some { d with calls := d.calls + 1, stage := .calling }
    else none
  | .calling => none

/-- The delivery after a call that failed, if another one follows. -/
def retry? {α : Type} [Retry.Magnitude α] (p : Retry.Policy α) (now : Nat) (d : Delivery) : Option Delivery :=
  (p.wait? d.calls).map fun ms => { d with stage := .waiting (now + ms) }

end Delivery

end EndpointWatch
