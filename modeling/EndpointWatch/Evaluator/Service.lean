import EndpointWatch.Evaluator.Notifier

/-!
# Alert evaluators

Who is told of saved results: the evaluation service under a base address, or one that follows a script.
-/

namespace EndpointWatch

/-- An alert evaluator. The calls of a scripted one all take the same time, and the first of them fail. -/
inductive Evaluator where
  | service (base : String)
  | scripted (failing lasts : Nat)
  deriving DecidableEq, Repr

namespace Evaluator

/-- How long a call of the service can take, in milliseconds. -/
def callLimit : Nat := 30_000

/-- One call, the one after `made` others: how long it takes, and whether it succeeds. -/
def call (e : Evaluator) (made : Nat) (r : CheckResult) (net : Http.Network) : (Nat × Bool) × Http.Network :=
  match e with
  | service base =>
    let (reply, net) := notify base callLimit r net
    ((reply.elapsed, reply.result.isOk), net)
  | scripted failing lasts => ((lasts, failing ≤ made), net)

end Evaluator

end EndpointWatch
