import EndpointWatch.Evaluator.Address
import EndpointWatch.Http.Client
import EndpointWatch.Record.CheckResult

/-!
# Telling the alert evaluation service

A result is posted as JSON. Any answer will do; only a request without an answer has failed.
-/

namespace EndpointWatch.Evaluator

/-- Posts a result to the service under a base address, waiting `limit` milliseconds at most. -/
def notify (base : String) (limit : Nat) (r : CheckResult) (net : Http.Network) : Http.Reply × Http.Network :=
  match Url.read? (address base) with
  | none => (⟨0, .error .noUrl⟩, net)
  | some u => Http.send limit (.postJson u (.ofList r.write)) net

end EndpointWatch.Evaluator
