import EndpointWatch.Text.Search

/-!
# The address of the alert evaluation service

Results are posted to a fixed path under the service's base address.
-/

namespace EndpointWatch.Evaluator

def path : String := "/api/monitoring/evaluate-alerts"

/-- The path behind the base without the slashes at its end. -/
def address (base : String) : String :=
  .ofList (Text.trimEnd (· = '/') base.toList) ++ path

end EndpointWatch.Evaluator
