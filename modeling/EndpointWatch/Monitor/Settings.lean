import EndpointWatch.Check.Checker
import EndpointWatch.Config.Basic

/-!
# Settings of a monitor

How a monitor hands results on, how long its cycles and requests may take, and what its configuration says of that.
All times are in milliseconds.
-/

namespace EndpointWatch

/-- How saved results are handed on: how often a delivery calls, how long it may take, and whether there is an
evaluator to call. -/
structure HandOver where
  policy : Retry.Policy Float
  limit : Nat
  hasEvaluator : Bool

/-- Five seconds for a delivery. -/
def HandOver.standard : HandOver := ⟨.standard, 5_000, false⟩

/-- Five minutes for a cycle. -/
def standardCycleLimit : Nat := 300_000

/-- Half a minute for a request. -/
def standardClientLimit : Nat := 30_000

namespace MonitorConfig

def millis (seconds : UInt64) : Nat := seconds.toNat * 1000

/-- Deliveries are repeated as probes are. -/
def handOver (c : MonitorConfig) : HandOver := ⟨c.retry, millis c.effectiveNotifyTimeout, c.evaluatorUrl.isSome⟩

def cycleLimit (c : MonitorConfig) : Nat := millis c.effectiveCycleTimeout

def clientLimit (c : MonitorConfig) : Nat := millis c.effectiveHttpTimeout

def checker (c : MonitorConfig) : Checker := .fresh c.retry c.breaker

end MonitorConfig

end EndpointWatch
