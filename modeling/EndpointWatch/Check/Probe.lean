import EndpointWatch.Breaker.Session
import EndpointWatch.Http.Client
import EndpointWatch.Record.CheckResult
import EndpointWatch.Retry.Run

/-!
# Probes and what a check makes of them

A probe is one request to an endpoint. A check makes probes until one is answered or the attempts are spent; how
it ended is its `CheckOutcome`, and `CheckOutcome.result` is the result that is kept.
-/

namespace EndpointWatch

/-- Why a probe was not answered, and after how many milliseconds. -/
inductive ProbeError where
  | timedOut (limit elapsed : UInt64)
  | transport (message : String) (elapsed : UInt64)
  deriving DecidableEq, Repr

namespace ProbeError

def message : ProbeError → String
  | timedOut limit _ => s!"request timeout after {limit.toNat}ms"
  | transport message _ => message

def elapsed : ProbeError → UInt64
  | timedOut _ elapsed | transport _ elapsed => elapsed

end ProbeError

/-- An answered probe: its status and how many milliseconds it took. -/
structure Answered where
  status : UInt16
  elapsed : UInt64
  deriving DecidableEq, Repr

abbrev ProbeCall := Retry.Call ProbeError Answered

/-- Probes an endpoint over a network. `fallback` is the limit in milliseconds for endpoints without one. -/
def Endpoint.probe (e : Endpoint) (fallback : Nat) (net : Http.Network) : ProbeCall × Http.Network :=
  match Url.read? e.url with
  | none => (⟨0, .error (.transport Http.SendError.noUrl.message 0), false⟩, net)
  | some u =>
    let limit := if e.timeout = 0 then fallback else e.timeout.toNat
    let (reply, net) := Http.send limit (.get u e.requestHeaders) net
    let elapsed := reply.elapsed.toUInt64
    (⟨reply.elapsed, match reply.result with
      | .ok status => .ok ⟨status, elapsed⟩
      | .error (.timedOut _) => .error (.timedOut e.timeout elapsed)
      | .error err => .error (.transport err.message elapsed), false⟩, net)

/-- Why a check did not complete. -/
inductive CheckFailure where
  | invalidUrl
  | guarded (breaker : String) (f : Breaker.Failure (Retry.Stop ProbeError))
  deriving DecidableEq, Repr

abbrev CheckOutcome := Except CheckFailure Answered

namespace CheckFailure

def message : CheckFailure → String
  | invalidUrl => "invalid endpoint URL format"
  | guarded breaker f => s!"request failed: {f.message breaker (Retry.Stop.message ProbeError.message)}"

/-- How long the last probe took; 0 without one. -/
def elapsed : CheckFailure → UInt64
  | guarded _ (.inner s) => s.lastError?.elim 0 ProbeError.elapsed
  | invalidUrl | guarded _ .turnedAway | guarded _ .cancelled => 0

end CheckFailure

/-- The result of a check that ended at the given time. -/
def CheckOutcome.result (e : Endpoint) (at_ : Instant) : CheckOutcome → CheckResult
  | .ok a => .completed e.id a.elapsed a.status at_
  | .error f => .failed e.id f.elapsed f.message at_

end EndpointWatch
