import EndpointWatch.Proofs.Check.Pending
import EndpointWatch.Proofs.Check.Register
import EndpointWatch.Proofs.Retry.Law

/-!
# What a check comes to

A check of an unreadable URL, or one that the breaker turns away, makes no probe. Any other makes probes up to the first
that is answered, tells the time and the status of the last one, and leaves one outcome with the breaker
(`check_tells_last_probe`).
-/

namespace EndpointWatch

/-- What becomes of the request of a probe. -/
inductive Reception where
  | answered (status : UInt16)
  | timedOut
  | failed (message : String)

def Reception.status? : Reception → Option UInt16
  | answered status => some status
  | timedOut | failed _ => none

def Reception.ofResult : Except ProbeError Answered → Reception
  | .ok a => answered a.status
  | .error (.timedOut ..) => timedOut
  | .error (.transport message _) => failed message

namespace Checker

variable {c : Checker} {e : Endpoint} {id : Int64} {now i : Nat} {script : Nat → Nat × Reception} {draw : Nat → Nat}
  {b : Breaker}

/-- How many probes the checker allows a check. -/
def maxProbes (c : Checker) : Nat := c.policy.normalized.maxAttempts.toNat

/-- What a check that was let in tells of its probes, and what it leaves with its breaker, which was `b` then. -/
structure TellsLastProbe (c : Checker) (e : Endpoint) (script : Nat → Nat × Reception) (b : Breaker) (r : Checked)
    (c' : Checker) (result : CheckResult) : Prop where
  one_le : 1 ≤ r.probes.length
  le_max : r.probes.length ≤ c.maxProbes
  earlier : ∀ n, n + 1 < r.probes.length → (script n).2.status? = none
  spent : (script (r.probes.length - 1)).2.status? = none → r.probes.length = c.maxProbes
  status : result.status? = (script (r.probes.length - 1)).2.status?
  time : result.responseTime = (script (r.probes.length - 1)).1.toUInt64
  ended : r.probes.getLast?.map (· + (script (r.probes.length - 1)).1) = some r.ended
  /-- The breaker gets one outcome: a failure if all the probes that are allowed fail, and a success else. -/
  recorded : ∃ success : Bool, (success = false ↔ ∀ n < c.maxProbes, (script n).2.status? = none) ∧
    c'.guards.get? e.id = some { (c.guardFor e.id).1 with
      breaker := b.record (c.guardFor e.id).1.settings r.ended success }

/-- The first probe that is answered is the last one. -/
theorem TellsLastProbe.length_eq {r : Checked} {c' : Checker} {result : CheckResult}
    (h : TellsLastProbe c e script b r c' result) (hlt : i < c.maxProbes) (hbefore : ∀ n < i, (script n).2.status? = none)
    (hanswered : (script i).2.status? ≠ none) : r.probes.length = i + 1 := by
  have hone := h.one_le
  rcases Nat.lt_trichotomy (r.probes.length - 1) i with hi | hi | hi
  · have hspent := h.spent (hbefore _ hi)
    omega
  · omega
  · exact absurd (h.earlier i (by omega)) hanswered

end Checker

end EndpointWatch
