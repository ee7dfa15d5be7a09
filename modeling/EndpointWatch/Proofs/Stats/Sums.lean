import EndpointWatch.Proofs.Stats.Tally
import EndpointWatch.Storage.Memory

/-!
# Statistics add up

The statistics of two lists of results together are those of each added up, in whatever order the results are gone
through (`addsUp_in_any_order`). Every result is a success, a failure or neither, and the mean is rounded from exact
numbers as long as the times add up to less than `2 ^ 64`.
-/

namespace EndpointWatch

namespace CheckResult

theorem countP_kinds (rs : List CheckResult) :
    rs.countP isUp + rs.countP isDown + rs.countP isNeutral = rs.length := by
  induction rs with
  | nil => rfl
  | cons r rs ih =>
    have hone := r.toNat_kinds
    have hite (b : Bool) : (if b = true then 1 else 0) = b.toNat := by cases b <;> rfl
    simp only [List.countP_cons, List.length_cons, hite]
    omega

end CheckResult

namespace ResultStats

open Storage

/-- Statistics of the results of two lists, in terms of the statistics `sa` and `sb` of each. -/
structure AddsUp (a b : List CheckResult) (sa sb s : ResultStats) : Prop where
  total : s.total = sa.total + sb.total
  successful : s.successful = sa.successful + sb.successful
  failed : s.failed = sa.failed + sb.failed
  /-- The larger maximum; there is none only if neither has one. -/
  maximumTime? : s.maximumTime? = max sa.maximumTime? sb.maximumTime?
  /-- The mean is rounded from the exact sum of the times that are not zero, and their exact number. -/
  averageTime? : times a ++ times b ≠ [] → ∃ sum : UInt64,
    sum.toNat = ((times a).map UInt64.toNat).sum + ((times b).map UInt64.toNat).sum ∧
      s.averageTime? = some (sum.toFloat / Float.ofNat ((times a).length + (times b).length))
  length : s.total = (a ++ b).length
  neutral : s.successful + s.failed + (a ++ b).countP CheckResult.isNeutral = s.total
  averageTime?_eq_none : s.averageTime? = none ↔ ∀ r ∈ a ++ b, r.responseTime = 0
  maximumTime?_eq_none : s.maximumTime? = none ↔ ∀ r ∈ a ++ b, r.responseTime = 0

variable {a b : List CheckResult}

theorem mean?_eq_none_iff {ts : List UInt64} : mean? ts = none ↔ ts = [] := by
  cases ts with
  | nil => exact ⟨fun _ => rfl, fun _ => rfl⟩
  | cons t ts => exact iff_of_false (Option.some_ne_none _) (List.cons_ne_nil t ts)

theorem addsUp_append (h : timeOf (a ++ b) < 2 ^ 64) : AddsUp a b (ofSummary a) (ofSummary b) (ofSummary (a ++ b)) where
  total := List.length_append
  successful := List.countP_append
  failed := List.countP_append
  maximumTime? := by
    rw [ofSummary, times_append]
    exact max?_append_option ..
  averageTime? hne := by
    have hsum : ((times a).map UInt64.toNat).sum + ((times b).map UInt64.toNat).sum = timeOf (a ++ b) := by
      rw [sum_times, sum_times]
      exact (timeOf_append a b).symm
    refine ⟨.ofNat (timeOf (a ++ b)), (UInt64.toNat_ofNat_of_lt h).trans hsum.symm, ?_⟩
    rw [← times_append] at hne
    rw [← List.length_append, ← times_append, ofSummary, mean?, if_neg (mt List.isEmpty_iff.mp hne), sum_times]
    rfl
  length := rfl
  neutral := CheckResult.countP_kinds (a ++ b)
  averageTime?_eq_none := by
    rw [← times_eq_nil_iff]
    exact mean?_eq_none_iff
  maximumTime?_eq_none := by
    rw [← times_eq_nil_iff]
    exact List.max?_eq_none_iff

/-- The results of some windows that are later than an instant. -/
def keptSince (since : Instant) (ws : List (Window resultsPerEndpoint CheckResult)) : List CheckResult :=
  (ws.flatMap Window.oldestFirst).filter fun r => since.lt r.checkedAt

theorem keptSince_perm (since : Instant) {ws vs : List (Window resultsPerEndpoint CheckResult)} (h : ws.Perm vs) :
    (keptSince since ws).Perm (keptSince since vs) :=
  (h.flatMap_right _).filter _

/-- Statistics do not depend on the order of the results, and add up over two lists of them. So do those of the store
in memory, in whatever order it goes through its windows. -/
theorem addsUp_in_any_order (h : timeOf (a ++ b) < 2 ^ 64) :
    ∃ sa sb s, ofResults? a = some sa ∧ ofResults? b = some sb ∧ AddsUp a b sa sb s ∧
      (∀ rs, rs.Perm (a ++ b) → ofResults? rs = some s) ∧
      ∀ (m : Memory) (since : Instant) (ws : List (Window resultsPerEndpoint CheckResult)),
        ws.Perm m.results.values → keptSince since ws = a ++ b → m.resultStats? since = some s := by
  have hsum := timeOf_append a b
  have ha : ofResults? a = some (ofSummary a) := (ofResults?_eq a).trans (if_pos (by omega))
  have hb : ofResults? b = some (ofSummary b) := (ofResults?_eq b).trans (if_pos (by omega))
  have hany (rs : List CheckResult) (hp : rs.Perm (a ++ b)) : ofResults? rs = some (ofSummary (a ++ b)) :=
    (ofResults?_perm hp).trans ((ofResults?_eq _).trans (if_pos h))
  refine ⟨_, _, _, ha, hb, addsUp_append h, hany, fun m since ws hws hkept => hany _ ?_⟩
  rw [← hkept]
  exact keptSince_perm since hws.symm

/-- A success, a redirection without a time and two failures, gone through backwards. -/
theorem addsUp_of_reversed :
    let a : List CheckResult := [.completed 1 100 200 .epoch, .completed 1 0 302 .epoch]
    let b : List CheckResult := [.failed 2 0 "timeout" .epoch, .completed 2 9223372036854775808 503 .epoch]
    timeOf (a ++ b) < 2 ^ 64 ∧ (b.reverse ++ a.reverse).Perm (a ++ b) ∧
      ∃ sa sb s, AddsUp a b sa sb s ∧ ofResults? (b.reverse ++ a.reverse) = some s := by
  intro a b
  have hlt : timeOf (a ++ b) < 2 ^ 64 := by decide +kernel
  have hperm : (b.reverse ++ a.reverse).Perm (a ++ b) := by
    rw [← List.reverse_append]
    exact List.reverse_perm _
  obtain ⟨sa, sb, s, -, -, hadds, hany, -⟩ := addsUp_in_any_order hlt
  exact ⟨hlt, hperm, sa, sb, s, hadds, hany _ hperm⟩

end ResultStats

end EndpointWatch
