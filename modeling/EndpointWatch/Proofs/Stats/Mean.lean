import Mathlib
import EndpointWatch.Proofs.Stats.Tally

/-!
# The mean of the times

As long as the response times come to less than `2 ^ 64`, results are tallied without a crash, and the mean lies between
the smallest time that is not zero and the largest. Otherwise it comes to a crash (`reportsMean_iff`), as with two times
that one could well have a mean of (`crashes_of_two_long_times`).
-/

namespace EndpointWatch.ResultStats

/-- The mean that a tally reports, before it is rounded to a double. -/
def meanOf (t : Tally) : ℚ := t.timeSum.toNat / t.timed

/-- What a tally reports is the mean of the times of some results. -/
structure IsMean (rs : List CheckResult) (t : Tally) : Prop where
  timeSum : t.timeSum.toNat = timeOf rs
  reported : (∃ r ∈ rs, r.responseTime ≠ 0) →
    t.stats.averageTime? = some (t.timeSum.toFloat / Float.ofNat t.timed)
  between : (∃ r ∈ rs, r.responseTime ≠ 0) → ∃ least largest : UInt64,
    IsLeast {t | t ≠ 0 ∧ ∃ r ∈ rs, r.responseTime = t} least ∧ IsGreatest {t | ∃ r ∈ rs, r.responseTime = t} largest ∧
      (least.toNat : ℚ) ≤ meanOf t ∧ meanOf t ≤ largest.toNat

/-- Results are tallied without a crash, and what is reported is the mean of their times. -/
def ReportsMean (rs : List CheckResult) : Prop :=
  ∃ t, Tally.ofResults? rs = some t ∧ ofResults? rs = some t.stats ∧ IsMean rs t

variable {rs : List CheckResult}

/-! ### The range of the mean -/

theorem mem_times {t : UInt64} : t ∈ times rs ↔ t ≠ 0 ∧ ∃ r ∈ rs, r.responseTime = t := by
  rw [times, List.mem_filter, List.mem_map, decide_eq_true_eq, UInt64.pos_iff_ne_zero, and_comm]

/-- The mean of numbers between two bounds lies between them. -/
theorem mean_mem_Icc {ts : List UInt64} {least largest : UInt64} (hne : ts ≠ [])
    (hlo : ∀ t ∈ ts, least ≤ t) (hhi : ∀ t ∈ ts, t ≤ largest) :
    (least.toNat : ℚ) ≤ ((ts.map UInt64.toNat).sum : ℚ) / ts.length ∧
      ((ts.map UInt64.toNat).sum : ℚ) / ts.length ≤ largest.toNat := by
  have hpos : (0 : ℚ) < ts.length := Nat.cast_pos.mpr (List.length_pos_iff.mpr hne)
  have hle : ts.length * least.toNat ≤ (ts.map UInt64.toNat).sum := by
    have := List.card_nsmul_le_sum (ts.map UInt64.toNat) least.toNat
      (List.forall_mem_map.mpr fun t ht => UInt64.le_iff_toNat_le.mp (hlo t ht))
    rwa [List.length_map, smul_eq_mul] at this
  have hge : (ts.map UInt64.toNat).sum ≤ ts.length * largest.toNat := by
    have := List.sum_le_card_nsmul (ts.map UInt64.toNat) largest.toNat
      (List.forall_mem_map.mpr fun t ht => UInt64.le_iff_toNat_le.mp (hhi t ht))
    rwa [List.length_map, smul_eq_mul] at this
  rw [le_div_iff₀ hpos, div_le_iff₀ hpos, mul_comm (least.toNat : ℚ), mul_comm (largest.toNat : ℚ)]
  exact ⟨mod_cast hle, mod_cast hge⟩

theorem meanOf_summary (h : timeOf rs < 2 ^ 64) :
    meanOf (Tally.summary rs) = (((times rs).map UInt64.toNat).sum : ℚ) / (times rs).length := by
  rw [meanOf, Tally.toNat_timeSum_summary h, sum_times]
  rfl

/-- Of some times one is the smallest that is not zero, and one is the largest of all. -/
theorem exists_least_largest (hne : times rs ≠ []) : ∃ least largest : UInt64,
    IsLeast {t | t ∈ times rs} least ∧ IsGreatest {t | ∃ r ∈ rs, r.responseTime = t} largest := by
  have hne : (times rs).toFinset.Nonempty := List.toFinset_nonempty_iff _ |>.mpr hne
  obtain ⟨least, hleast, hlo⟩ := (times rs).toFinset.exists_min_image UInt64.toNat hne
  obtain ⟨largest, hlargest, hhi⟩ := (times rs).toFinset.exists_max_image UInt64.toNat hne
  rw [List.mem_toFinset] at hleast hlargest
  refine ⟨least, largest, ⟨hleast, fun t ht => ?_⟩, (mem_times.mp hlargest).2, fun t ht => ?_⟩
  · exact UInt64.le_iff_toNat_le.mpr (hlo t (List.mem_toFinset.mpr ht))
  · by_cases h0 : t = 0
    · rw [h0]
      exact UInt64.zero_le
    · exact UInt64.le_iff_toNat_le.mpr (hhi t (List.mem_toFinset.mpr (mem_times.mpr ⟨h0, ht⟩)))

/-! ### The mean -/

theorem times_ne_nil (h : ∃ r ∈ rs, r.responseTime ≠ 0) : times rs ≠ [] := by
  rw [Ne, times_eq_nil_iff]
  intro hzero
  obtain ⟨r, hr, hne⟩ := h
  exact hne (hzero r hr)

theorem isMean_summary (h : timeOf rs < 2 ^ 64) : IsMean rs (Tally.summary rs) where
  timeSum := Tally.toNat_timeSum_summary h
  reported hsome := if_pos (List.length_pos_iff.mpr (times_ne_nil hsome))
  between hsome := by
    have hne := times_ne_nil hsome
    obtain ⟨least, largest, hleast, hlargest⟩ := exists_least_largest hne
    have hset : {t | t ≠ 0 ∧ ∃ r ∈ rs, r.responseTime = t} = {t | t ∈ times rs} := Set.ext fun t => mem_times.symm
    refine ⟨least, largest, hset ▸ hleast, hlargest, ?_⟩
    rw [meanOf_summary h]
    exact mean_mem_Icc hne (fun t ht => hleast.2 ht) fun t ht => hlargest.2 (mem_times.mp ht).2

/-- Results are tallied and the mean of their times is reported exactly if these come to less than `2 ^ 64`; otherwise it
comes to a crash. -/
theorem reportsMean_iff (rs : List CheckResult) :
    (ReportsMean rs ↔ timeOf rs < 2 ^ 64) ∧ (ofResults? rs = none ↔ 2 ^ 64 ≤ timeOf rs) := by
  have htally := Tally.ofResults?_eq rs
  by_cases h : timeOf rs < 2 ^ 64
  · rw [if_pos h] at htally
    have hstats : ofResults? rs = some (Tally.summary rs).stats := congrArg (Option.map Tally.stats) htally
    refine ⟨iff_of_true ⟨_, htally, hstats, isMean_summary h⟩ h, iff_of_false ?_ (Nat.not_le.mpr h)⟩
    rw [hstats]
    exact Option.some_ne_none _
  · rw [if_neg h] at htally
    refine ⟨iff_of_false ?_ h, iff_of_true (congrArg (Option.map Tally.stats) htally) (Nat.not_lt.mp h)⟩
    rintro ⟨t, ht, -⟩
    cases htally.symm.trans ht

/-- Two times of `2 ^ 63` are too much: no mean is reported. -/
theorem crashes_of_two_long_times :
    let r : CheckResult := .completed 1 (2 ^ 63) 200 .epoch
    ofResults? [r, r] = none ∧ ¬ReportsMean [r, r] := by
  intro r
  have hnone : Tally.ofResults? [r, r] = none := by decide +kernel
  refine ⟨congrArg (Option.map Tally.stats) hnone, ?_⟩
  rintro ⟨t, ht, -⟩
  cases hnone.symm.trans ht

end EndpointWatch.ResultStats
