import EndpointWatch.Stats.Results
import Mathlib.Algebra.GroupWithZero.Nat
import Mathlib.Data.List.Induction

/-!
# Tallies

Results can be tallied exactly if their times come to less than `2 ^ 64`, and then the tally is their `summary`
(`ofResults?_eq`): one more result changes the one as it changes the other as long as there is room for its time. So it
does not matter in which order results are gone through (`ofResults?_perm`).
-/

namespace EndpointWatch

/-! ### Sums and maxima of 64-bit numbers -/

instance lawfulOrderMaxWord : Std.LawfulOrderMax UInt64 :=
  have hmax (a b : UInt64) : max a b = if a ≤ b then b else a := rfl
  .of_max_le_iff
    (fun a b c => by
      rw [hmax]
      split <;> simp only [UInt64.le_iff_toNat_le] at * <;> omega)
    (fun a b => by
      rw [hmax]
      split
      · exact .inr rfl
      · exact .inl rfl)

theorem max_assoc_option (o p q : Option UInt64) : max (max o p) q = max o (max p q) := by
  cases o <;> cases p <;> cases q <;> simp [Std.Associative.assoc]

theorem max_comm_word (u v : UInt64) : max u v = max v u := by
  show (if u ≤ v then v else u) = (if v ≤ u then u else v)
  split <;> split <;> simp only [← UInt64.toNat_inj, UInt64.le_iff_toNat_le] at * <;> omega

theorem max_comm_option (o p : Option UInt64) : max o p = max p o := by
  cases o with
  | none => rw [Option.max_none_left, Option.max_none_right]
  | some u =>
    cases p with
    | none => rw [Option.max_none_left, Option.max_none_right]
    | some v => exact congrArg some (max_comm_word u v)

theorem max?_cons_option (x : UInt64) (xs : List UInt64) : (x :: xs).max? = max (some x) xs.max? := by
  rw [List.max?_cons]
  cases xs.max? with
  | none => rw [Option.max_none_right]; rfl
  | some y => rfl

theorem max?_append_option (xs ys : List UInt64) : (xs ++ ys).max? = max xs.max? ys.max? := by
  induction xs with
  | nil => exact Option.max_none_left.symm
  | cons x xs ih => rw [List.cons_append, max?_cons_option, ih, ← max_assoc_option, ← max?_cons_option]

theorem max?_perm {xs ys : List UInt64} (h : xs.Perm ys) : xs.max? = ys.max? := by
  induction h with
  | nil => rfl
  | cons x _ ih => rw [max?_cons_option, max?_cons_option, ih]
  | swap x y xs => simp only [max?_cons_option, ← max_assoc_option, max_comm_option (some y)]
  | trans _ _ ih ih' => exact ih.trans ih'

/-! ### What a tally holds -/

namespace ResultStats

/-- The response times that are not zero. -/
def times (results : List CheckResult) : List UInt64 :=
  (results.map CheckResult.responseTime).filter (0 < ·)

/-- The mean of some times, rounded from their exact sum and number; none without times. -/
def mean? (times : List UInt64) : Option Float :=
  if times.isEmpty then none
  else some ((UInt64.ofNat (times.map UInt64.toNat).sum).toFloat / Float.ofNat times.length)

theorem times_cons (r : CheckResult) (rs : List CheckResult) :
    times (r :: rs) = if 0 < r.responseTime then r.responseTime :: times rs else times rs := by
  rw [times, List.map_cons, List.filter_cons]
  simp only [decide_eq_true_eq]
  rfl

theorem times_append (a b : List CheckResult) : times (a ++ b) = times a ++ times b := by
  rw [times, List.map_append, List.filter_append]
  rfl

/-- The times that are not zero add up to what all times add up to. -/
theorem sum_times (rs : List CheckResult) :
    ((times rs).map UInt64.toNat).sum = (rs.map fun r => r.responseTime.toNat).sum := by
  induction rs with
  | nil => rfl
  | cons r rs ih =>
    rw [List.map_cons, List.sum_cons, ← ih, times_cons]
    split
    · rw [List.map_cons, List.sum_cons]
    · next hz =>
      have hz : r.responseTime.toNat = 0 := by
        simpa [UInt64.lt_iff_toNat_lt] using hz
      rw [hz, Nat.zero_add]

/-- What the response times of results come to. -/
def timeOf (rs : List CheckResult) : Nat := (rs.map fun r => r.responseTime.toNat).sum

theorem timeOf_append (a b : List CheckResult) : timeOf (a ++ b) = timeOf a + timeOf b := by
  rw [timeOf, List.map_append, List.sum_append_nat]
  rfl

theorem timeOf_perm {rs ss : List CheckResult} (h : rs.Perm ss) : timeOf rs = timeOf ss := (h.map _).sum_nat

theorem times_eq_nil_iff {rs : List CheckResult} : times rs = [] ↔ ∀ r ∈ rs, r.responseTime = 0 := by
  rw [times, List.filter_eq_nil_iff, List.forall_mem_map]
  simp only [decide_eq_true_eq, UInt64.not_lt, UInt64.le_zero_iff]

end ResultStats

open ResultStats

namespace CheckResult

/-- Whether a result counts as neither: its status is below 200 or 3xx. -/
def isNeutral (r : CheckResult) : Bool := r.status?.any fun s => s < 200 || (300 ≤ s && s < 400)

/-- Every result is of one kind. -/
theorem toNat_kinds (r : CheckResult) : r.isUp.toNat + r.isDown.toNat + r.isNeutral.toNat = 1 := by
  rcases r with ⟨id, time, _ | s, error, at_⟩
  · rfl
  · have hvalues : (200 : UInt16).toNat = 200 ∧ (300 : UInt16).toNat = 300 ∧ (400 : UInt16).toNat = 400 :=
      ⟨rfl, rfl, rfl⟩
    simp only [isUp, isDown, isNeutral, Option.any_some, Option.all_some, UInt16.lt_iff_toNat_lt,
      UInt16.le_iff_toNat_le, hvalues, ← Nat.not_le]
    by_cases h2 : 200 ≤ s.toNat <;> by_cases h3 : 300 ≤ s.toNat <;> by_cases h4 : 400 ≤ s.toNat <;>
      simp [h2, h3, h4] <;> omega

theorem isDown_of_isUp {r : CheckResult} (h : r.isUp = true) : r.isDown = false := by
  have hone := r.toNat_kinds
  rw [h, Bool.toNat_true] at hone
  exact Bool.toNat_eq_zero.mp (by omega)

end CheckResult

namespace Tally

/-- What the tally of results holds, if there is one. -/
def summary (rs : List CheckResult) : Tally where
  total := rs.length
  successful := rs.countP CheckResult.isUp
  failed := rs.countP CheckResult.isDown
  timed := (times rs).length
  timeSum := .ofNat (timeOf rs)
  maximumTime? := (times rs).max?

variable {rs ss : List CheckResult}

theorem toNat_timeSum_summary (h : timeOf rs < 2 ^ 64) : (summary rs).timeSum.toNat = timeOf rs :=
  UInt64.toNat_ofNat_of_lt h

theorem addTime?_timeSum (h : timeOf rs < 2 ^ 64) (t : UInt64) : addTime? (summary rs).timeSum t =
    if timeOf rs + t.toNat < 2 ^ 64 then some (.ofNat (timeOf rs + t.toNat)) else none := by
  have hsum : (summary rs).timeSum + t = .ofNat (timeOf rs + t.toNat) := by
    rw [UInt64.ofNat_add, UInt64.ofNat_toNat]
    rfl
  rw [addTime?, toNat_timeSum_summary h, hsum]
  rfl

theorem count_eq (t : Tally) (r : CheckResult) : t.count r = { t with
    total := t.total + 1
    successful := t.successful + r.isUp.toNat
    failed := t.failed + r.isDown.toNat } := by
  have hdown := r.isDown_of_isUp
  unfold count
  cases hu : r.isUp <;> cases hd : r.isDown <;> simp_all

theorem summary_concat (rs : List CheckResult) (r : CheckResult) : summary (rs ++ [r]) =
    { total := rs.length + 1
      successful := rs.countP CheckResult.isUp + r.isUp.toNat
      failed := rs.countP CheckResult.isDown + r.isDown.toNat
      timed := (times rs).length + (times [r]).length
      timeSum := .ofNat (timeOf rs + r.responseTime.toNat)
      maximumTime? := max (times rs).max? (times [r]).max? } := by
  have hite (b : Bool) : (if b = true then 1 else 0) = b.toNat := by cases b <;> rfl
  have hsum : timeOf (rs ++ [r]) = timeOf rs + r.responseTime.toNat := timeOf_append rs [r]
  rw [summary, times_append, List.length_append, List.length_append, max?_append_option, hsum, List.countP_append,
    List.countP_append, List.countP_singleton, List.countP_singleton, hite, hite]
  rfl

/-- One more result, if there is room for its time. -/
theorem add?_summary (h : timeOf rs < 2 ^ 64) (r : CheckResult) :
    (summary rs).add? r = if timeOf (rs ++ [r]) < 2 ^ 64 then some (summary (rs ++ [r])) else none := by
  have hsum : timeOf (rs ++ [r]) = timeOf rs + r.responseTime.toNat := timeOf_append rs [r]
  have htimes : times [r] = if 0 < r.responseTime then [r.responseTime] else [] := times_cons r []
  rw [add?, count_eq, summary_concat, hsum]
  split at htimes
  · next ht =>
    rw [if_pos ht, addTime?_timeSum h, htimes]
    split <;> rfl
  · next ht =>
    have hzero : r.responseTime = 0 := UInt64.le_zero_iff.mp (UInt64.not_lt.mp ht)
    have hsame : timeOf rs + r.responseTime.toNat = timeOf rs := congrArg (timeOf rs + UInt64.toNat ·) hzero
    rw [if_neg ht, htimes, hsame, if_pos h, List.max?_nil, Option.max_none_right]
    rfl

theorem ofResults?_eq (rs : List CheckResult) :
    ofResults? rs = if timeOf rs < 2 ^ 64 then some (summary rs) else none := by
  induction rs using List.reverseRecOn with
  | nil => rfl
  | append_singleton rs r ih =>
    rw [ofResults?, List.foldlM_append]
    show (ofResults? rs).bind (fun t => [r].foldlM add? t) = _
    rw [ih]
    split
    · next h =>
      rw [Option.bind_some, List.foldlM_cons, add?_summary h]
      split <;> rfl
    · next h =>
      have hle : timeOf rs ≤ timeOf (rs ++ [r]) := by
        rw [timeOf_append]
        exact Nat.le_add_right ..
      rw [Option.bind_none, if_neg fun hlt => h (Nat.lt_of_le_of_lt hle hlt)]

theorem times_perm (h : rs.Perm ss) : (times rs).Perm (times ss) := (h.map _).filter _

theorem summary_perm (h : rs.Perm ss) : summary rs = summary ss := by
  rw [summary, summary, h.length_eq, h.countP_eq, h.countP_eq, (times_perm h).length_eq, timeOf_perm h,
    max?_perm (times_perm h)]

theorem ofResults?_perm (h : rs.Perm ss) : ofResults? rs = ofResults? ss := by
  rw [ofResults?_eq, ofResults?_eq, timeOf_perm h, summary_perm h]

end Tally

namespace ResultStats

/-- The statistics of results whose times come to less than `2 ^ 64`. -/
def ofSummary (rs : List CheckResult) : ResultStats where
  total := rs.length
  successful := rs.countP CheckResult.isUp
  failed := rs.countP CheckResult.isDown
  averageTime? := mean? (times rs)
  maximumTime? := (times rs).max?

theorem stats_summary (rs : List CheckResult) : (Tally.summary rs).stats = ofSummary rs := by
  have hmean : mean? (times rs) = if 0 < (times rs).length then
      some ((UInt64.ofNat (timeOf rs)).toFloat / Float.ofNat (times rs).length) else none := by
    rw [mean?, sum_times, ← timeOf]
    cases times rs <;> rfl
  rw [ofSummary, hmean]
  rfl

theorem ofResults?_eq (rs : List CheckResult) :
    ofResults? rs = if timeOf rs < 2 ^ 64 then some (ofSummary rs) else none := by
  rw [ofResults?, Tally.ofResults?_eq]
  split
  · exact congrArg some (stats_summary rs)
  · rfl

theorem ofResults?_perm {rs ss : List CheckResult} (h : rs.Perm ss) : ofResults? rs = ofResults? ss :=
  congrArg (Option.map Tally.stats) (Tally.ofResults?_perm h)

end ResultStats

end EndpointWatch
