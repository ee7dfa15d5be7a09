import EndpointWatch.Instant.Civil
import Mathlib.Algebra.GroupWithZero.Nat

/-!
# Days and dates

Every day has a date that exists (`isValid_ofDays`), and the date leads back to the day (`toDays_ofDays`). The year comes
first, from a guess that is at most one year off, and the month then from the lengths of the months.
-/

namespace EndpointWatch.Date

/-! ### Years -/

theorem daysBefore_guess (n : Int) :
    daysBefore (n * 400 / 146097 - 1) ≤ n ∧ n < daysBefore (n * 400 / 146097 + 1 + 1) := by
  unfold daysBefore
  omega

/-- A day lies in the year that is found for it. -/
theorem yearOf_spec (n : Int) : daysBefore (yearOf n) ≤ n ∧ n < daysBefore (yearOf n + 1) := by
  obtain ⟨hlo, hhi⟩ := daysBefore_guess n
  unfold yearOf
  dsimp only
  split
  · next hlt => exact ⟨hlo, by rwa [Int.sub_add_cancel]⟩
  · next hge =>
    split
    · next hle => exact ⟨hle, hhi⟩
    · next hlt => exact ⟨Int.not_lt.mp hge, Int.not_le.mp hlt⟩

/-- A year is as long as its months together. -/
theorem sum_monthLengths (year : Int) : ((monthLengths year).sum : Int) = daysBefore (year + 1) - daysBefore year := by
  have hleap : isLeap year = true ↔ year % 4 = 0 ∧ (year % 100 ≠ 0 ∨ year % 400 = 0) := by simp [isLeap]
  unfold daysBefore monthLengths
  by_cases h : isLeap year = true
  · rw [if_pos h]
    rw [hleap] at h
    simp only [List.sum_cons, List.sum_nil]
    omega
  · rw [if_neg h]
    rw [hleap] at h
    simp only [List.sum_cons, List.sum_nil]
    omega

/-! ### Months -/

/-- The month and day that are found for a day: a month among those that there are, one of its days, and as many days
before it as there are. -/
theorem monthAndDay_spec {lengths : List Nat} {n : Nat} (h : n < lengths.sum) (month : Nat) :
    ∃ k, (monthAndDay lengths month n).1 = month + k ∧ k < lengths.length ∧ 1 ≤ (monthAndDay lengths month n).2 ∧
      (monthAndDay lengths month n).2 ≤ lengths.getD k 0 ∧
      (lengths.take k).sum + (monthAndDay lengths month n).2 = n + 1 := by
  induction lengths generalizing month n with
  | nil => exact absurd h (Nat.not_lt_zero n)
  | cons length rest ih =>
    rw [monthAndDay]
    split
    · next hlt => exact ⟨0, rfl, Nat.succ_pos _, Nat.succ_pos n, hlt, Nat.zero_add _⟩
    · next hge =>
      rw [List.sum_cons] at h
      obtain ⟨k, hmonth, hk, hpos, hle, hsum⟩ := ih (by omega : n - length < rest.sum) (month + 1)
      refine ⟨k + 1, by omega, Nat.succ_lt_succ hk, hpos, hle, ?_⟩
      rw [List.take_succ_cons, List.sum_cons]
      omega

/-! ### Dates -/

/-- The date of a day: its year, its month and day, and its place in the year. -/
theorem ofDays_spec (days : Int) :
    ∃ k, (ofDays days).month = k + 1 ∧ k < 12 ∧ 1 ≤ (ofDays days).day ∧
      (ofDays days).day ≤ (monthLengths (ofDays days).year).getD k 0 ∧
      daysBefore (ofDays days).year + ((monthLengths (ofDays days).year).take k).sum + (ofDays days).day =
        days + epoch + 1 := by
  obtain ⟨hlo, hhi⟩ := yearOf_spec (days + epoch)
  have hlen := sum_monthLengths (yearOf (days + epoch))
  have hlt : (days + epoch - daysBefore (yearOf (days + epoch))).toNat < (monthLengths (yearOf (days + epoch))).sum := by
    omega
  obtain ⟨k, hmonth, hk, hpos, hle, hsum⟩ := monthAndDay_spec hlt 1
  refine ⟨k, hmonth.trans (Nat.add_comm ..), hk, hpos, hle, ?_⟩
  show daysBefore (yearOf (days + epoch)) + ((monthLengths (yearOf (days + epoch))).take k).sum +
    (monthAndDay (monthLengths (yearOf (days + epoch))) 1 _).2 = _
  omega

theorem isValid_ofDays (days : Int) : (ofDays days).IsValid := by
  obtain ⟨k, hmonth, -, hpos, hle, -⟩ := ofDays_spec days
  rw [IsValid, hmonth]
  exact ⟨Nat.succ_pos k, hpos, hle⟩

theorem toDays_ofDays (days : Int) : (ofDays days).toDays = days := by
  obtain ⟨k, hmonth, -, -, -, hsum⟩ := ofDays_spec days
  rw [toDays, hmonth, Nat.add_sub_cancel]
  omega

theorem getD_monthLengths_le (year : Int) (k : Nat) : (monthLengths year).getD k 0 ≤ 31 := by
  have hall : ∀ n ∈ monthLengths year, n ≤ 31 := by
    unfold monthLengths
    cases isLeap year <;> decide
  rw [List.getD_eq_getElem?_getD]
  cases hk : (monthLengths year)[k]? with
  | none => exact Nat.zero_le 31
  | some n => exact hall n (List.mem_of_getElem? hk)

theorem month_le (days : Int) : (ofDays days).month ≤ 12 := by
  obtain ⟨k, hmonth, hk, -⟩ := ofDays_spec days
  rw [hmonth]
  exact hk

theorem day_le (days : Int) : (ofDays days).day ≤ 31 := by
  obtain ⟨k, -, -, -, hle, -⟩ := ofDays_spec days
  exact Nat.le_trans hle (getD_monthLengths_le ..)

end EndpointWatch.Date
