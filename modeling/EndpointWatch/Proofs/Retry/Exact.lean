import Mathlib
import EndpointWatch.Retry.Policy

/-!
# Delays in exact arithmetic

Read on rationals, repeated squaring gives the power (`powerFrom_eq`), and the delay is the exponential, rounded down
and cut off at the cap (`delay_eq`). So the delays rise with the number of the attempt if the multiplier is at least one,
and stay at the cap once they have come to it; they fall if it is at most one (`followsExponential_of_exact`).
-/

namespace EndpointWatch.Retry

/-! ### Powers -/

/-- The lowest digit of the exponent multiplies what was multiplied before. -/
theorem lowestDigit_eq (acc x : ℚ) (n : ℕ) : (if n % 2 = 1 then Magnitude.mul acc x else acc) = acc * x ^ (n % 2) := by
  rcases Nat.mod_two_eq_zero_or_one n with h | h
  · rw [h, if_neg Nat.zero_ne_one, pow_zero, mul_one]
  · rw [h, if_pos rfl, pow_one]
    rfl

/-- A power is what was multiplied before times that of the rest: the digits that are left belong to the square. -/
theorem powerFrom_eq (acc x : ℚ) (n : ℕ) : powerFrom acc x n = acc * x ^ n := by
  fun_induction powerFrom acc x n with
  | case1 acc x n acc' h =>
    have hn : n % 2 = n := by omega
    rw [← hn]
    exact lowestDigit_eq acc x n
  | case2 acc x n acc' h ih =>
    have hacc : acc' = acc * x ^ (n % 2) := lowestDigit_eq acc x n
    calc powerFrom acc' (Magnitude.mul x x) (n / 2)
      _ = acc' * (x * x) ^ (n / 2) := ih
      _ = acc * x ^ (n % 2) * x ^ (2 * (n / 2)) := by rw [hacc, pow_mul, pow_two]
      _ = acc * x ^ n := by rw [mul_assoc, ← pow_add, Nat.mod_add_div]

/-! ### The delay -/

theorem cutOff_eq {cap : ℕ} (hcap : cap < 2 ^ 64) {product : ℚ} (h : 0 ≤ product) :
    cutOff cap product = min cap ⌊product⌋₊ := by
  unfold cutOff
  split
  · next hle =>
    have hle : (cap : ℚ) ≤ product := of_decide_eq_true hle
    rw [min_eq_left (Nat.le_floor hle)]
  · next hlt =>
    have hlt : product < cap := not_le.mp (of_decide_eq_false (Bool.eq_false_of_not_eq_true hlt))
    have hfloor : ⌊product⌋₊ < cap := (Nat.floor_lt h).mpr hlt
    have hword : Magnitude.toWord product = min ⌊product⌋₊ (2 ^ 64 - 1) := rfl
    rw [hword, min_eq_left (by omega), min_eq_right hfloor.le]

namespace Policy

variable {p : Policy ℚ}

/-- The exponential of which a delay is the part up to the cap. Beyond the largest exponent it does not change. -/
def exponential (p : Policy ℚ) (attempt : UInt32) : ℚ := p.initial * p.multiplier ^ min attempt.toNat (2 ^ 31 - 1)

theorem multiplier_normalized_pos (p : Policy ℚ) : 0 < p.normalized.multiplier := by
  show 0 < if Magnitude.usable p.multiplier then p.multiplier else Magnitude.ofNat 2
  split
  · next h => exact of_decide_eq_true h
  · exact zero_lt_two

theorem product_eq (p : Policy ℚ) (attempt : UInt32) : p.product attempt = p.exponential attempt := by
  have hone : (Magnitude.ofNat 1 : ℚ) = 1 := Nat.cast_one
  rw [product, powerFrom_eq, hone, one_mul]
  rfl

theorem delay_eq (hcap : p.cap < 2 ^ 64) (hpos : 0 < p.multiplier) (attempt : UInt32) :
    p.delay attempt = min p.cap ⌊p.exponential attempt⌋₊ := by
  have hnonneg : 0 ≤ p.exponential attempt := mul_nonneg p.initial.cast_nonneg (pow_nonneg hpos.le _)
  rw [delay, product_eq, cutOff_eq hcap hnonneg]

theorem pause_of_not_jitter (h : p.jitter = false) (attempt : UInt32) (draw : ℕ) :
    p.pause attempt draw = p.delay attempt := by
  rw [pause, h]
  rfl

theorem exponential_le_of_le (hmul : 1 ≤ p.multiplier) {m n : UInt32} (h : m ≤ n) : p.exponential m ≤ p.exponential n :=
  have hexponent := min_le_min_right (2 ^ 31 - 1) (UInt32.le_iff_toNat_le.mp h)
  mul_le_mul_of_nonneg_left (pow_le_pow_right₀ hmul hexponent) p.initial.cast_nonneg

theorem exponential_le_of_ge (hpos : 0 < p.multiplier) (hmul : p.multiplier ≤ 1) {m n : UInt32} (h : m ≤ n) :
    p.exponential n ≤ p.exponential m :=
  have hexponent := min_le_min_right (2 ^ 31 - 1) (UInt32.le_iff_toNat_le.mp h)
  mul_le_mul_of_nonneg_left (pow_le_pow_of_le_one hpos.le hmul hexponent) p.initial.cast_nonneg

end Policy

/-- The pauses of a policy follow the exponential up to the cap, and rise or fall with it. -/
structure FollowsExponential (p : Policy ℚ) : Prop where
  pause_eq : ∀ attempt draw, p.pause attempt draw =
    min p.cap ⌊p.initial * p.multiplier ^ min attempt.toNat (2 ^ 31 - 1)⌋₊
  rises : 1 ≤ p.multiplier → ∀ m n draw draw', m ≤ n → p.pause m draw ≤ p.pause n draw'
  falls : p.multiplier ≤ 1 → ∀ m n draw draw', m ≤ n → p.pause n draw' ≤ p.pause m draw
  stays : 1 ≤ p.multiplier → ∀ m n draw draw', m ≤ n → p.pause m draw = p.cap → p.pause n draw' = p.cap

/-- Worked out exactly, the pauses without jitter follow the exponential, whatever the policy was normalized from. -/
theorem followsExponential_of_exact (p : Policy ℚ) (hcap : p.normalized.cap < 2 ^ 64) (hjitter : p.jitter = false) :
    FollowsExponential p.normalized := by
  have hpos := p.multiplier_normalized_pos
  have hpause (attempt : UInt32) (draw : ℕ) :
      p.normalized.pause attempt draw = min p.normalized.cap ⌊p.normalized.exponential attempt⌋₊ := by
    have hjitter : p.normalized.jitter = false := hjitter
    rw [Policy.pause_of_not_jitter hjitter, Policy.delay_eq hcap hpos]
  have hrises (hmul : 1 ≤ p.normalized.multiplier) (m n : UInt32) (draw draw' : ℕ) (h : m ≤ n) :
      p.normalized.pause m draw ≤ p.normalized.pause n draw' := by
    rw [hpause, hpause]
    exact min_le_min_left _ (Nat.floor_mono (Policy.exponential_le_of_le hmul h))
  refine ⟨hpause, hrises, fun hmul m n draw draw' h => ?_, fun hmul m n draw draw' h hm => ?_⟩
  · rw [hpause, hpause]
    exact min_le_min_left _ (Nat.floor_mono (Policy.exponential_le_of_ge hpos hmul h))
  · refine le_antisymm ?_ (hm ▸ hrises hmul m n draw draw' h)
    rw [hpause]
    exact min_le_left ..

/-- Half more each time, up to a second. -/
def halfMore : Policy ℚ := ⟨0, 0, 1_000_000_000, 3 / 2, false⟩

theorem followsExponential_halfMore :
    halfMore.normalized.cap < 2 ^ 64 ∧ halfMore.jitter = false ∧ FollowsExponential halfMore.normalized :=
  ⟨by decide, rfl, followsExponential_of_exact halfMore (by decide) rfl⟩

end EndpointWatch.Retry
