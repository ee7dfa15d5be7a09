import Mathlib
import EndpointWatch.Proofs.Double.Whole
import EndpointWatch.Retry.Policy

/-!
# The cap and the band of a delay

On doubles a delay stays at or below the cap, whatever the product comes to: the cap as a double can be more than the
cap, but what is less than this double is no more than the cap when its fraction is dropped (`cutOff_le`). A jitter adds
less than a quarter of the delay, or a nanosecond; it is never drawn from an empty range, and a delay with its jitter is
never longer than the longest time (`staysInBand_ofMillis`).
-/

namespace EndpointWatch.Retry

/-! ### Drawing and adding -/

/-- What a draw takes out of a range; nothing can be drawn from an empty one. -/
def drawn? (range draw : ℕ) : Option ℕ := if range = 0 then none else some (draw % range)

/-- The longest time there is: 64 bits of seconds, in nanoseconds. -/
def longestTime : ℕ := 2 ^ 64 * 1_000_000_000 - 1

/-- The sum of two times, up to the longest time. -/
def sum? (a b : ℕ) : Option ℕ := if a + b ≤ longestTime then some (a + b) else none

namespace Policy

/-- A policy as a configuration gives it: with times in milliseconds, of 64 bits. -/
def ofMillis {α : Type} (maxAttempts : UInt32) (initial cap : UInt64) (multiplier : α) (jitter : Bool) : Policy α :=
  ⟨maxAttempts, initial.toNat * 1_000_000, cap.toNat * 1_000_000, multiplier, jitter⟩

/-- A delay with the jitter that a draw selects, where drawing and adding can fail. -/
def jittered? (delay draw : ℕ) : Option ℕ :=
  if 0 < jitterRange delay then (drawn? (jitterRange delay) draw).bind (sum? delay) else some delay

/-- The rest of the way from a product to a pause, where drawing and adding can fail. -/
def pauseFrom? (p : Policy Float) (product : Float) (draw : ℕ) : Option ℕ :=
  if p.jitter then jittered? (cutOff p.cap product) draw else some (cutOff p.cap product)

theorem jitterRange_le (delay : ℕ) : jitterRange delay ≤ delay / 4 := Nat.mod_le ..

/-- The longest delay that a policy in milliseconds can have. -/
def longestDelay : ℕ := 2 ^ 64 * 1_000_000

theorem longestDelay_lt : longestDelay < 2 ^ 1000 := calc
  longestDelay < 2 ^ 84 := by decide
  _ ≤ 2 ^ 1000 := pow_le_pow_right₀ (by decide) (by decide)

theorem jittered?_eq {delay : ℕ} (h : delay ≤ longestDelay) (draw : ℕ) :
    jittered? delay draw = some (jittered delay draw) := by
  unfold jittered? jittered
  split
  · next hpos =>
    have hdraw : drawn? (jitterRange delay) draw = some (draw % jitterRange delay) := if_neg hpos.ne'
    have hmod : draw % jitterRange delay < jitterRange delay := Nat.mod_lt _ hpos
    have hrange := jitterRange_le delay
    have hsum : delay + draw % jitterRange delay ≤ longestTime := by
      simp only [longestDelay, longestTime] at h ⊢
      omega
    rw [hdraw, Option.bind_some, sum?, if_pos hsum]
  · rfl

theorem jittered_spec (delay draw : ℕ) :
    delay ≤ jittered delay draw ∧ jittered delay draw < delay + max (delay / 4) 1 := by
  unfold jittered
  split
  · next hpos =>
    have hmod : draw % jitterRange delay < jitterRange delay := Nat.mod_lt _ hpos
    have hrange := jitterRange_le delay
    omega
  · omega

/-! ### The cap -/

/-- The limits of the delays of a policy in milliseconds; the standard cap is one of them. -/
theorem cap_normalized_spec (maxAttempts : UInt32) (initial cap : UInt64) (multiplier : Float) (jitter : Bool) :
    0 < (ofMillis maxAttempts initial cap multiplier jitter).normalized.cap ∧
      (ofMillis maxAttempts initial cap multiplier jitter).normalized.cap ≤ longestDelay := by
  have hcap := cap.toNat_lt
  show 0 < (if cap.toNat * 1_000_000 = 0 then 10_000_000_000 else cap.toNat * 1_000_000) ∧
    (if cap.toNat * 1_000_000 = 0 then 10_000_000_000 else cap.toNat * 1_000_000) ≤ longestDelay
  unfold longestDelay
  split <;> omega

end Policy

theorem cutOff_le {cap : ℕ} (hpos : 0 < cap) (hcap : cap < 2 ^ 1000) (product : Float) : cutOff cap product ≤ cap := by
  unfold cutOff
  split
  · exact le_rfl
  · next h =>
    refine Double.toNat_toUInt64_le hpos hcap fun hle => h ?_
    exact decide_eq_true hle

/-! ### The band -/

/-- The pauses of a policy stay in their band, whatever the products come to, also infinity and zero. -/
structure StaysInBand (p : Policy Float) : Prop where
  capped : ∀ product : Float, cutOff p.cap product ≤ p.cap
  plain : p.jitter = false → ∀ product draw, p.pauseFrom? product draw = some (cutOff p.cap product)
  /-- The draw and the sum succeed. -/
  jittered : p.jitter = true → ∀ product draw, ∃ d, p.pauseFrom? product draw = some d ∧
    cutOff p.cap product ≤ d ∧ d < cutOff p.cap product + max (cutOff p.cap product / 4) 1
  pause : ∀ attempt draw, p.pauseFrom? (p.product attempt) draw = some (p.pause attempt draw)

theorem staysInBand_ofMillis (maxAttempts : UInt32) (initial cap : UInt64) (multiplier : Float) (jitter : Bool) :
    StaysInBand (Policy.ofMillis maxAttempts initial cap multiplier jitter).normalized := by
  obtain ⟨hpos, hcap⟩ := Policy.cap_normalized_spec maxAttempts initial cap multiplier jitter
  generalize (Policy.ofMillis maxAttempts initial cap multiplier jitter).normalized = p at hpos hcap ⊢
  have hcapped (product : Float) : cutOff p.cap product ≤ p.cap :=
    cutOff_le hpos (lt_of_le_of_lt hcap Policy.longestDelay_lt) product
  have hjittered (product : Float) (draw : ℕ) : Policy.jittered? (cutOff p.cap product) draw =
      some (Policy.jittered (cutOff p.cap product) draw) :=
    Policy.jittered?_eq ((hcapped product).trans hcap) draw
  refine ⟨hcapped, fun h product draw => ?_, fun h product draw => ?_, fun attempt draw => ?_⟩
  · rw [Policy.pauseFrom?, h]
    rfl
  · refine ⟨Policy.jittered (cutOff p.cap product) draw, ?_, Policy.jittered_spec ..⟩
    rw [Policy.pauseFrom?, if_pos h, hjittered]
  · have hdelay : cutOff p.cap (p.product attempt) = p.delay attempt := rfl
    rw [Policy.pauseFrom?, hjittered, hdelay, Policy.pause]
    split <;> rfl

end EndpointWatch.Retry
