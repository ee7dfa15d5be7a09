import EndpointWatch.Arith

/-!
# Retry policies and their delays

A `Policy` bounds the attempts and sets the waits between them: `initial * multiplier ^ n` nanoseconds,
cut off at `cap`. The numbers are read in any `Magnitude`, so the same definition runs on doubles and can
be read exactly on rationals. Jitter adds less than a quarter of the delay.

Waits have no bound here, while a duration is shorter than 2 ^ 64 seconds, and the program ends where a jitter would take
a delay beyond that; `jittered` adds it all the same. A jitter is shorter than 2 ^ 64 nanoseconds, so only a delay that
near to the bound is concerned. Limits are configured in milliseconds of 64 bits, and no such policy has a delay that long.
-/

namespace EndpointWatch.Retry

open scoped EndpointWatch.Arith

/-- The arithmetic a delay is worked out in. `toWord` drops the fraction and stays within 64 bits. -/
class Magnitude (α : Type) where
  ofNat : Nat → α
  mul : α → α → α
  le : α → α → Bool
  usable : α → Bool
  toWord : α → Nat

/-- Doubles round; a usable factor is positive and finite. -/
instance : Magnitude Float where
  ofNat := Float.ofNat
  mul := (· * ·)
  le a b := a ≤ b
  usable x := 0 < x && x.isFinite
  toWord x := x.toUInt64.toNat

/-- Rationals are exact; a usable factor is positive. -/
instance : Magnitude Rat where
  ofNat n := n
  mul := (· * ·)
  le a b := a ≤ b
  usable x := 0 < x
  toWord x := min x.floor.toNat (2 ^ (64 : Nat) - 1)

/-- Bounds on attempts and waits; `initial` and `cap` are nanoseconds. -/
structure Policy (α : Type) where
  maxAttempts : UInt32
  initial : Nat
  cap : Nat
  multiplier : α
  jitter : Bool

namespace Policy

variable {α : Type} [Magnitude α]

/-- Three attempts, 100 ms doubling up to 10 s, with jitter. -/
def standard : Policy α := ⟨3, 100_000_000, 10_000_000_000, Magnitude.ofNat 2, true⟩

/-- Zero limits and unusable factors give way to the standard ones. -/
def normalized (p : Policy α) : Policy α :=
  { p with
    maxAttempts := if p.maxAttempts = 0 then 3 else p.maxAttempts
    initial := if p.initial = 0 then 100_000_000 else p.initial
    cap := if p.cap = 0 then 10_000_000_000 else p.cap
    multiplier := if Magnitude.usable p.multiplier then p.multiplier else Magnitude.ofNat 2 }

theorem maxAttempts_normalized_pos (p : Policy α) : 0 < p.normalized.maxAttempts := by
  show 0 < if p.maxAttempts = 0 then 3 else p.maxAttempts
  split
  · decide
  · next h => exact UInt32.pos_iff_ne_zero.mpr h

theorem normalized_normalized (p : Policy α) : p.normalized.normalized = p.normalized := by
  simp only [normalized, Policy.mk.injEq, and_true]
  refine ⟨?_, ?_, ?_, ?_⟩ <;> split <;> simp [*]

end Policy

/-- `acc * x ^ n` by repeated squaring, the lowest binary digit of `n` first. -/
def powerFrom {α : Type} [Magnitude α] (acc x : α) (n : Nat) : α :=
  let acc := if n % 2 = 1 then Magnitude.mul acc x else acc
  if n / 2 = 0 then acc else powerFrom acc (Magnitude.mul x x) (n / 2)
termination_by n

/-- The largest exponent; later attempts wait as long. -/
def maxExponent : Nat := 2 ^ (31 : Nat) - 1

/-- The wait for a worked-out product: at most `cap`, whole nanoseconds. -/
def cutOff {α : Type} [Magnitude α] (cap : Nat) (product : α) : Nat :=
  if Magnitude.le (Magnitude.ofNat cap) product then cap else Magnitude.toWord product

namespace Policy

variable {α : Type} [Magnitude α]

/-- What the wait after the attempt with this number, counted from 0, comes to before it is cut off. -/
def product (p : Policy α) (attempt : UInt32) : α :=
  Magnitude.mul (Magnitude.ofNat p.initial)
    (powerFrom (Magnitude.ofNat 1) p.multiplier (min attempt.toNat maxExponent))

/-- The wait after the attempt with this number, in nanoseconds and without jitter. -/
def delay (p : Policy α) (attempt : UInt32) : Nat := cutOff p.cap (p.product attempt)

/-- How many different jitters there are for a delay; none are drawn from an empty range. -/
def jitterRange (delay : Nat) : Nat := delay / 4 % 2 ^ (64 : Nat)

/-- The delay with the jitter that a draw selects. -/
def jittered (delay draw : Nat) : Nat :=
  if 0 < jitterRange delay then delay + draw % jitterRange delay else delay

/-- The wait after the attempt with this number, with the jitter that a draw selects if the policy has any. -/
def pause (p : Policy α) (attempt : UInt32) (draw : Nat) : Nat :=
  if p.jitter then jittered (p.delay attempt) draw else p.delay attempt

/-- Whether the smallest and the largest jitter stay below a quarter of the delay, or a nanosecond. -/
def jitterFits (delay : Nat) : Bool :=
  [0, jitterRange delay - 1].all fun draw =>
    delay ≤ jittered delay draw && jittered delay draw < delay + max (delay / 4) 1

end Policy

/-- Timers tick in whole milliseconds: a wait ends at the first tick not before it is over. -/
def ticks (nanoseconds : Nat) : Nat := (nanoseconds + 999_999) / 1_000_000

end EndpointWatch.Retry
