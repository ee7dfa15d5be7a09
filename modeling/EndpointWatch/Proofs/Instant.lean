import EndpointWatch.Instant.Basic

/-!
# Instants and their milliseconds

Rounding down to the millisecond keeps the order towards an instant of whole milliseconds: `le_iff_toMillis` and
`lt_iff_toMillis`. Within a leap second it does not, since the milliseconds of a leap second are also those of the
next one.
-/

namespace EndpointWatch.Instant

/-- An instant of whole milliseconds outside every leap second. -/
def IsWhole (i : Instant) : Prop := i.floorMillis = i

/-- An instant outside every leap second. -/
def IsRegular (i : Instant) : Prop := i.nano < 1_000_000_000

instance (i : Instant) : Decidable i.IsWhole := inferInstanceAs (Decidable (i.floorMillis = i))

instance (i : Instant) : Decidable i.IsRegular := inferInstanceAs (Decidable (i.nano < 1_000_000_000))

variable {i j : Instant}

theorem le_iff : i.le j ↔ i.second < j.second ∨ i.second = j.second ∧ i.nano ≤ j.nano := by
  simp [le]

theorem le_refl (i : Instant) : i.le i := le_iff.mpr (.inr ⟨rfl, Nat.le_refl _⟩)

theorem le_total (i j : Instant) : i.le j ∨ j.le i := by
  rw [le_iff, le_iff]
  omega

theorem le_trans {k : Instant} (hij : i.le j) (hjk : j.le k) : i.le k := by
  rw [le_iff] at hij hjk ⊢
  omega

theorem le_antisymm (hij : i.le j) (hji : j.le i) : i = j := by
  rw [le_iff] at hij hji
  exact Instant.ext (by omega) (by omega)

theorem lt_iff : i.lt j ↔ ¬j.le i := by
  simp [lt]

theorem IsWhole.nano_eq (h : i.IsWhole) : i.nano = i.nano / 1_000_000 * 1_000_000 ∧ i.nano < 1_000_000_000 := by
  have hn : ((i.second * 1000 + (i.nano / 1_000_000 : Nat)) % 1000).toNat * 1_000_000 = i.nano := congrArg nano h
  omega

theorem IsWhole.regular (h : i.IsWhole) : i.IsRegular := h.nano_eq.2

/-- An instant of whole milliseconds is not after another one if its milliseconds are not. -/
theorem le_iff_toMillis (hi : i.IsWhole) (hj : j.IsRegular) : i.le j ↔ i.toMillis ≤ j.toMillis := by
  have hn := hi.nano_eq
  have hm : j.nano < 1_000_000_000 := hj
  rw [le_iff, toMillis, toMillis]
  omega

theorem lt_iff_toMillis (hi : i.IsRegular) (hj : j.IsWhole) : i.lt j ↔ i.toMillis < j.toMillis := by
  rw [lt_iff, le_iff_toMillis hj hi]
  omega

end EndpointWatch.Instant
