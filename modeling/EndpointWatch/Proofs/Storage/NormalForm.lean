import EndpointWatch.Proofs.Storage.Rows

/-!
# Normal forms of records

A table cannot keep everything: times are cut to the millisecond, unsigned numbers from `2 ^ 63` on are lost and count as
zero, and the negative zero is kept as zero. A record is read back from its row in its normal form, and in no other:
`toEndpoint_eq_normal`, `toResult_eq_normal`, `toMetric_ofMetric_normal`.
-/

namespace EndpointWatch

/-- Outside leap seconds this cuts off what lies below a millisecond. -/
theorem Instant.IsRegular.floorMillis_eq {i : Instant} (h : i.IsRegular) :
    i.floorMillis.second = i.second ∧ i.floorMillis.nano = i.nano / 1_000_000 * 1_000_000 := by
  have hn : i.nano < 1_000_000_000 := h
  simp only [floorMillis, ofMillis, toMillis]
  omega

/-! ### Records -/

namespace Storage

/-- An unsigned number, if a signed one of the same width can hold it, and otherwise 0. -/
def signedOrZero (u : UInt64) : UInt64 := if u.toNat < 2 ^ 63 then u else 0

theorem signedOrZero_lt (u : UInt64) : (signedOrZero u).toNat < 2 ^ 63 := by
  unfold signedOrZero
  split
  · assumption
  · decide

theorem signedOrZero_of_lt {u : UInt64} (h : u.toNat < 2 ^ 63) : signedOrZero u = u := if_pos h

theorem toInt64_lt_zero_iff {u : UInt64} : u.toInt64 < 0 ↔ 2 ^ 63 ≤ u.toNat := by
  have hu := u.toNat_lt
  rw [Int64.lt_iff_toInt_lt]
  show u.toBitVec.toInt < 0 ↔ 2 ^ 63 ≤ u.toBitVec.toNat
  rw [BitVec.toInt_eq_toNat_cond]
  split <;> omega

theorem signedOrZero_signedOrZero (u : UInt64) : signedOrZero (signedOrZero u) = signedOrZero u :=
  signedOrZero_of_lt (signedOrZero_lt u)

/-- What a signed column gives back of an unsigned number. -/
theorem toUInt64_atLeastZero (u : UInt64) : (atLeastZero u.toInt64).toUInt64 = signedOrZero u := by
  by_cases h : u.toNat < 2 ^ 63
  · rw [atLeastZero_toInt64 h, signedOrZero_of_lt h]
  · rw [atLeastZero, if_pos (toInt64_lt_zero_iff.mpr (Nat.le_of_not_lt h)), signedOrZero, if_neg h]
    rfl

end Storage

open Storage

def Endpoint.normal (e : Endpoint) : Endpoint := { e with timeout := signedOrZero e.timeout }

def CheckResult.normal (r : CheckResult) : CheckResult :=
  { r with responseTime := signedOrZero r.responseTime, checkedAt := r.checkedAt.floorMillis }

def Metric.normal (m : Metric) : Metric :=
  { m with value := if m.value = -0 then 0 else m.value, time := m.time.floorMillis }

namespace Instant

theorem toMillis_floorMillis (i : Instant) : i.floorMillis.toMillis = i.toMillis := toMillis_ofMillis _

theorem isWhole_floorMillis (i : Instant) : i.floorMillis.IsWhole := floorMillis_floorMillis i

end Instant

/-! A normal form is its own. -/

theorem Endpoint.normal_normal (e : Endpoint) : e.normal.normal = e.normal := by
  rw [normal, normal, signedOrZero_signedOrZero]

theorem CheckResult.normal_normal (r : CheckResult) : r.normal.normal = r.normal := by
  rw [normal, normal, signedOrZero_signedOrZero, r.checkedAt.isWhole_floorMillis]

theorem Metric.normal_normal (m : Metric) : m.normal.normal = m.normal := by
  have hvalue : (if m.normal.value = -0 then 0 else m.normal.value) = m.normal.value := by
    show (if (if m.value = -0 then (0 : Float) else m.value) = -0 then (0 : Float) else if m.value = -0 then 0 else m.value) = _
    by_cases hz : m.value = -0
    · rw [if_pos hz, ite_self]
      exact (if_pos hz).symm
    · rw [if_neg hz, if_neg hz]
      exact (if_neg hz).symm
  rw [normal.eq_1 m.normal, hvalue]
  exact congrArg (fun i => { m.normal with time := i }) m.time.isWhole_floorMillis

theorem CheckResult.normal_eq_self {r : CheckResult} (ht : r.responseTime.toNat < 2 ^ 63) (hw : r.checkedAt.IsWhole) :
    r.normal = r := by
  have hw : r.checkedAt.floorMillis = r.checkedAt := hw
  rw [normal, signedOrZero_of_lt ht, hw]

theorem Metric.isPlain_normal {m : Metric} (h : m.value.isNaN = false) : Double.IsPlain m.normal.value := by
  show Double.IsPlain (if m.value = -0 then 0 else m.value)
  split
  · exact ⟨by rfl, by intro h; cases h⟩
  · next hz => exact ⟨h, hz⟩

theorem Metric.isNaN_normal (m : Metric) : m.normal.value.isNaN = m.value.isNaN := by
  show Float.isNaN (if m.value = -0 then 0 else m.value) = _
  split
  · next hz =>
    rw [hz]
    rfl
  · rfl

/-! ### Rows -/

namespace Storage

theorem EndpointRow.toEndpoint_eq_normal (e : Endpoint) : (ofEndpoint e).toEndpoint = e.normal := by
  have hrow : (ofEndpoint e).toEndpoint = { (ofEndpoint e.normal).toEndpoint with
      timeout := (atLeastZero e.timeout.toInt64).toUInt64 } := rfl
  rw [hrow, toEndpoint_ofEndpoint (signedOrZero_lt e.timeout), toUInt64_atLeastZero]
  rfl

theorem ResultRow.toResult_eq_normal (r : CheckResult) : (ofResult r).toResult = r.normal := by
  have hrow : (ofResult r).toResult = { (ofResult r.normal).toResult with
      responseTime := (atLeastZero r.responseTime.toInt64).toUInt64
      checkedAt := r.checkedAt.floorMillis } := rfl
  rw [hrow, toResult_ofResult (signedOrZero_lt r.responseTime) r.checkedAt.isWhole_floorMillis, toUInt64_atLeastZero]
  rfl

/-- Times before 1970 are cut towards the past too. -/
example : (ResultRow.ofResult (.completed 1 (2 ^ 63) 200 { second := -1, nano := 1 })).toResult =
    .completed 1 0 200 { second := -1, nano := 0 } := by
  decide +kernel

namespace MetricRow

/-- The row of a point is that of its normal form. -/
theorem ofMetric?_normal (m : Metric) : ofMetric? m.normal = ofMetric? m := by
  have hvalue : (if m.normal.value == 0 then 0 else m.normal.value) = if m.value == 0 then 0 else m.value := by
    show (if (if m.value = -0 then (0 : Float) else m.value) == 0 then (0 : Float) else if m.value = -0 then 0 else m.value) = _
    by_cases hz : m.value = -0
    · rw [if_pos hz, hz]
      rfl
    · rw [if_neg hz]
  rw [ofMetric?, ofMetric?, m.isNaN_normal, hvalue]
  show (if _ then none else some (MetricRow.mk _ _ _ m.time.floorMillis.toMillis _ _)) = _
  rw [Instant.toMillis_floorMillis]
  rfl

theorem ofMetric?_eq_normal {m : Metric} (h : m.value.isNaN = false) : ofMetric? m = some (ofMetric m.normal) := by
  rw [← ofMetric?_normal, ofMetric?_eq (Metric.isPlain_normal h)]

theorem ofMetric?_of_isNaN {m : Metric} (h : m.value.isNaN = true) : ofMetric? m = none := if_pos h

theorem toMetric_ofMetric_normal (m : Metric) : (ofMetric m.normal).toMetric = .ok m.normal :=
  toMetric_ofMetric m.time.isWhole_floorMillis

end MetricRow

end Storage

end EndpointWatch
