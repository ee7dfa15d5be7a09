import EndpointWatch.Proofs.Instant
import EndpointWatch.Proofs.Json.StringMap
import EndpointWatch.Proofs.Stats.Order
import EndpointWatch.Proofs.Stats.Tally
import EndpointWatch.Storage.Table

/-!
# Rows give back what was stored

Every record whose unsigned numbers are below `2 ^ 63` and whose times are whole milliseconds is read back from its
row as it was, and so is every map from its text. A row counts as a success or a failure as its result does.
-/

namespace EndpointWatch.Storage

/-! ### Unsigned numbers as signed ones -/

theorem toInt_toInt64 {u : UInt64} (h : u.toNat < 2 ^ 63) : u.toInt64.toInt = u.toNat := by
  show u.toBitVec.toInt = _
  rw [BitVec.toInt_eq_toNat_of_lt]
  · rfl
  · exact Nat.mul_lt_mul_of_pos_left h (by decide)

theorem toInt64_lt_iff {u v : UInt64} (hu : u.toNat < 2 ^ 63) (hv : v.toNat < 2 ^ 63) :
    u.toInt64 < v.toInt64 ↔ u < v := by
  rw [Int64.lt_iff_toInt_lt, toInt_toInt64 hu, toInt_toInt64 hv, UInt64.lt_iff_toNat_lt]
  omega

theorem atLeastZero_toInt64 {u : UInt64} (h : u.toNat < 2 ^ 63) : (atLeastZero u.toInt64).toUInt64 = u := by
  have hneg : ¬u.toInt64 < 0 := by
    rw [Int64.lt_iff_toInt_lt, toInt_toInt64 h]
    exact Int.not_lt.mpr (Int.natCast_nonneg _)
  rw [atLeastZero, if_neg hneg, UInt64.toUInt64_toInt64]

theorem flag_eq_one {b : Bool} : flag b = 1 ↔ b = true := by
  cases b <;> simp [flag]

theorem decide_flag (b : Bool) : decide (flag b = 1) = b := by
  cases b <;> rfl

/-! ### Records -/

theorem mapM_eq_ok {α β ε : Type} {f : α → Except ε β} {g : α → β} {as : List α} (h : ∀ a ∈ as, f a = .ok (g a)) :
    as.mapM f = .ok (as.map g) := by
  induction as with
  | nil => rfl
  | cons a as ih =>
    rw [List.mapM_cons, h a (List.mem_cons_self ..), ih fun a ha => h a (List.mem_cons_of_mem _ ha)]
    rfl

/-- Records that are read back from their rows one by one are read back as a list. -/
theorem mapM_map_eq_ok {α β ε : Type} {r : α → β} {f : β → Except ε α} {as : List α} (h : ∀ a ∈ as, f (r a) = .ok a) :
    (as.map r).mapM f = .ok as := by
  have := mapM_eq_ok (f := f ∘ r) (g := id) h
  rwa [List.map_id, ← List.mapM_map] at this

section

variable {α β ε : Type} {f : α → Except ε β} {a : α} {as : List α} {bs : List β} {e : ε}

theorem mapM_cons_eq_ok (h : (a :: as).mapM f = .ok bs) :
    ∃ b rest, f a = .ok b ∧ as.mapM f = .ok rest ∧ bs = b :: rest := by
  rw [List.mapM_cons] at h
  cases hb : f a with
  | error e =>
    rw [hb] at h
    cases h
  | ok b =>
    cases hrest : as.mapM f with
    | error e =>
      rw [hb, hrest] at h
      cases h
    | ok rest =>
      rw [hb, hrest] at h
      cases h
      exact ⟨b, rest, rfl, rfl, rfl⟩

theorem mapM_cons_eq_error (h : (a :: as).mapM f = .error e) :
    f a = .error e ∨ ∃ b, f a = .ok b ∧ as.mapM f = .error e := by
  rw [List.mapM_cons] at h
  cases hb : f a with
  | error e' =>
    rw [hb] at h
    cases h
    exact .inl rfl
  | ok b =>
    refine .inr ⟨b, rfl, ?_⟩
    cases hrest : as.mapM f with
    | error e' =>
      rw [hb, hrest] at h
      cases h
      rfl
    | ok rest =>
      rw [hb, hrest] at h
      cases h

end

theorem readMap_writeMap (d : Dict String String) : readMap (writeMap d) = .ok d := by
  rw [readMap, writeMap, String.toList_ofList]
  show (Json.document Json.stringMap (Json.writeObject (d.toList.map fun e => (e.1, Json.writeString e.2)))).mapError _ = _
  rw [Json.document_stringMap]
  rfl

theorem EndpointRow.toEndpoint_ofEndpoint {e : Endpoint} (h : e.timeout.toNat < 2 ^ 63) :
    (ofEndpoint e).toEndpoint = e := by
  have hinterval : e.checkInterval.toUInt64.toNat < 2 ^ 63 := by
    have := e.checkInterval.toNat_lt
    rw [UInt32.toNat_toUInt64]
    omega
  cases e
  simp [toEndpoint, ofEndpoint, atLeastZero_toInt64 h, atLeastZero_toInt64 hinterval, flag_eq_one]

theorem AlertRow.toAlert_ofAlert (a : Alert) : (ofAlert a).toAlert = a := by
  cases a
  simp [toAlert, ofAlert, flag_eq_one]

namespace ResultRow

theorem toResult_ofResult {r : CheckResult} (ht : r.responseTime.toNat < 2 ^ 63) (hw : r.checkedAt.IsWhole) :
    (ofResult r).toResult = r := by
  have hw : Instant.ofMillis r.checkedAt.toMillis = r.checkedAt := hw
  rcases r with ⟨id, time, _ | s, error, at_⟩ <;> simp [toResult, ofResult, atLeastZero_toInt64 ht, hw]

theorem le_status_iff (n s : UInt16) : n.toUInt64.toInt64 ≤ s.toUInt64.toInt64 ↔ n ≤ s := by
  have htoInt (u : UInt16) : u.toUInt64.toInt64.toInt = u.toNat := by
    have := u.toNat_lt
    rw [toInt_toInt64] <;> rw [UInt16.toNat_toUInt64]
    omega
  rw [Int64.le_iff_toInt_le, htoInt, htoInt, UInt16.le_iff_toNat_le, Int.ofNat_le]

theorem isUp_ofResult (r : CheckResult) : (ofResult r).isUp = r.isUp := by
  rcases r with ⟨id, time, _ | s, error, at_⟩
  · rfl
  · have hlow : 200 ≤ s.toUInt64.toInt64 ↔ 200 ≤ s := le_status_iff 200 s
    have hhigh : s.toUInt64.toInt64 < 300 ↔ s < 300 := by
      rw [← Int64.not_le, ← UInt16.not_le]
      exact not_congr (le_status_iff 300 s)
    simp [isUp, CheckResult.isUp, ofResult, hlow, hhigh]

theorem isDown_ofResult (r : CheckResult) : (ofResult r).isDown = r.isDown := by
  rcases r with ⟨id, time, _ | s, error, at_⟩
  · rfl
  · have hlow : 400 ≤ s.toUInt64.toInt64 ↔ 400 ≤ s := le_status_iff 400 s
    simp [isDown, CheckResult.isDown, ofResult, hlow]

end ResultRow

namespace EntryRow

def ofEntry (e : StreamEntry) : EntryRow := ⟨e.id, e.stream, writeMap e.fields⟩

theorem toEntry_ofEntry (e : StreamEntry) : (ofEntry e).toEntry = .ok e := by
  rw [toEntry, ofEntry, readMap_writeMap]
  rfl

end EntryRow

namespace MetricRow

/-- The row of a point whose value is plain. -/
def ofMetric (m : Metric) : MetricRow :=
  ⟨m.name, m.kind.name, m.value, m.time.toMillis, writeMap m.tags, m.description⟩

theorem ofMetric?_eq {m : Metric} (h : Double.IsPlain m.value) : ofMetric? m = some (ofMetric m) := by
  have hvalue : (if m.value == 0 then 0 else m.value) = m.value := by
    split
    · next hz => exact (h.eq_zero hz).symm
    · rfl
  rw [ofMetric?, h.isNaN, hvalue]
  rfl

theorem ofName_name (k : MetricKind) : MetricKind.ofName k.name = .ok k := by
  cases k <;> rfl

theorem toMetric_ofMetric {m : Metric} (h : m.time.IsWhole) : (ofMetric m).toMetric = .ok m := by
  have h : Instant.ofMillis m.time.toMillis = m.time := h
  rw [toMetric, ofMetric, ofName_name, readMap_writeMap, h]
  rfl

end MetricRow

/-! ### Statistics of rows -/

/-- Results of which the table can hold the response times and their sum. -/
structure Countable (rs : List CheckResult) : Prop where
  time_lt : ∀ r ∈ rs, r.responseTime.toNat < 2 ^ 63
  sum_lt : (rs.map fun r => r.responseTime.toNat).sum < 2 ^ 63

theorem Countable.filter_reverse {rs : List CheckResult} (h : Countable rs) (p : CheckResult → Bool) :
    Countable (rs.filter p).reverse where
  time_lt r hr := h.time_lt r (List.mem_filter.mp (List.mem_reverse.mp hr)).1
  sum_lt := by
    have hsum := ((List.filter_append_perm p rs).map fun r => r.responseTime.toNat).sum_nat
    have hlt := h.sum_lt
    rw [List.map_append, List.sum_append_nat] at hsum
    rw [List.map_reverse, List.sum_reverse_nat]
    omega

open ResultStats (times)

variable {rs : List CheckResult}

theorem times_ofResult (h : Countable rs) :
    ((rs.map ResultRow.ofResult).map ResultRow.responseTime).filter (0 < ·) = (times rs).map UInt64.toInt64 := by
  rw [times, List.map_map, List.filter_map, List.filter_map, List.map_map]
  refine congrArg _ (List.filter_congr fun r hr => ?_)
  exact decide_eq_decide.mpr (toInt64_lt_iff (u := 0) (by decide) (h.time_lt r hr))

theorem Countable.time_lt_of_mem (h : Countable rs) {u : UInt64} (hu : u ∈ times rs) : u.toNat < 2 ^ 63 := by
  obtain ⟨r, hr, rfl⟩ := List.mem_map.mp (List.mem_filter.mp hu).1
  exact h.time_lt r hr

theorem sumToFloat_of_lt {n : Nat} (h : n < 2 ^ 64) : Table.sumToFloat n = (UInt64.ofNat n).toFloat := by
  rw [Table.sumToFloat, if_neg (by omega), Int.natAbs_natCast, if_pos h, Nat.toUInt64]

theorem mean?_ofResult (h : Countable rs) :
    Table.mean? ((times rs).map UInt64.toInt64) = ResultStats.mean? (times rs) := by
  have hlt (u : UInt64) (hu : u ∈ times rs) : u.toInt64.toInt = u.toNat := toInt_toInt64 (h.time_lt_of_mem hu)
  have hsum : ((times rs).map UInt64.toNat).sum < 2 ^ 64 := by
    rw [ResultStats.sum_times]
    exact Nat.lt_trans h.sum_lt (by decide)
  have hint : (((times rs).map UInt64.toInt64).map Int64.toInt).sum = (((times rs).map UInt64.toNat).sum : Int) := by
    rw [List.map_map]
    clear hsum
    generalize times rs = us at hlt
    induction us with
    | nil => rfl
    | cons u us ih =>
      rw [List.map_cons, List.sum_cons, List.map_cons, List.sum_cons, Int.natCast_add, Function.comp_apply,
        hlt u (List.mem_cons_self ..), ih fun u hu => hlt u (List.mem_cons_of_mem _ hu)]
  rw [Table.mean?, ResultStats.mean?, hint, sumToFloat_of_lt hsum, List.length_map, List.isEmpty_map]

theorem max_toInt64 {u v : UInt64} (hu : u.toNat < 2 ^ 63) (hv : v.toNat < 2 ^ 63) :
    max u.toInt64 v.toInt64 = (max u v).toInt64 := by
  have hle : u.toInt64 ≤ v.toInt64 ↔ u ≤ v := by
    rw [← Int64.not_lt, ← UInt64.not_lt, toInt64_lt_iff hv hu]
  show (if u.toInt64 ≤ v.toInt64 then v.toInt64 else u.toInt64) = (if u ≤ v then v else u).toInt64
  simp only [hle, apply_ite UInt64.toInt64]

theorem max?_toInt64 {us : List UInt64} (h : ∀ u ∈ us, u.toNat < 2 ^ 63) :
    (us.map UInt64.toInt64).max?.map Int64.toUInt64 = us.max? := by
  have hfold (us : List UInt64) (h : ∀ u ∈ us, u.toNat < 2 ^ 63) (v : UInt64) (hv : v.toNat < 2 ^ 63) :
      (us.map UInt64.toInt64).foldl max v.toInt64 = (us.foldl max v).toInt64 := by
    induction us generalizing v with
    | nil => rfl
    | cons u us ih =>
      have hu := h u (List.mem_cons_self ..)
      rw [List.map_cons, List.foldl_cons, List.foldl_cons, max_toInt64 hv hu]
      refine ih (fun u hu => h u (List.mem_cons_of_mem _ hu)) _ ?_
      rcases Std.MaxEqOr.max_eq_or v u with hmax | hmax <;> rw [hmax] <;> assumption
  rcases us with _ | ⟨u, us⟩
  · rfl
  · rw [List.map_cons, List.max?_cons', List.max?_cons', hfold us (fun u hu => h u (List.mem_cons_of_mem _ hu)) u
      (h u (List.mem_cons_self ..)), Option.map_some, UInt64.toUInt64_toInt64]

theorem rowStats_eq (h : Countable rs) :
    let rows := rs.map ResultRow.ofResult
    let times := (rows.map ResultRow.responseTime).filter (0 < ·)
    ResultStats.ofResults? rs = some
      { total := rows.length
        successful := rows.countP ResultRow.isUp
        failed := rows.countP ResultRow.isDown
        averageTime? := Table.mean? times
        maximumTime? := times.max?.map Int64.toUInt64 } := by
  intro rows times
  have hup : rows.countP ResultRow.isUp = rs.countP CheckResult.isUp := by
    rw [List.countP_map]
    exact List.countP_congr fun r _ => by rw [Function.comp_apply, ResultRow.isUp_ofResult]
  have hdown : rows.countP ResultRow.isDown = rs.countP CheckResult.isDown := by
    rw [List.countP_map]
    exact List.countP_congr fun r _ => by rw [Function.comp_apply, ResultRow.isDown_ofResult]
  have htimes : times = (ResultStats.times rs).map UInt64.toInt64 := times_ofResult h
  have hmax : times.max?.map Int64.toUInt64 = (ResultStats.times rs).max? :=
    htimes ▸ max?_toInt64 fun u hu => h.time_lt_of_mem hu
  have hmean : Table.mean? times = ResultStats.mean? (ResultStats.times rs) := htimes ▸ mean?_ofResult h
  have hlt : ResultStats.timeOf rs < 2 ^ 64 := Nat.lt_trans h.sum_lt (by decide)
  rw [hup, hdown, hmean, hmax, List.length_map, ResultStats.ofResults?_eq, if_pos hlt]
  rfl

end EndpointWatch.Storage
