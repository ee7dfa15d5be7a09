import EndpointWatch.Proofs.Storage.Rows

/-!
# Batches of points in a transaction

Whatever is inserted in a transaction, the committed store stays (`Transaction.committed_insertAll`), so that a batch of
which a point is refused leaves the store as it was (`store_of_error`). Any other batch adds its rows, the last one in
front (`store_of_ok`).
-/

namespace EndpointWatch.Storage.Table

variable {t : Table} {m : Metric} {ms : List Metric} {r : MetricRow} {rows : List MetricRow} {e : StorageError}

theorem metricRow_eq_ok_iff : metricRow m = .ok r ↔ MetricRow.ofMetric? m = some r := by
  unfold metricRow
  cases MetricRow.ofMetric? m <;> simp

namespace Transaction

variable {x y : Transaction}

theorem insert_of_ok (h : metricRow m = .ok r) :
    x.insert m = .ok { x with pending := { x.pending with metrics := r :: x.pending.metrics } } := by
  rw [insert, h]
  rfl

theorem insert_of_error (h : metricRow m = .error e) : x.insert m = .error e := by
  rw [insert, h]
  rfl

/-- What is committed does not change as long as the transaction goes on. -/
theorem committed_insert (h : x.insert m = .ok y) : y.committed = x.committed := by
  cases hm : metricRow m with
  | ok r =>
    rw [insert_of_ok hm] at h
    cases h
    rfl
  | error e =>
    rw [insert_of_error hm] at h
    cases h

theorem committed_insertAll (x : Transaction) (ms : List Metric) : (x.insertAll ms).2.committed = x.committed := by
  induction ms generalizing x with
  | nil => rfl
  | cons m ms ih =>
    unfold insertAll
    cases h : x.insert m with
    | ok y => exact (ih y).trans (committed_insert h)
    | error e => rfl

theorem insertAll_of_ok (h : ms.mapM metricRow = .ok rows) :
    x.insertAll ms = (none, { x with pending := { x.pending with metrics := rows.reverse ++ x.pending.metrics } }) := by
  induction ms generalizing x rows with
  | nil =>
    cases h
    rfl
  | cons m ms ih =>
    obtain ⟨r, rest, hm, hms, rfl⟩ := mapM_cons_eq_ok h
    rw [insertAll, insert_of_ok hm]
    show insertAll _ ms = _
    rw [ih hms, List.reverse_cons, List.append_assoc]
    rfl

theorem insertAll_of_error (h : ms.mapM metricRow = .error e) : (x.insertAll ms).1 = some e := by
  induction ms generalizing x with
  | nil => cases h
  | cons m ms ih =>
    rcases mapM_cons_eq_error h with hm | ⟨r, hm, hms⟩
    · rw [insertAll, insert_of_error hm]
    · rw [insertAll, insert_of_ok hm]
      exact ih hms

end Transaction

theorem store_of_ok (h : ms.mapM metricRow = .ok rows) :
    t.store ms = (none, { t with metrics := rows.reverse ++ t.metrics }) := by
  rw [store, Transaction.insertAll_of_ok h]
  rfl

theorem store_of_error (h : ms.mapM metricRow = .error e) : t.store ms = (some e, t) := by
  have hfails := Transaction.insertAll_of_error (x := .start t) h
  have hkept := Transaction.committed_insertAll (.start t) ms
  unfold store
  generalize (Transaction.start t).insertAll ms = end_ at hfails hkept
  obtain ⟨_, x⟩ := end_
  cases hfails
  exact congrArg (Prod.mk (some e)) hkept

end EndpointWatch.Storage.Table
