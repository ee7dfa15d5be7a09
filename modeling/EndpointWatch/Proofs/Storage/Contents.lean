import EndpointWatch.Proofs.Run
import EndpointWatch.Proofs.Storage.NormalForm
import EndpointWatch.Proofs.Storage.Streams

/-!
# What the table holds

After some operations the table holds one row for each record that they brought, in the order in which they came: of an
endpoint and of an alert the last one, of points those of the batches in which every value is a number
(`Table.Holds`, `Table.holds_after`).
-/

namespace EndpointWatch.Storage

/-! ### Records that operations bring -/

namespace Operation

def endpoint? : Operation → Option Endpoint
  | .upsertEndpoint e => some e
  | _ => none

def alert? : Operation → Option Alert
  | .upsertAlert a => some a
  | _ => none

/-- The points that a table takes: all of a batch, or none if a value is no number. -/
def accepted (op : Operation) : List Metric := if ∀ m ∈ op.points, m.value.isNaN = false then op.points else []

end Operation

/-- The endpoints that were put in, each as it was last. -/
def endpoints (ops : List Operation) : Dict Int64 Endpoint :=
  (ops.filterMap Operation.endpoint?).foldl (fun d e => d.insert e.id e) .empty

/-- The alerts that were put in, each as it was last. -/
def alerts (ops : List Operation) : Dict Int64 Alert :=
  (ops.filterMap Operation.alert?).foldl (fun d a => d.insert a.id a) .empty

/-- The points that a table took, in order. -/
def accepted (ops : List Operation) : List Metric := ops.flatMap Operation.accepted

theorem endpoints_concat (ops : List Operation) (op : Operation) :
    endpoints (ops ++ [op]) = op.endpoint?.toList.foldl (fun d e => d.insert e.id e) (endpoints ops) := by
  rw [endpoints, filterMap_concat, List.foldl_append, ← endpoints]

theorem alerts_concat (ops : List Operation) (op : Operation) :
    alerts (ops ++ [op]) = op.alert?.toList.foldl (fun d a => d.insert a.id a) (alerts ops) := by
  rw [alerts, filterMap_concat, List.foldl_append, ← alerts]

theorem accepted_concat (ops : List Operation) (op : Operation) :
    accepted (ops ++ [op]) = accepted ops ++ op.accepted := by
  rw [accepted, List.flatMap_append, ← accepted]
  exact congrArg _ (List.append_nil _)

/-! ### Batches -/

namespace Table

variable {t : Table} {ms past later : List Metric} {m : Metric}

theorem metricRow_of_isNaN (h : m.value.isNaN = true) :
    metricRow m = .error (.query (s!"failed to store metric '{m.name}': error returned from database: "
      ++ "(code: 1299) NOT NULL constraint failed: system_metrics.value")) := by
  rw [metricRow, MetricRow.ofMetric?_of_isNaN h]

theorem metricRow_eq_ok (h : m.value.isNaN = false) : metricRow m = .ok (.ofMetric m.normal) :=
  metricRow_eq_ok_iff.mpr (MetricRow.ofMetric?_eq_normal h)

theorem mapM_metricRow_eq_ok (h : ∀ m ∈ ms, m.value.isNaN = false) :
    ms.mapM metricRow = .ok (ms.map fun m => .ofMetric m.normal) :=
  mapM_eq_ok fun m hm => metricRow_eq_ok (h m hm)

/-- The first point that has no row refuses the batch. -/
theorem mapM_metricRow_eq_error {e : StorageError} (hpast : ∀ p ∈ past, p.value.isNaN = false)
    (hm : metricRow m = .error e) : (past ++ m :: later).mapM metricRow = .error e := by
  rw [List.mapM_append, mapM_metricRow_eq_ok hpast, List.mapM_cons, hm]
  rfl

theorem step_store_of_ok (h : ∀ m ∈ ms, m.value.isNaN = false) :
    t.step (.store ms) =
      (.done, { t with metrics := (ms.map fun m => .ofMetric m.normal).reverse ++ t.metrics }) := by
  simp only [step, store_of_ok (mapM_metricRow_eq_ok h)]

theorem step_store_of_find? (h : ms.find? (·.value.isNaN) = some m) :
    t.step (.store ms) =
      (.failed (.query (s!"failed to store metric '{m.name}': error returned from database: "
        ++ "(code: 1299) NOT NULL constraint failed: system_metrics.value")), t) := by
  obtain ⟨hm, past, later, rfl, hpast⟩ := List.find?_eq_some_iff_append.mp h
  have hpast : ∀ p ∈ past, p.value.isNaN = false := fun p hp => by simpa using hpast p hp
  simp only [step, store_of_error (mapM_metricRow_eq_error hpast (metricRow_of_isNaN hm))]

theorem forall_isNaN_of_find? (h : ms.find? (·.value.isNaN) = none) : ∀ m ∈ ms, m.value.isNaN = false := fun m hm =>
  Bool.eq_false_iff.mpr (List.find?_eq_none.mp h m hm)

/-! ### The contents -/

/-- The table, empty at first, after some operations. -/
def after (ops : List Operation) : Table := ops.foldl (fun t op => (t.step op).2) .empty

/-- The table holds what some operations brought. Its rows of results, entries and points are newest first. -/
structure Holds (ops : List Operation) (t : Table) : Prop where
  endpoints : t.endpoints = (Storage.endpoints ops).mapValues .ofEndpoint
  alerts : t.alerts = (Storage.alerts ops).mapValues .ofAlert
  results : t.results = ((saved ops).map .ofResult).reverse
  entries : KeepsStreams (appended ops) t
  metrics : t.metrics = ((accepted ops).map fun m => .ofMetric m.normal).reverse

namespace Holds

variable {ops : List Operation}

theorem start : Holds [] .empty := ⟨rfl, rfl, rfl, rfl, rfl⟩

theorem metrics_step (h : Holds ops t) (op : Operation) :
    (t.step op).2.metrics = ((accepted (ops ++ [op])).map fun m => .ofMetric m.normal).reverse := by
  rw [accepted_concat, List.map_append, List.reverse_append, ← h.metrics]
  cases op with
  | store ms =>
    cases hfirst : ms.find? (·.value.isNaN) with
    | none =>
      have hms := forall_isNaN_of_find? hfirst
      rw [step_store_of_ok hms, Operation.accepted, Operation.points, if_pos hms]
    | some m =>
      have hms : ¬∀ m ∈ ms, m.value.isNaN = false := fun hall => by
        have hm := List.find?_some hfirst
        rw [hall m (List.mem_of_find?_eq_some hfirst)] at hm
        cases hm
      rw [step_store_of_find? hfirst, Operation.accepted, Operation.points, if_neg hms]
      rfl
  | _ => rfl

/-- A batch changes nothing but the points. -/
theorem frame_store (t : Table) (ms : List Metric) :
    (t.step (.store ms)).2.endpoints = t.endpoints ∧ (t.step (.store ms)).2.alerts = t.alerts ∧
      (t.step (.store ms)).2.results = t.results := by
  cases h : ms.mapM metricRow with
  | ok rows => simp only [Table.step, store_of_ok h, and_self]
  | error e => simp only [Table.step, store_of_error h, and_self]

theorem step (h : Holds ops t) (op : Operation) : Holds (ops ++ [op]) (t.step op).2 := by
  have hentries := h.entries.step op
  have hmetrics := h.metrics_step op
  rw [← appended_concat] at hentries
  refine ⟨?_, ?_, ?_, hentries, hmetrics⟩
  · rw [endpoints_concat]
    cases op with
    | upsertEndpoint e =>
      show t.endpoints.insert _ _ = ((Storage.endpoints ops).insert _ _).mapValues _
      rw [h.endpoints, Dict.insert_mapValues]
    | store ms => exact (frame_store t ms).1.trans h.endpoints
    | _ => exact h.endpoints
  · rw [alerts_concat]
    cases op with
    | upsertAlert a =>
      show t.alerts.insert _ _ = ((Storage.alerts ops).insert _ _).mapValues _
      rw [h.alerts, Dict.insert_mapValues]
    | store ms => exact (frame_store t ms).2.1.trans h.alerts
    | _ => exact h.alerts
  · rw [saved_concat, List.map_append, List.reverse_append, ← h.results]
    cases op with
    | store ms => exact (frame_store t ms).2.2
    | _ => rfl

end Holds

theorem holds_after (ops : List Operation) : Holds ops (after ops) := by
  induction ops using List.reverseRecOn with
  | nil => exact .start
  | append_singleton ops op ih =>
    rw [after, List.foldl_concat]
    exact ih.step op

end Table

end EndpointWatch.Storage
