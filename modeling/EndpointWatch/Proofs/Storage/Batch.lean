import EndpointWatch.Proofs.Storage.Agreement
import EndpointWatch.Proofs.Storage.Contents

/-!
# Batches are stored whole or not at all

A batch with a value that is no number is refused with an error that names the first such point, and nobody can tell
afterwards that it was there. Any other batch is stored whole, in its order: its points are told among the others by their
times, and before those of the same time that were there already (`store_allOrNothing`).
-/

namespace EndpointWatch.Storage

/-! ### Rows that are read back -/

namespace MetricRow

/-- The point that a row gives back, if it can be decoded. -/
def point (r : MetricRow) : Metric := r.toMetric.toOption.getD default

theorem point_eq {r : MetricRow} {p : Metric} (h : r.toMetric = .ok p) : r.point = p := by
  rw [point, h]
  rfl

theorem time_of_toMetric {r : MetricRow} {p : Metric} (h : r.toMetric = .ok p) : p.time = .ofMillis r.time := by
  unfold toMetric at h
  cases hkind : MetricKind.ofName r.kind with
  | error e =>
    rw [hkind] at h
    cases h
  | ok kind =>
    cases htags : readMap r.tags with
    | error e =>
      rw [hkind, htags] at h
      cases h
    | ok tags =>
      rw [hkind, htags] at h
      cases h
      rfl

theorem toMetric_of_mapM {rows : List MetricRow} {ps : List Metric} (h : rows.mapM toMetric = .ok ps) :
    ∀ r ∈ rows, r.toMetric = .ok r.point := by
  induction rows generalizing ps with
  | nil => exact fun _ hr => absurd hr List.not_mem_nil
  | cons row rows ih =>
    obtain ⟨p, rest, hrow, hrows, -⟩ := mapM_cons_eq_ok h
    intro r hr
    rcases List.mem_cons.mp hr with rfl | hr
    · rw [hrow, point_eq hrow]
    · exact ih hrows r hr

variable {r : MetricRow} {ms : List Metric}

/-- The rows of points give back their normal forms. -/
theorem toMetric_of_mem_rows (hr : r ∈ ms.map fun m => ofMetric m.normal) : r.toMetric = .ok r.point := by
  obtain ⟨m, -, rfl⟩ := List.mem_map.mp hr
  have h := toMetric_ofMetric_normal m
  rw [h, point_eq h]

theorem map_point_rows (ms : List Metric) : (ms.map fun m => ofMetric m.normal).map point = ms.map Metric.normal := by
  rw [List.map_map]
  exact List.map_congr_left fun m _ => point_eq (toMetric_ofMetric_normal m)

end MetricRow

namespace Table

variable {t : Table} {ms old : List Metric} {start stop : Instant}

/-- Whether a table finds a point in a range of time. -/
def within (start stop : Instant) (p : Metric) : Bool :=
  start.toMillis ≤ p.time.toMillis && p.time.toMillis ≤ stop.toMillis

/-- Rows that can be decoded are told newest first. -/
theorem newestFirst_rows {rows : List MetricRow} (h : ∀ r ∈ rows, r.toMetric = .ok r.point) :
    (latestFirst rows).mapM MetricRow.toMetric = .ok ((latestFirst rows).map MetricRow.point) ∧
      NewestFirst Metric.time (rows.reverse.map MetricRow.point) ((latestFirst rows).map MetricRow.point) := by
  refine ⟨mapM_eq_ok fun r hr => h r (List.mem_mergeSort.mp hr), ?_⟩
  refine (NewestFirst.of_mergeSort_millis MetricRow.time rows).map fun r hr => ?_
  exact MetricRow.time_of_toMetric (h r (List.mem_reverse.mp hr))

/-- The rows in a range of time are those of the points in it. -/
theorem filter_rows (ms : List Metric) (start stop : Instant) :
    (ms.map fun m => MetricRow.ofMetric m.normal).reverse.filter
        (fun r => start.toMillis ≤ r.time && r.time ≤ stop.toMillis) =
      ((ms.filter (within start stop)).map fun m => .ofMetric m.normal).reverse := by
  rw [List.filter_reverse, List.filter_map]
  refine congrArg (fun ms => (List.map _ ms).reverse) (List.filter_congr fun m _ => ?_)
  show (decide (_ ≤ m.time.floorMillis.toMillis) && decide (m.time.floorMillis.toMillis ≤ _)) = _
  rw [Instant.toMillis_floorMillis]
  rfl

theorem metricsBetween_store (t : Table) (ms : List Metric) (start stop : Instant) :
    ({ t with metrics := (ms.map fun m => .ofMetric m.normal).reverse ++ t.metrics } : Table).metricsBetween start stop =
      ((ms.filter (within start stop)).map fun m => .ofMetric m.normal).reverse ++ t.metricsBetween start stop := by
  rw [metricsBetween, metricsBetween, List.filter_append, filter_rows]

/-- What is retrieved after a batch was stored. -/
theorem retrieve_store (hold : t.retrieve start stop = .ok old) (ms : List Metric) :
    ∃ new, ({ t with metrics := (ms.map fun m => .ofMetric m.normal).reverse ++ t.metrics } : Table).retrieve start stop =
        .ok new ∧
      NewestFirst Metric.time (old.reverse ++ (ms.filter (within start stop)).map Metric.normal) new := by
  let rows := t.metricsBetween start stop
  let added : List MetricRow := (ms.filter (within start stop)).map fun m => .ofMetric m.normal
  have hrows : ∀ r ∈ rows, r.toMetric = .ok r.point := fun r hr =>
    MetricRow.toMetric_of_mapM hold r (List.mem_mergeSort.mpr hr)
  have hall : ∀ r ∈ added.reverse ++ rows, r.toMetric = .ok r.point := by
    intro r hr
    rcases List.mem_append.mp hr with hr | hr
    · exact MetricRow.toMetric_of_mem_rows (List.mem_reverse.mp hr)
    · exact hrows r hr
  have htold : old = (latestFirst rows).map MetricRow.point := by
    have h := hold.symm.trans (newestFirst_rows hrows).1
    injection h
  have hpoints : added.map MetricRow.point = (ms.filter (within start stop)).map Metric.normal :=
    MetricRow.map_point_rows _
  obtain ⟨hretrieve, hnewest⟩ := newestFirst_rows hall
  rw [List.reverse_append, List.reverse_reverse, List.map_append, hpoints] at hnewest
  refine ⟨_, ?_, htold ▸ hnewest.of_told (newestFirst_rows hrows).2⟩
  rw [retrieve, metricsBetween_store]
  exact hretrieve

end Table

/-! ### All or nothing -/

/-- That a table takes all of a batch or nothing. -/
structure AllOrNothing (t : Table) (ms : List Metric) : Prop where
  /-- If a value is no number, the error names the first such point, and all is as if nobody had asked to store it. -/
  refused : ∀ m, ms.find? (·.value.isNaN) = some m →
    (t.step (.store ms)).1 = .failed (.query (s!"failed to store metric '{m.name}': error returned from database: "
      ++ "(code: 1299) NOT NULL constraint failed: system_metrics.value")) ∧
    ∀ ops, answers Table.step (t.step (.store ms)).2 ops = answers Table.step t ops
  /-- If all values are numbers, there is a row for each point, the last one in front, and nothing else has changed. -/
  stored : ms.find? (·.value.isNaN) = none → t.step (.store ms) =
    (.done, { t with metrics := (ms.map fun m => .ofMetric m.normal).reverse ++ t.metrics })
  /-- The points are told newest first, later ones of the batch before earlier ones of the same time, and before those of
  the same time that were told already. -/
  retrieved : ms.find? (·.value.isNaN) = none → ∀ start stop old, (t.step (.retrieve start stop)).1 = .metrics old →
    ∃ new, ((t.step (.store ms)).2.step (.retrieve start stop)).1 = .metrics new ∧
      NewestFirst Metric.time (old.reverse ++ (ms.filter (Table.within start stop)).map Metric.normal) new

/-- Every table takes every batch as a whole or not at all. -/
theorem store_allOrNothing (t : Table) (ms : List Metric) : AllOrNothing t ms := by
  refine ⟨fun m h => ?_, fun h => Table.step_store_of_ok (Table.forall_isNaN_of_find? h),
    fun h start stop old hold => ?_⟩
  · rw [Table.step_store_of_find? h]
    exact ⟨rfl, fun _ => rfl⟩
  · rw [Table.step_store_of_ok (Table.forall_isNaN_of_find? h)]
    have hold : t.retrieve start stop = .ok old := by
      have hold : Table.answer .metrics (t.retrieve start stop) = .metrics old := hold
      cases hr : t.retrieve start stop with
      | ok ps =>
        rw [hr] at hold
        injection hold with hold
        rw [hold]
      | error e =>
        rw [hr] at hold
        cases hold
    obtain ⟨new, hnew, hnewest⟩ := Table.retrieve_store hold ms
    refine ⟨new, ?_, hnewest⟩
    show Table.answer .metrics (Table.retrieve _ start stop) = _
    rw [hnew]
    rfl

end EndpointWatch.Storage
