import EndpointWatch.Proofs.Storage.Agreement
import EndpointWatch.Proofs.Storage.Contents

/-!
# Tables that nobody can tell apart

No query tells a negative number in a column of unsigned ones from zero. Tables whose rows differ in nothing else are
`Alike`: they give the same answers, and stay alike whatever they are asked (`Table.Alike.answers`). So a table may as
well be given the normal forms of all records and bounds of time (`Table.answers_map_normal`).
-/

namespace EndpointWatch.Storage

/-! ### Rows without negative numbers -/

theorem atLeastZero_atLeastZero (n : Int64) : atLeastZero (atLeastZero n) = atLeastZero n := by
  by_cases h : n < 0
  · rw [atLeastZero, atLeastZero, if_pos h]
    rfl
  · rw [atLeastZero, atLeastZero, if_neg h, if_neg h]

theorem atLeastZero_signedOrZero (u : UInt64) : atLeastZero (signedOrZero u).toInt64 = atLeastZero u.toInt64 := by
  by_cases h : u.toNat < 2 ^ 63
  · rw [signedOrZero_of_lt h]
  · rw [signedOrZero, if_neg h, atLeastZero.eq_1 u.toInt64, if_pos (toInt64_lt_zero_iff.mpr (Nat.le_of_not_lt h))]
    rfl

theorem filter_map_atLeastZero (ns : List Int64) : (ns.map atLeastZero).filter (0 < ·) = ns.filter (0 < ·) := by
  have hpos {n : Int64} (h : 0 < n) : atLeastZero n = n := by
    have hneg : ¬n < 0 := by
      rw [Int64.lt_iff_toInt_lt] at h ⊢
      exact Int.not_lt.mpr (Int.le_of_lt h)
    rw [atLeastZero, if_neg hneg]
  have hfilter : ns.filter ((0 < ·) ∘ atLeastZero) = ns.filter (0 < ·) := by
    refine List.filter_congr fun n _ => decide_eq_decide.mpr ⟨fun h => ?_, fun h => (hpos h).symm ▸ h⟩
    unfold atLeastZero at h
    split at h
    · exact absurd h (by decide)
    · exact h
  rw [List.filter_map, hfilter]
  exact (List.map_congr_left fun n hn => hpos (of_decide_eq_true (List.mem_filter.mp hn).2)).trans (List.map_id _)

namespace EndpointRow

def normal (r : EndpointRow) : EndpointRow := { r with timeout := atLeastZero r.timeout }

theorem toEndpoint_normal (r : EndpointRow) : r.normal.toEndpoint = r.toEndpoint := by
  rw [toEndpoint, toEndpoint, normal, atLeastZero_atLeastZero]

theorem normal_normal (r : EndpointRow) : r.normal.normal = r.normal := by
  rw [normal, normal, atLeastZero_atLeastZero]

theorem normal_ofEndpoint (e : Endpoint) : (ofEndpoint e.normal).normal = (ofEndpoint e).normal :=
  congrArg (fun n => { ofEndpoint e with timeout := n }) (atLeastZero_signedOrZero e.timeout)

end EndpointRow

namespace ResultRow

def normal (r : ResultRow) : ResultRow := { r with responseTime := atLeastZero r.responseTime }

theorem toResult_normal (r : ResultRow) : r.normal.toResult = r.toResult := by
  rw [toResult, toResult, normal, atLeastZero_atLeastZero]

theorem normal_normal (r : ResultRow) : r.normal.normal = r.normal := by
  rw [normal, normal, atLeastZero_atLeastZero]

theorem normal_ofResult (r : CheckResult) : (ofResult r.normal).normal = (ofResult r).normal := by
  show ResultRow.mk _ (atLeastZero (signedOrZero r.responseTime).toInt64) _ _ r.checkedAt.floorMillis.toMillis = _
  rw [atLeastZero_signedOrZero, Instant.toMillis_floorMillis]
  rfl

end ResultRow

/-! ### Queries see no negative numbers -/

namespace Table

variable {t u : Table}

def normal (t : Table) : Table :=
  { t with endpoints := t.endpoints.mapValues EndpointRow.normal, results := t.results.map ResultRow.normal }

theorem activeEndpoints_normal (t : Table) : t.normal.activeEndpoints = t.activeEndpoints := by
  show ((t.endpoints.mapValues EndpointRow.normal).values.filter _).map _ = _
  rw [Dict.values_mapValues, List.filter_map, List.map_map]
  exact List.map_congr_left fun r _ => r.toEndpoint_normal

theorem latestResults_normal (t : Table) (id : Int64) (limit : UInt64) :
    t.normal.latestResults id limit = t.latestResults id limit := by
  let rows := t.results.filter fun r => r.endpointId = id
  have hrows : (t.results.map ResultRow.normal).filter (fun r => r.endpointId = id) = rows.map ResultRow.normal := by
    rw [List.filter_map]
    rfl
  have hsort : ((rows.map ResultRow.normal).mergeSort fun a b => b.checkedAt ≤ a.checkedAt) =
      (rows.mergeSort fun a b => b.checkedAt ≤ a.checkedAt).map ResultRow.normal := by
    -- rows are sorted by their times only
    refine (List.map_mergeSort fun a _ b _ => ?_).symm
    rfl
  show (limited limit (((t.results.map ResultRow.normal).filter _).mergeSort _)).map _ =
    (limited limit (rows.mergeSort _)).map _
  rw [hrows, hsort, ← map_limited, List.map_map]
  exact List.map_congr_left fun r _ => r.toResult_normal

theorem resultStats_normal (t : Table) (since : Instant) : t.normal.resultStats since = t.resultStats since := by
  let rows := t.results.filter fun r => since.toMillis < r.checkedAt
  have hrows : (t.results.map ResultRow.normal).filter (fun r => since.toMillis < r.checkedAt) =
      rows.map ResultRow.normal := by
    rw [List.filter_map]
    rfl
  -- a negative time counts as little as zero does
  have htimes : ((rows.map ResultRow.normal).map ResultRow.responseTime).filter (0 < ·) =
      (rows.map ResultRow.responseTime).filter (0 < ·) := by
    rw [← filter_map_atLeastZero (rows.map ResultRow.responseTime), List.map_map, List.map_map]
    rfl
  rw [resultStats, resultStats]
  show ResultStats.mk _ _ _ _ _ = _
  simp only [normal, hrows, htimes, List.length_map, List.countP_map]
  rfl

theorem endpointCounts_normal (t : Table) : t.normal.endpointCounts = t.endpointCounts := by
  have hsize : (t.endpoints.mapValues EndpointRow.normal).size = t.endpoints.size := List.length_map _
  show EndpointCounts.mk (t.endpoints.mapValues _).size ((t.endpoints.mapValues _).values.countP _) = _
  rw [hsize, Dict.values_mapValues, List.countP_map]
  rfl

theorem answer_normal (t : Table) (op : Operation) : (t.normal.step op).1 = (t.step op).1 := by
  cases op with
  | activeEndpoints => exact congrArg Answer.endpoints t.activeEndpoints_normal
  | latestResults id limit => exact congrArg Answer.results (t.latestResults_normal id limit)
  | resultStats since => exact congrArg Answer.stats (t.resultStats_normal since)
  | endpointCounts => exact congrArg Answer.counts t.endpointCounts_normal
  | store ms =>
    cases h : ms.mapM metricRow with
    | ok rows => simp only [step, store_of_ok h]
    | error e => simp only [step, store_of_error h]
  | _ => rfl

/-! ### Alike tables -/

/-- Two tables have the same rows, apart from negative numbers in place of zero. -/
structure Alike (t u : Table) : Prop where
  endpoints : t.endpoints.mapValues EndpointRow.normal = u.endpoints.mapValues EndpointRow.normal
  alerts : t.alerts = u.alerts
  results : t.results.map ResultRow.normal = u.results.map ResultRow.normal
  entries : t.entries = u.entries
  metrics : t.metrics = u.metrics

namespace Alike

theorem refl (t : Table) : Alike t t := ⟨rfl, rfl, rfl, rfl, rfl⟩

theorem trans {v : Table} (h : Alike t u) (h' : Alike u v) : Alike t v :=
  ⟨h.endpoints.trans h'.endpoints, h.alerts.trans h'.alerts, h.results.trans h'.results, h.entries.trans h'.entries,
    h.metrics.trans h'.metrics⟩

theorem normal_eq (h : Alike t u) : t.normal = u.normal := by
  rw [normal, normal, h.endpoints, h.alerts, h.results, h.entries, h.metrics]

theorem answer (h : Alike t u) (op : Operation) : (t.step op).1 = (u.step op).1 := by
  rw [← answer_normal t, h.normal_eq, answer_normal u]

theorem step (h : Alike t u) (op : Operation) : Alike (t.step op).2 (u.step op).2 := by
  cases op with
  | upsertEndpoint e =>
    refine { h with endpoints := ?_ }
    show (t.endpoints.insert _ _).mapValues _ = (u.endpoints.insert _ _).mapValues _
    rw [← Dict.insert_mapValues, ← Dict.insert_mapValues, h.endpoints]
  | upsertAlert a => exact { h with alerts := congrArg (·.insert a.id (.ofAlert a)) h.alerts }
  | saveResult r => exact { h with results := congrArg (_ :: ·) h.results }
  | append stream fields =>
    refine { h with entries := ?_ }
    show EntryRow.mk t.nextId _ _ :: t.entries = EntryRow.mk u.nextId _ _ :: u.entries
    rw [nextId, nextId, h.entries]
  | store ms =>
    cases hrows : ms.mapM metricRow with
    | ok rows =>
      simp only [Table.step, store_of_ok hrows]
      exact { h with metrics := congrArg (rows.reverse ++ ·) h.metrics }
    | error e =>
      simp only [Table.step, store_of_error hrows]
      exact h
  | _ => exact h

theorem answers (h : Alike t u) (ops : List Operation) :
    Storage.answers Table.step t ops = Storage.answers Table.step u ops := by
  induction ops generalizing t u with
  | nil => rfl
  | cons op ops ih =>
    rw [Storage.answers, Storage.answers, h.answer op, ih (h.step op)]

end Alike

end Table

/-! ### Operations in normal form -/

/-- The operation with normal forms in place of the records it brings and of bounds of time. -/
def Operation.normal : Operation → Operation
  | .upsertEndpoint e => .upsertEndpoint e.normal
  | .saveResult r => .saveResult r.normal
  | .store ms => .store (ms.map Metric.normal)
  | .resultStats since => .resultStats since.floorMillis
  | .retrieve start stop => .retrieve start.floorMillis stop.floorMillis
  | .retrieveByName name start stop => .retrieveByName name start.floorMillis stop.floorMillis
  | .aggregate name start stop => .aggregate name start.floorMillis stop.floorMillis
  | op => op

namespace Table

variable {t u : Table}

theorem metricRow_normal (m : Metric) : metricRow m.normal = metricRow m := by
  unfold metricRow
  rw [MetricRow.ofMetric?_normal]
  rfl

theorem step_store_normal (t : Table) (ms : List Metric) :
    t.step (.store (ms.map Metric.normal)) = t.step (.store ms) := by
  have hrows : (ms.map Metric.normal).mapM metricRow = ms.mapM metricRow := by
    rw [List.mapM_map]
    exact congrArg (List.mapM · ms) (funext metricRow_normal)
  cases h : ms.mapM metricRow with
  | ok rows => simp only [step, store_of_ok h, store_of_ok (hrows.trans h)]
  | error e => simp only [step, store_of_error h, store_of_error (hrows.trans h)]

theorem metricsBetween_floorMillis (t : Table) (start stop : Instant) :
    t.metricsBetween start.floorMillis stop.floorMillis = t.metricsBetween start stop := by
  rw [metricsBetween, Instant.toMillis_floorMillis, Instant.toMillis_floorMillis]
  rfl

theorem answer_operation_normal (t : Table) (op : Operation) : (t.step op.normal).1 = (t.step op).1 := by
  cases op with
  | store ms => exact congrArg Prod.fst (t.step_store_normal ms)
  | resultStats since =>
    show Answer.stats (t.resultStats since.floorMillis) = Answer.stats (t.resultStats since)
    rw [resultStats, resultStats, Instant.toMillis_floorMillis]
  | retrieve start stop =>
    show Table.answer _ (t.retrieve _ _) = Table.answer _ (t.retrieve _ _)
    rw [retrieve, retrieve, metricsBetween_floorMillis]
  | retrieveByName name start stop =>
    show Table.answer _ (t.retrieveByName _ _ _) = Table.answer _ (t.retrieveByName _ _ _)
    rw [retrieveByName, retrieveByName, metricsBetween_floorMillis]
  | aggregate name start stop =>
    show Answer.aggregate (t.aggregate _ _ _) = Answer.aggregate (t.aggregate _ _ _)
    rw [aggregate, aggregate, metricsBetween_floorMillis]
  | _ => rfl

theorem alike_operation_normal (t : Table) (op : Operation) : Alike (t.step op.normal).2 (t.step op).2 := by
  cases op with
  | upsertEndpoint e =>
    refine { Alike.refl t with endpoints := ?_ }
    show (t.endpoints.insert _ _).mapValues _ = (t.endpoints.insert _ _).mapValues _
    rw [← Dict.insert_mapValues, ← Dict.insert_mapValues, EndpointRow.normal_ofEndpoint]
    rfl
  | saveResult r => exact { Alike.refl t with results := congrArg (· :: _) (ResultRow.normal_ofResult r) }
  | store ms =>
    show Alike (t.step (.store (ms.map Metric.normal))).2 _
    rw [t.step_store_normal ms]
    exact .refl _
  | _ => exact .refl _

theorem Alike.answers_map_normal (h : Alike t u) (ops : List Operation) :
    Storage.answers Table.step t (ops.map Operation.normal) = Storage.answers Table.step u ops := by
  induction ops generalizing t u with
  | nil => rfl
  | cons op ops ih =>
    rw [List.map_cons, Storage.answers, Storage.answers, answer_operation_normal, h.answer op,
      ih ((alike_operation_normal t op).trans (h.step op))]

/-- Normal forms of the records and of the bounds of time are answered as these themselves are. -/
theorem answers_map_normal (t : Table) (ops : List Operation) :
    Storage.answers Table.step t (ops.map Operation.normal) = Storage.answers Table.step t ops :=
  (Alike.refl t).answers_map_normal ops

end Table

end EndpointWatch.Storage
