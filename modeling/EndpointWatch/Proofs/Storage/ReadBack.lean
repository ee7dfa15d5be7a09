import EndpointWatch.Proofs.Storage.Alike
import EndpointWatch.Proofs.Storage.Batch
import EndpointWatch.Proofs.Storage.Latest

/-!
# What is read from the table, and written again

The table tells each record in its normal form, and all else as it was (`ReadsBack`). A record that was read is its own
normal form, and nobody can tell its row from the one that it was read from (`WritesBack`). With the normal forms that may
be brought instead of records, this is all that the table does to them (`keepsNormalForms`).
-/

namespace EndpointWatch.Storage

/-- What a table tells of the records that some operations brought. -/
structure ReadsBack (ops : List Operation) (t : Table) : Prop where
  endpoints : t.activeEndpoints = ((endpoints ops).values.filter (·.isActive)).map Endpoint.normal
  alerts : ∀ id, t.alertsFor id = (alerts ops).values.filter fun a => a.endpointId = id && a.isActive
  results : ∀ id, ∃ all,
    NewestFirst CheckResult.checkedAt (((saved ops).filter (·.endpointId = id)).map CheckResult.normal) all ∧
      ∀ limit, t.latestResults id limit = Table.limited limit all
  entries : ∀ stream cursor limit, t.readAfter stream cursor limit = .ok (Table.limited limit
    (((numbered (appended ops)).filter (·.stream = stream)).filter (cursor.toInt64 < ·.id.toInt64)))
  metrics : ∀ start stop, ∃ ps, t.retrieve start stop = .ok ps ∧
    NewestFirst Metric.time (((accepted ops).filter (Table.within start stop)).map Metric.normal) ps
  named : ∀ name start stop, ∃ ps, t.retrieveByName name start stop = .ok ps ∧
    NewestFirst Metric.time
      ((((accepted ops).filter (Table.within start stop)).filter (·.name = name)).map Metric.normal) ps

/-- What happens when records are written that were read from a table. -/
structure WritesBack (t : Table) : Prop where
  /-- An endpoint is there already. -/
  endpoints : ∀ e ∈ t.activeEndpoints, e.normal = e ∧
    ∀ ops, answers Table.step (t.step (.upsertEndpoint e)).2 ops = answers Table.step t ops
  /-- A result is saved as if its row were inserted once more. -/
  results : ∀ id limit, ∀ r ∈ t.latestResults id limit, r.normal = r ∧ ∃ row ∈ t.results, row.toResult = r ∧
    ∀ ops, answers Table.step (t.step (.saveResult r)).2 ops = answers Table.step (t.insertRow (.result row)) ops
  /-- The rows of points are inserted once more. -/
  metrics : ∀ name start stop ps, t.retrieve start stop = .ok ps ∨ t.retrieveByName name start stop = .ok ps →
    ps.map Metric.normal = ps ∧ ∃ rows ⊆ t.metrics, rows.mapM MetricRow.toMetric = .ok ps ∧
      t.step (.store ps) = (.done, { t with metrics := rows.reverse ++ t.metrics })

variable {ops : List Operation}

/-! ### Records that were brought -/

theorem get?_endpoints {id : Int64} {e : Endpoint} (h : (endpoints ops).get? id = some e) : e.id = id := by
  induction ops using List.reverseRecOn with
  | nil => cases h
  | append_singleton ops op ih =>
    rw [endpoints_concat] at h
    cases op with
    | upsertEndpoint e' =>
      rcases Dict.eq_some_of_get?_insert h with ⟨rfl, rfl⟩ | ⟨-, h⟩
      · rfl
      · exact ih h
    | _ => exact ih h

theorem isNaN_of_mem_accepted {m : Metric} (h : m ∈ accepted ops) : m.value.isNaN = false := by
  obtain ⟨op, -, hm⟩ := List.mem_flatMap.mp h
  unfold Operation.accepted at hm
  split at hm
  · next hall => exact hall m hm
  · exact absurd hm List.not_mem_nil

namespace Table

variable {t : Table}

/-! ### Reading -/

namespace Holds

theorem activeEndpoints (h : Holds ops t) :
    t.activeEndpoints = ((Storage.endpoints ops).values.filter (·.isActive)).map Endpoint.normal := by
  have hactive : (fun r : EndpointRow => decide (r.isActive = 1)) ∘ EndpointRow.ofEndpoint = (·.isActive) :=
    funext fun e => decide_flag e.isActive
  rw [Table.activeEndpoints, h.endpoints, Dict.values_mapValues, List.filter_map, hactive, List.map_map]
  exact List.map_congr_left fun e _ => EndpointRow.toEndpoint_eq_normal e

theorem metricsBetween (h : Holds ops t) (start stop : Instant) : t.metricsBetween start stop =
    (((accepted ops).filter (within start stop)).map fun m => .ofMetric m.normal).reverse := by
  rw [Table.metricsBetween, h.metrics, filter_rows]

theorem newestFirst_normal (ms : List Metric) :
    ∃ ps, (latestFirst (ms.map fun m => .ofMetric m.normal).reverse).mapM MetricRow.toMetric = .ok ps ∧
      NewestFirst Metric.time (ms.map Metric.normal) ps := by
  have hrows : ∀ r ∈ (ms.map fun m => MetricRow.ofMetric m.normal).reverse, r.toMetric = .ok r.point := fun r hr =>
    MetricRow.toMetric_of_mem_rows (List.mem_reverse.mp hr)
  obtain ⟨hread, hnewest⟩ := newestFirst_rows hrows
  rw [List.reverse_reverse, MetricRow.map_point_rows] at hnewest
  exact ⟨_, hread, hnewest⟩

theorem retrieve (h : Holds ops t) (start stop : Instant) : ∃ ps, t.retrieve start stop = .ok ps ∧
    NewestFirst Metric.time (((accepted ops).filter (within start stop)).map Metric.normal) ps := by
  rw [Table.retrieve, h.metricsBetween]
  exact newestFirst_normal _

theorem retrieveByName (h : Holds ops t) (name : String) (start stop : Instant) :
    ∃ ps, t.retrieveByName name start stop = .ok ps ∧ NewestFirst Metric.time
      ((((accepted ops).filter (within start stop)).filter (·.name = name)).map Metric.normal) ps := by
  rw [Table.retrieveByName, h.metricsBetween, List.filter_reverse, List.filter_map]
  exact newestFirst_normal _

theorem readsBack (h : Holds ops t) : ReadsBack ops t where
  endpoints := h.activeEndpoints
  alerts id := alertsFor_of_rows h.alerts id
  results id := h.latestResults id
  entries stream cursor limit := readAfter_eq_limited h.entries stream cursor limit
  metrics start stop := h.retrieve start stop
  named name start stop := h.retrieveByName name start stop

/-! ### Writing -/

theorem upsertEndpoint (h : Holds ops t) {e : Endpoint} (he : e ∈ (Storage.endpoints ops).values) :
    Alike (t.step (.upsertEndpoint e.normal)).2 t := by
  obtain ⟨id, hget⟩ := Dict.mem_values_iff.mp he
  have hrow : t.endpoints.get? e.id = some (.ofEndpoint e) := by
    rw [h.endpoints, Dict.get?_mapValues, get?_endpoints hget, hget]
    rfl
  have hsame : (t.step (.upsertEndpoint e)).2 = t := by
    show { t with endpoints := t.endpoints.insert e.id (.ofEndpoint e) } = t
    rw [Dict.insert_of_get? hrow]
  have halike := alike_operation_normal t (.upsertEndpoint e)
  rwa [hsame] at halike

theorem mem_latestResults (h : Holds ops t) {id : Int64} {limit : UInt64} {r : CheckResult}
    (hr : r ∈ t.latestResults id limit) : ∃ r' ∈ saved ops, r = r'.normal := by
  obtain ⟨all, hall, htell⟩ := h.latestResults id
  rw [htell] at hr
  have hr : r ∈ all := by
    unfold limited at hr
    split at hr
    · exact hr
    · exact List.mem_of_mem_take hr
  obtain ⟨r', hr', rfl⟩ := List.mem_map.mp (hall.perm.mem_iff.mp hr)
  exact ⟨r', (List.mem_filter.mp hr').1, rfl⟩

theorem ofResult_mem (h : Holds ops t) {r : CheckResult} (hr : r ∈ saved ops) : .ofResult r ∈ t.results := by
  rw [h.results]
  exact List.mem_reverse.mpr (List.mem_map_of_mem hr)

theorem store_normal (h : Holds ops t) {ps : List Metric} (hps : ∀ p ∈ ps, ∃ m ∈ accepted ops, p = m.normal) :
    ps.map Metric.normal = ps ∧ ∃ rows ⊆ t.metrics, rows.mapM MetricRow.toMetric = .ok ps ∧
      t.step (.store ps) = (.done, { t with metrics := rows.reverse ++ t.metrics }) := by
  have hnormal : ∀ p ∈ ps, p.normal = p := fun p hp => by
    obtain ⟨m, -, rfl⟩ := hps p hp
    exact m.normal_normal
  have hnumber : ∀ p ∈ ps, p.value.isNaN = false := fun p hp => by
    obtain ⟨m, hm, rfl⟩ := hps p hp
    rw [m.isNaN_normal, isNaN_of_mem_accepted hm]
  refine ⟨(List.map_congr_left hnormal).trans (List.map_id _), ps.map fun p => .ofMetric p.normal, fun r hr => ?_, ?_,
    step_store_of_ok hnumber⟩
  · obtain ⟨p, hp, rfl⟩ := List.mem_map.mp hr
    obtain ⟨m, hm, rfl⟩ := hps p hp
    rw [m.normal_normal, h.metrics]
    exact List.mem_reverse.mpr (List.mem_map_of_mem hm)
  · refine mapM_map_eq_ok fun p hp => ?_
    rw [MetricRow.toMetric_ofMetric_normal, hnormal p hp]

theorem writesBack (h : Holds ops t) : WritesBack t where
  endpoints e he := by
    rw [h.activeEndpoints] at he
    obtain ⟨e, hbrought, rfl⟩ := List.mem_map.mp he
    exact ⟨e.normal_normal, (h.upsertEndpoint (List.mem_filter.mp hbrought).1).answers⟩
  results id limit r hr := by
    obtain ⟨r, hsaved, rfl⟩ := h.mem_latestResults hr
    exact ⟨r.normal_normal, .ofResult r, h.ofResult_mem hsaved, ResultRow.toResult_eq_normal r,
      (alike_operation_normal t (.saveResult r)).answers⟩
  metrics name start stop ps hps := by
    refine h.store_normal fun p hp => ?_
    rcases hps with hps | hps
    · obtain ⟨got, hgot, hnewest⟩ := h.retrieve start stop
      cases hgot.symm.trans hps
      obtain ⟨m, hm, rfl⟩ := List.mem_map.mp (hnewest.perm.mem_iff.mp hp)
      exact ⟨m, (List.mem_filter.mp hm).1, rfl⟩
    · obtain ⟨got, hgot, hnewest⟩ := h.retrieveByName name start stop
      cases hgot.symm.trans hps
      obtain ⟨m, hm, rfl⟩ := List.mem_map.mp (hnewest.perm.mem_iff.mp hp)
      exact ⟨m, (List.mem_filter.mp (List.mem_filter.mp hm).1).1, rfl⟩

end Holds

end Table

/-! ### Normal forms -/

/-- That the table keeps the normal forms of the records that some operations bring, and nothing else of them. -/
structure KeepsNormalForms (ops : List Operation) : Prop where
  /-- Whatever the table holds, nobody can tell normal forms of records and of bounds of time from these themselves. -/
  brought : ∀ t, answers Table.step t (ops.map Operation.normal) = answers Table.step t ops
  read : ReadsBack ops (Table.after ops)
  written : WritesBack (Table.after ops)
  /-- Outside leap seconds the normal form of an instant is the last whole millisecond up to it. -/
  times : ∀ i : Instant, i.IsRegular → i.floorMillis.second = i.second ∧
    i.floorMillis.nano = i.nano / 1_000_000 * 1_000_000

/-- Of every sequence of operations the table keeps normal forms. -/
theorem keepsNormalForms (ops : List Operation) : KeepsNormalForms ops :=
  ⟨fun t => t.answers_map_normal ops, (Table.holds_after ops).readsBack, (Table.holds_after ops).writesBack,
    fun _ h => h.floorMillis_eq⟩

end EndpointWatch.Storage
