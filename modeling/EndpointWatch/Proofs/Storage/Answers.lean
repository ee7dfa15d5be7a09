import EndpointWatch.Proofs.Storage.Mirror
import EndpointWatch.Proofs.Storage.Recency

/-!
# Answers of two stores with the same contents

One lemma for each query: after comparable operations the table answers it as the store in memory does. Points with
the same time may come in another order.
-/

namespace EndpointWatch.Storage

/-- What comes back from the rows of some records is those whose rows are asked for. -/
theorem map_filter_map {α β : Type} {f : α → β} {g : β → α} {p : β → Bool} {q : α → Bool} {as : List α}
    (hg : ∀ a ∈ as, g (f a) = a) (hp : ∀ a ∈ as, p (f a) = q a) : ((as.map f).filter p).map g = as.filter q := by
  have hfilter : as.filter (p ∘ f) = as.filter q := List.filter_congr hp
  rw [List.filter_map, List.map_map, hfilter]
  exact (List.map_congr_left fun a ha => hg a (List.mem_filter.mp ha).1).trans (List.map_id _)

theorem limited_eq_take {α : Type} {rows : List α} (h : rows.length < 2 ^ 63) (limit : UInt64) :
    Table.limited limit rows = rows.take limit.toNat := by
  rw [Table.limited]
  split
  · next hneg =>
    refine (List.take_of_length_le ?_).symm
    by_cases hlt : limit.toNat < 2 ^ 63
    · rw [Int64.lt_iff_toInt_lt, toInt_toInt64 hlt] at hneg
      exact absurd hneg (Int.not_lt.mpr (Int.natCast_nonneg _))
    · omega
  · rfl

theorem Table.map_limited {α β : Type} (f : α → β) (limit : UInt64) (as : List α) :
    (limited limit as).map f = limited limit (as.map f) := by
  unfold limited
  split
  · rfl
  · exact List.map_take

/-! ### Alerts -/

theorem Table.alertsFor_of_rows {as : Dict Int64 Alert} {t : Table} (h : t.alerts = as.mapValues .ofAlert) (id : Int64) :
    t.alertsFor id = as.values.filter fun a => a.endpointId = id && a.isActive := by
  rw [alertsFor, h, Dict.values_mapValues]
  refine map_filter_map (fun a _ => AlertRow.toAlert_ofAlert a) fun a _ => ?_
  exact congrArg (decide (a.endpointId = id) && ·) (decide_flag a.isActive)

/-! ### Entries behind a number -/

/-- The entries of a stream behind a number. -/
def behind (es : List StreamEntry) (stream : String) (after : UInt64) : List StreamEntry :=
  (es.filter (·.stream = stream)).filter (after < ·.id)

/-- The table compares numbers as signed ones. -/
theorem Table.readAfter_eq_limited {ts : List (String × Dict String String)} {t : Table}
    (h : t.entries = ((numbered ts).map .ofEntry).reverse) (stream : String) (after limit : UInt64) :
    t.readAfter stream after limit = .ok (limited limit (((numbered ts).filter (·.stream = stream)).filter
      (after.toInt64 < ·.id.toInt64))) := by
  let es := ((numbered ts).filter (·.stream = stream)).filter (after.toInt64 < ·.id.toInt64)
  have hrows : t.entries.reverse.filter (fun r => r.stream = stream && after.toInt64 < r.id.toInt64) = es.map .ofEntry := by
    rw [h, List.reverse_reverse, List.filter_map]
    refine congrArg _ (Eq.trans ?_ List.filter_filter.symm)
    exact List.filter_congr fun e _ => Bool.and_comm ..
  show (limited limit (t.entries.reverse.filter _)).mapM _ = _
  rw [hrows, ← map_limited, mapM_map_eq_ok fun e _ => EntryRow.toEntry_ofEntry e]

theorem Table.readAfter_of_rows {ts : List (String × Dict String String)} {t : Table}
    (h : t.entries = ((numbered ts).map .ofEntry).reverse) (hlt : ts.length < 2 ^ 63) (stream : String)
    (after limit : UInt64) :
    t.readAfter stream after limit = .ok ((((numbered ts).filter (·.stream = stream)).filter
      (after.toInt64 < ·.id.toInt64)).take limit.toNat) := by
  have hlen : (((numbered ts).filter (·.stream = stream)).filter (after.toInt64 < ·.id.toInt64)).length < 2 ^ 63 :=
    Nat.lt_of_le_of_lt (List.filter_sublist.trans List.filter_sublist).length_le (length_numbered ▸ hlt)
  rw [readAfter_eq_limited h, limited_eq_take hlen]

theorem Table.readAfter_of_entries {ts : List (String × Dict String String)} {t : Table}
    (h : t.entries = ((numbered ts).map .ofEntry).reverse) (hlt : ts.length < 2 ^ 63) (stream : String)
    {after : UInt64} (ha : after.toNat < 2 ^ 63) (limit : UInt64) :
    t.readAfter stream after limit = .ok ((behind (numbered ts) stream after).take limit.toNat) := by
  have hbehind : ((numbered ts).filter (·.stream = stream)).filter (after.toInt64 < ·.id.toInt64) =
      behind (numbered ts) stream after := by
    refine List.filter_congr fun e he => ?_
    exact decide_eq_decide.mpr (toInt64_lt_iff ha (id_lt_of_mem_numbered hlt (List.mem_filter.mp he).1))
  rw [readAfter_of_rows h hlt, hbehind]

/-! ### Points in order -/

/-- Points with the latest times first. -/
def latestFirst (ps : List Metric) : List Metric := ps.mergeSort fun a b => b.time.le a.time

/-- The points that were stored, in a range of time. -/
def between (ops : List Operation) (start stop : Instant) : List Metric :=
  (stored ops).filter fun p => start.le p.time && p.time.le stop

/-- The same points, in an order in which only those of the same time may differ. -/
def SamePoints (ps qs : List Metric) : Prop := ps.Perm qs ∧ ps.map Metric.time = qs.map Metric.time

theorem pairwise_latestFirst (ps : List Metric) : (latestFirst ps).Pairwise fun a b => b.time.le a.time :=
  pairwise_mergeSort_time Metric.time ps

/-- Sorting before or after points are picked gives the same ones. -/
theorem samePoints_filter (ps : List Metric) (q : Metric → Bool) :
    SamePoints ((latestFirst ps).filter q) (latestFirst (ps.reverse.filter q)) := by
  have hperm : ((latestFirst ps).filter q).Perm (latestFirst (ps.reverse.filter q)) :=
    ((List.mergeSort_perm ..).trans (List.reverse_perm ps).symm |>.filter q).trans (List.mergeSort_perm ..).symm
  have hsorted : (((latestFirst ps).filter q).map Metric.time).Pairwise fun i j => j.le i :=
    List.pairwise_map.mpr ((pairwise_latestFirst ps).filter q)
  have hsorted' : ((latestFirst (ps.reverse.filter q)).map Metric.time).Pairwise fun i j => j.le i :=
    List.pairwise_map.mpr (pairwise_latestFirst _)
  exact ⟨hperm, (hperm.map _).eq_of_pairwise (fun _ _ _ _ hij hji => Instant.le_antisymm hji hij) hsorted hsorted'⟩

theorem samePoints (ps : List Metric) : SamePoints (latestFirst ps) (latestFirst ps.reverse) := by
  have := samePoints_filter ps fun _ => true
  rwa [List.filter_eq_self.mpr fun _ _ => rfl, List.filter_eq_self.mpr fun _ _ => rfl] at this

namespace Mirrors

variable {ops : List Operation} {rs : List CheckResult} {ts : List (String × Dict String String)} {ps : List Metric}
  {m : Memory} {t : Table}

/-! ### Endpoints and alerts -/

theorem activeEndpoints_eq (h : Mirrors rs ts ps m t) : t.activeEndpoints = m.activeEndpoints := by
  rw [Table.activeEndpoints, h.endpoints, Dict.values_mapValues]
  refine map_filter_map (fun e he => EndpointRow.toEndpoint_ofEndpoint (h.timeout_lt e he)) fun e _ => ?_
  exact decide_flag e.isActive

theorem alertsFor_eq (h : Mirrors rs ts ps m t) (id : Int64) : t.alertsFor id = m.alertsFor id :=
  Table.alertsFor_of_rows h.alerts id

theorem endpointCounts_eq (h : Mirrors rs ts ps m t) : t.endpointCounts = m.endpointCounts := by
  have hsize : t.endpoints.size = m.endpoints.size := by
    rw [h.endpoints]
    exact List.length_map _
  rw [Table.endpointCounts, hsize, h.endpoints, Dict.values_mapValues, List.countP_map, Memory.endpointCounts]
  refine congrArg _ (List.countP_congr fun e _ => ?_)
  exact Bool.eq_iff_iff.mp (decide_flag e.isActive)

theorem alertCount_eq (h : Mirrors rs ts ps m t) : t.alertCount = m.alertCount := by
  rw [Table.alertCount, h.alerts, Dict.values_mapValues, List.countP_map]
  refine List.countP_congr fun a _ => ?_
  exact Bool.eq_iff_iff.mp (decide_flag a.isActive)

/-! ### Results -/

theorem latestResults_eq (h : Keep ops m t) (hc : Comparable ops) (id : Int64) (limit : UInt64) :
    t.latestResults id limit = m.latestResults id limit.toNat := by
  let rs := ((saved ops).filter (·.endpointId = id)).reverse
  have hrows : t.results.filter (fun r => r.endpointId = id) = rs.map .ofResult := by
    rw [h.resultRows, List.filter_reverse, List.filter_map, List.map_reverse]
    rfl
  -- the newest rows stand first already, so that sorting leaves them where they are
  have hsorted : (rs.map ResultRow.ofResult).Pairwise fun a b => decide (b.checkedAt ≤ a.checkedAt) = true := by
    rw [List.pairwise_map, List.pairwise_reverse]
    refine (hc.ordered.filter (·.endpointId = id)).imp_of_mem fun {a b} ha hb hab => ?_
    obtain ⟨ha, hai⟩ := List.mem_filter.mp ha
    obtain ⟨hb, hbi⟩ := List.mem_filter.mp hb
    have hle := hab ((of_decide_eq_true hai).trans (of_decide_eq_true hbi).symm)
    exact decide_eq_true ((Instant.le_iff_toMillis (hc.result_exact ha).2 (hc.result_exact hb).2.regular).mp hle)
  have hlen : (rs.map ResultRow.ofResult).length < 2 ^ 63 := by
    have := hc.results_le id
    rw [List.length_map, List.length_reverse]
    exact Nat.lt_of_le_of_lt this (by decide)
  have hkept : ((m.results.get? id).getD .empty).newestFirst = rs := by
    rw [← List.reverse_reverse (Window.newestFirst _)]
    exact congrArg _ (h.results id)
  show (Table.limited limit ((t.results.filter _).mergeSort _)).map _ = (Window.newestFirst _).take _
  rw [hrows, List.mergeSort_of_pairwise hsorted, limited_eq_take hlen, hkept, ← List.map_take, List.map_map]
  refine (List.map_congr_left fun r hr => ?_).trans (List.map_id _)
  have hr : r ∈ saved ops := (List.mem_filter.mp (List.mem_reverse.mp (List.mem_of_mem_take hr))).1
  exact ResultRow.toResult_ofResult (hc.result_exact hr).1 (hc.result_exact hr).2

theorem resultStats_eq (h : Keep ops m t) (hc : Comparable ops) {since : Instant} (hs : since.IsRegular) :
    m.resultStats? since = some (t.resultStats since) := by
  let rs := (saved ops).filter fun r => since.lt r.checkedAt
  have hmem {r : CheckResult} (hr : r ∈ rs) : r ∈ saved ops := (List.mem_filter.mp hr).1
  have hrows : t.results.filter (fun r => since.toMillis < r.checkedAt) = (rs.map .ofResult).reverse := by
    rw [h.resultRows, List.filter_reverse, List.filter_map]
    refine congrArg (fun rs => (List.map ResultRow.ofResult rs).reverse) (List.filter_congr fun r hr => ?_)
    exact Bool.eq_iff_iff.mpr (decide_eq_true_iff.trans (Instant.lt_iff_toMillis hs (hc.result_exact hr).2).symm)
  have hcount : Countable rs.reverse :=
    (Countable.mk (fun r hr => (hc.result_exact hr).1) hc.sum_lt).filter_reverse _
  have hkept : m.resultStats? since = ResultStats.ofResults? rs.reverse :=
    ResultStats.ofResults?_perm ((h.allResults.filter _).trans (List.reverse_perm rs).symm)
  rw [hkept, Table.resultStats, hrows, ← List.map_reverse]
  exact rowStats_eq hcount

/-! ### Streams -/

theorem readAfter_eq (h : Keep ops m t) (hc : Comparable ops) (stream : String) {after : UInt64}
    (ha : after.toNat < 2 ^ 63) (limit : UInt64) :
    t.readAfter stream after limit = .ok (m.readAfter stream after limit.toNat) := by
  rw [Table.readAfter_of_entries h.entryRows hc.numbers_lt stream ha, Memory.readAfter, h.entries]
  rfl

/-! ### Metrics -/

theorem memory_retrieve (h : Keep ops m t) (start stop : Instant) :
    m.retrieve start stop = latestFirst (between ops start stop) := by
  rw [Memory.retrieve, h.metrics]
  rfl

theorem exact_of_mem_between (hc : Comparable ops) {start stop : Instant} {p : Metric}
    (hp : p ∈ between ops start stop) : Double.IsPlain p.value ∧ p.time.IsWhole :=
  hc.point_exact (List.mem_filter.mp hp).1

theorem metricsBetween_eq (h : Keep ops m t) (hc : Comparable ops) {start stop : Instant} (hs : start.IsWhole)
    (he : stop.IsRegular) : t.metricsBetween start stop = (between ops start stop).reverse.map .ofMetric := by
  rw [Table.metricsBetween, h.metricRows, List.filter_reverse, List.filter_map, List.map_reverse]
  refine congrArg (fun ps => (List.map MetricRow.ofMetric ps).reverse) (List.filter_congr fun p hp => ?_)
  have hw := (hc.point_exact hp).2
  have hstart : start.le p.time = decide (start.toMillis ≤ p.time.toMillis) :=
    Bool.eq_iff_iff.mpr ((Instant.le_iff_toMillis hs hw.regular).trans decide_eq_true_iff.symm)
  have hstop : p.time.le stop = decide (p.time.toMillis ≤ stop.toMillis) :=
    Bool.eq_iff_iff.mpr ((Instant.le_iff_toMillis hw he).trans decide_eq_true_iff.symm)
  rw [hstart, hstop]
  rfl

theorem latestFirst_ofMetric {ps : List Metric} (hw : ∀ p ∈ ps, p.time.IsWhole) :
    Table.latestFirst (ps.map .ofMetric) = (latestFirst ps).map .ofMetric := by
  refine (List.map_mergeSort fun a ha b hb => ?_).symm
  exact Bool.eq_iff_iff.mpr ((Instant.le_iff_toMillis (hw b hb) (hw a ha).regular).trans decide_eq_true_iff.symm)

theorem mapM_latestFirst {ps : List Metric} (hw : ∀ p ∈ ps, p.time.IsWhole) :
    (Table.latestFirst (ps.map .ofMetric)).mapM MetricRow.toMetric = .ok (latestFirst ps) := by
  rw [latestFirst_ofMetric hw]
  exact mapM_map_eq_ok fun p hp => MetricRow.toMetric_ofMetric (hw p (List.mem_mergeSort.mp hp))

variable {start stop : Instant}

theorem table_retrieve (h : Keep ops m t) (hc : Comparable ops) (hs : start.IsWhole) (he : stop.IsRegular) :
    t.retrieve start stop = .ok (latestFirst (between ops start stop).reverse) := by
  rw [Table.retrieve, h.metricsBetween_eq hc hs he]
  exact mapM_latestFirst fun p hp => (exact_of_mem_between hc (List.mem_reverse.mp hp)).2

theorem filter_metricsBetween (h : Keep ops m t) (hc : Comparable ops) (name : String) (hs : start.IsWhole)
    (he : stop.IsRegular) : (t.metricsBetween start stop).filter (fun r => r.name = name) =
      ((between ops start stop).reverse.filter fun p => p.name = name).map .ofMetric := by
  rw [h.metricsBetween_eq hc hs he, List.filter_map]
  rfl

theorem table_retrieveByName (h : Keep ops m t) (hc : Comparable ops) (name : String) (hs : start.IsWhole)
    (he : stop.IsRegular) : t.retrieveByName name start stop =
      .ok (latestFirst ((between ops start stop).reverse.filter fun p => p.name = name)) := by
  rw [Table.retrieveByName, h.filter_metricsBetween hc name hs he]
  exact mapM_latestFirst fun p hp => (exact_of_mem_between hc (List.mem_reverse.mp (List.mem_filter.mp hp).1)).2

theorem memory_retrieveByName (h : Keep ops m t) (name : String) (start stop : Instant) :
    m.retrieveByName name start stop = (latestFirst (between ops start stop)).filter fun p => p.name = name := by
  rw [Memory.retrieveByName, h.memory_retrieve]

/-- Both stores aggregate the same values, in some order. -/
theorem aggregate_agrees (h : Keep ops m t) (hc : Comparable ops) (name : String) (hs : start.IsWhole)
    (he : stop.IsRegular) :
    (m.aggregate name start stop).count = (t.aggregate name start stop).count ∧
      (m.aggregate name start stop).minimum? = (t.aggregate name start stop).minimum? ∧
      (m.aggregate name start stop).maximum? = (t.aggregate name start stop).maximum? := by
  let qs := (between ops start stop).reverse.filter fun p => p.name = name
  have hw : ∀ p ∈ qs, p.time.IsWhole := fun p hp =>
    (exact_of_mem_between hc (List.mem_reverse.mp (List.mem_filter.mp hp).1)).2
  have hrows : t.aggregate name start stop = .ofValues name ((latestFirst qs).reverse.map Metric.value) := by
    rw [Table.aggregate, h.filter_metricsBetween hc name hs he, latestFirst_ofMetric hw, ← List.map_reverse,
      List.map_map]
    rfl
  have hkept : m.aggregate name start stop =
      .ofValues name (((latestFirst (between ops start stop)).filter fun p => p.name = name).map Metric.value) := by
    rw [Memory.aggregate, h.memory_retrieveByName]
  rw [hrows, hkept]
  have hperm := (samePoints_filter (between ops start stop) fun p => p.name = name).1.trans
    (List.reverse_perm (latestFirst qs)).symm
  refine Aggregate.ofValues_perm (hperm.map _) (fun x hx => ?_) name
  obtain ⟨p, hp, rfl⟩ := List.mem_map.mp hx
  exact (exact_of_mem_between hc (List.mem_mergeSort.mp (List.mem_filter.mp hp).1)).1

end Mirrors

end EndpointWatch.Storage
