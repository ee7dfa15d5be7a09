import EndpointWatch.Proofs.Instant
import EndpointWatch.Proofs.Stats.Double
import EndpointWatch.Storage.Memory

/-!
# What a store was asked to keep

A sequence of operations saves results, appends entries to streams and stores points, each in an order. A sequence is
`Comparable` if every store can keep all of it: its numbers and times are such that a table holds them exactly, and
there is room for it in memory. So is every beginning of it (`Comparable.of_append`).
-/

namespace EndpointWatch.Storage

namespace Operation

/-- The result that an operation saves. -/
def result? : Operation → Option CheckResult
  | .saveResult r => some r
  | _ => none

/-- The stream that an operation appends to, and the fields of the entry. -/
def entry? : Operation → Option (String × Dict String String)
  | .append stream fields => some (stream, fields)
  | _ => none

/-- The points that an operation stores. -/
def points : Operation → List Metric
  | .store ms => ms
  | _ => []

/-- Whether a table can keep what an operation brings and compare it as it is: unsigned numbers are below `2 ^ 63`,
values of metrics plain, and times whole milliseconds where they are kept or begin a range. No time lies in a leap
second. -/
def IsExact : Operation → Prop
  | .upsertEndpoint e => e.timeout.toNat < 2 ^ 63
  | .saveResult r => r.responseTime.toNat < 2 ^ 63 ∧ r.checkedAt.IsWhole
  | .readAfter _ after _ => after.toNat < 2 ^ 63
  | .store ms => ∀ m ∈ ms, Double.IsPlain m.value ∧ m.time.IsWhole
  | .resultStats since => since.IsRegular
  | .retrieve start stop | .retrieveByName _ start stop | .aggregate _ start stop => start.IsWhole ∧ stop.IsRegular
  | .upsertAlert _ | .activeEndpoints | .alertsFor _ | .latestResults .. | .endpointCounts | .alertCount
  | .append .. => True

instance : DecidablePred IsExact
  | .upsertEndpoint e => inferInstanceAs (Decidable (e.timeout.toNat < 2 ^ 63))
  | .saveResult r => inferInstanceAs (Decidable (r.responseTime.toNat < 2 ^ 63 ∧ r.checkedAt.IsWhole))
  | .readAfter _ after _ => inferInstanceAs (Decidable (after.toNat < 2 ^ 63))
  | .store ms => inferInstanceAs (Decidable (∀ m ∈ ms, Double.IsPlain m.value ∧ m.time.IsWhole))
  | .resultStats since => inferInstanceAs (Decidable since.IsRegular)
  | .retrieve start stop | .retrieveByName _ start stop | .aggregate _ start stop =>
    inferInstanceAs (Decidable (start.IsWhole ∧ stop.IsRegular))
  | .upsertAlert _ | .activeEndpoints | .alertsFor _ | .latestResults .. | .endpointCounts | .alertCount
  | .append .. => .isTrue trivial

end Operation

/-- The results that were saved, in order. -/
def saved (ops : List Operation) : List CheckResult := ops.filterMap Operation.result?

/-- What was appended to streams, in order. -/
def appended (ops : List Operation) : List (String × Dict String String) := ops.filterMap Operation.entry?

/-- The entries that were appended, numbered from 1 on over all streams. -/
def numbered (ts : List (String × Dict String String)) : List StreamEntry :=
  ts.mapIdx fun i e => ⟨.ofNat (i + 1), e.1, e.2⟩

/-- The points of metrics that were stored, in order. -/
def stored (ops : List Operation) : List Metric := ops.flatMap Operation.points

/-- Operations that every store can follow alike. -/
structure Comparable (ops : List Operation) : Prop where
  exact : ∀ op ∈ ops, op.IsExact
  /-- The results of each endpoint are saved in the order of their times. -/
  ordered : (saved ops).Pairwise fun a b => a.endpointId = b.endpointId → a.checkedAt.le b.checkedAt
  sum_lt : ((saved ops).map fun r => r.responseTime.toNat).sum < 2 ^ 63
  results_le : ∀ id, ((saved ops).filter (·.endpointId = id)).length ≤ resultsPerEndpoint
  entries_le : ∀ stream, ((appended ops).filter (·.1 = stream)).length ≤ entriesPerStream
  /-- A table numbers the entries of all streams from 1 to `2 ^ 63 - 1` and takes no entry beyond. -/
  numbers_lt : (appended ops).length < 2 ^ 63
  metrics_le : (stored ops).length ≤ metricPoints

variable {ops past later : List Operation} {op : Operation}

@[simp] theorem saved_append : saved (past ++ later) = saved past ++ saved later := List.filterMap_append

@[simp] theorem appended_append : appended (past ++ later) = appended past ++ appended later := List.filterMap_append

@[simp] theorem stored_append : stored (past ++ later) = stored past ++ stored later := List.flatMap_append

theorem saved_concat : saved (ops ++ [op]) = saved ops ++ op.result?.toList := by
  rw [saved_append]
  cases h : op.result? <;> simp [saved, h]

theorem appended_concat : appended (ops ++ [op]) = appended ops ++ op.entry?.toList := by
  rw [appended_append]
  cases h : op.entry? <;> simp [appended, h]

theorem stored_concat : stored (ops ++ [op]) = stored ops ++ op.points := by
  rw [stored_append]
  exact congrArg _ (List.append_nil _)

theorem Comparable.of_append (h : Comparable (past ++ later)) : Comparable past where
  exact op hop := h.exact op (List.mem_append_left _ hop)
  ordered := (List.pairwise_append.mp (saved_append ▸ h.ordered)).1
  sum_lt := by
    have := h.sum_lt
    rw [saved_append, List.map_append, List.sum_append] at this
    omega
  results_le id := by
    have := h.results_le id
    rw [saved_append, List.filter_append, List.length_append] at this
    omega
  entries_le stream := by
    have := h.entries_le stream
    rw [appended_append, List.filter_append, List.length_append] at this
    omega
  numbers_lt := by
    have := h.numbers_lt
    rw [appended_append, List.length_append] at this
    omega
  metrics_le := by
    have := h.metrics_le
    rw [stored_append, List.length_append] at this
    omega

theorem Comparable.result_exact (h : Comparable ops) {r : CheckResult} (hr : r ∈ saved ops) :
    r.responseTime.toNat < 2 ^ 63 ∧ r.checkedAt.IsWhole := by
  obtain ⟨op, hop, he⟩ := List.mem_filterMap.mp hr
  cases op <;> cases he
  exact h.exact _ hop

theorem Comparable.point_exact (h : Comparable ops) {p : Metric} (hp : p ∈ stored ops) :
    Double.IsPlain p.value ∧ p.time.IsWhole := by
  obtain ⟨op, hop, he⟩ := List.mem_flatMap.mp hp
  cases op <;> simp only [Operation.points, List.not_mem_nil] at he
  exact h.exact _ hop p he

/-! ### Numbered entries -/

variable {ts : List (String × Dict String String)}

theorem numbered_concat (e : String × Dict String String) :
    numbered (ts ++ [e]) = numbered ts ++ [⟨.ofNat (ts.length + 1), e.1, e.2⟩] :=
  List.mapIdx_concat

theorem length_numbered : (numbered ts).length = ts.length := List.length_mapIdx

/-- A stream has as many entries as were appended to it. -/
theorem length_filter_numbered (s : String) :
    ((numbered ts).filter (·.stream = s)).length = (ts.filter (·.1 = s)).length := by
  have hstreams : (numbered ts).map StreamEntry.stream = ts.map Prod.fst := by
    refine List.ext_getElem (by simp [numbered]) fun i _ _ => ?_
    simp [numbered]
  have := congrArg (fun l => (l.filter (· = s)).length) hstreams
  rwa [List.filter_map, List.filter_map, List.length_map, List.length_map] at this

theorem id_lt_of_mem_numbered (h : ts.length < 2 ^ 63) {e : StreamEntry} (he : e ∈ numbered ts) :
    e.id.toNat < 2 ^ 63 := by
  obtain ⟨i, hi, rfl⟩ := List.mem_mapIdx.mp he
  have hsize : UInt64.size = 2 ^ 64 := rfl
  show (UInt64.ofNat (i + 1)).toNat < 2 ^ 63
  rw [UInt64.toNat_ofNat_of_lt'] <;> omega

end EndpointWatch.Storage
