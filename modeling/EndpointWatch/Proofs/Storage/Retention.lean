import EndpointWatch.Proofs.Storage.Streams
import Mathlib.Data.List.DropRight

/-!
# What the store in memory keeps

Of the results of each endpoint, of the entries of each stream and of all points the store in memory keeps those that
came last, as many as fit and in the order in which they came (`Memory.KeepsNewest`). What it is asked about one endpoint
or one stream leaves what it keeps of the others as it is, and its answers show what it keeps (`retains_of_run`).
-/

namespace EndpointWatch

/-! ### Windows -/

namespace Window

variable {cap : Nat} {α : Type} {w : Window cap α} {as : List α}

/-- Of the items `as`, pushed in this order, the window keeps those that were pushed last. -/
def Holds (as : List α) (w : Window cap α) : Prop := w.oldestFirst = as.rtake cap

theorem holds_iff : w.Holds as ↔ w.newestFirst = as.reverse.take cap := by
  rw [Holds, oldestFirst, List.rtake_eq_reverse_take_reverse, List.reverse_inj]

theorem holds_empty : (empty : Window cap α).Holds [] := by
  rw [holds_iff, newestFirst_empty, List.reverse_nil, List.take_nil]

theorem Holds.push (h : w.Holds as) (a : α) : (w.push a).Holds (as ++ [a]) :=
  holds_iff.mpr (newestFirst_push_of_eq (holds_iff.mp h) a)

theorem Holds.pushAll (h : w.Holds as) (bs : List α) : (w.pushAll bs).Holds (as ++ bs) := by
  induction bs generalizing w as with
  | nil => rwa [List.append_nil]
  | cons b bs ih =>
    rw [← List.singleton_append, ← List.append_assoc]
    exact ih (h.push b)

/-- A batch that is larger than the window leaves its own end. -/
example : ((empty : Window 2 Nat).push 0 |>.pushAll [1, 2, 3, 4, 5]).oldestFirst = [4, 5] := by decide

end Window

namespace Storage

namespace Memory

/-- The results that are kept of an endpoint, oldest first. -/
def resultsOf (id : Int64) (m : Memory) : List CheckResult := ((m.results.get? id).getD .empty).oldestFirst

/-- The entries that are kept of a stream, oldest first. -/
def entriesOf (stream : String) (m : Memory) : List StreamEntry := ((m.streams.get? stream).getD .empty).oldestFirst

/-- The points that are kept, oldest first. -/
def points (m : Memory) : List Metric := m.metrics.oldestFirst

/-- The store in memory, empty at first, after some operations. -/
def after (ops : List Operation) : Memory := ops.foldl (fun m op => (m.step op).2) .empty

/-- After some operations the store keeps the newest of all that they brought. The entries are numbered from 1 on, in the
order in which they were appended to any stream. -/
structure KeepsNewest (ops : List Operation) (m : Memory) : Prop where
  results : ∀ id, m.resultsOf id = ((saved ops).filter (·.endpointId = id)).rtake resultsPerEndpoint
  entries : ∀ s, m.entriesOf s = ((numbered (appended ops)).filter (·.stream = s)).rtake entriesPerStream
  points : m.points = (stored ops).rtake metricPoints
  lastId : m.lastId = .ofNat (appended ops).length

/-! ### One operation -/

variable {m : Memory} {ops : List Operation} {op : Operation}

theorem resultsOf_saveResult_of_ne {r : CheckResult} {id : Int64} (h : r.endpointId ≠ id) :
    (m.saveResult r).resultsOf id = m.resultsOf id := by
  rw [resultsOf, saveResult, Dict.get?_insert_of_ne h.symm, ← resultsOf]

theorem entriesOf_append_of_ne {s s' : String} (d : Dict String String) (h : s ≠ s') :
    (m.append s d).entriesOf s' = m.entriesOf s' := by
  rw [entriesOf, append, Dict.get?_insert_of_ne h.symm, ← entriesOf]

/-- What is kept of an endpoint changes only when a result of this endpoint is saved. -/
theorem resultsOf_step_of_ne {id : Int64} (h : ∀ r, op.result? = some r → r.endpointId ≠ id) :
    (m.step op).2.resultsOf id = m.resultsOf id := by
  cases op with
  | saveResult r => exact resultsOf_saveResult_of_ne (h r rfl)
  | _ => rfl

/-- What is kept of a stream changes only when an entry is appended to this stream. -/
theorem entriesOf_step_of_ne {s : String} (h : ∀ e, op.entry? = some e → e.1 ≠ s) :
    (m.step op).2.entriesOf s = m.entriesOf s := by
  cases op with
  | append s' d => exact entriesOf_append_of_ne d (h (s', d) rfl)
  | _ => rfl

theorem points_step_of_eq_nil (h : op.points = []) : (m.step op).2.points = m.points := by
  cases op with
  | store ms =>
    cases h
    rfl
  | _ => rfl

theorem resultsOf_saveResult {rs : List CheckResult} (r : CheckResult)
    (h : m.resultsOf r.endpointId = rs.rtake resultsPerEndpoint) :
    (m.saveResult r).resultsOf r.endpointId = (rs ++ [r]).rtake resultsPerEndpoint := by
  have hw : ((m.results.get? r.endpointId).getD .empty).Holds rs := h
  rw [resultsOf, saveResult, Dict.get?_insert_self]
  exact hw.push r

namespace KeepsNewest

theorem start : KeepsNewest [] .empty where
  results _ := Window.holds_empty
  entries _ := Window.holds_empty
  points := Window.holds_empty
  lastId := rfl

/-- The entries and their numbers, as readers of streams need them. -/
theorem streams (h : KeepsNewest ops m) : m.KeepsStreams (appended ops) where
  windows s := Window.holds_iff.mp (h.entries s)
  lastId := h.lastId

theorem results_step (h : KeepsNewest ops m) (op : Operation) (id : Int64) :
    (m.step op).2.resultsOf id = ((saved (ops ++ [op])).filter (·.endpointId = id)).rtake resultsPerEndpoint := by
  rw [saved_concat, List.filter_append]
  by_cases hop : ∀ r, op.result? = some r → r.endpointId ≠ id
  · have hnone : op.result?.toList.filter (·.endpointId = id) = [] := by
      refine List.filter_eq_nil_iff.mpr fun r hr hid => ?_
      exact hop r (Option.mem_toList.mp hr) (of_decide_eq_true hid)
    rw [resultsOf_step_of_ne hop, hnone, List.append_nil]
    exact h.results id
  · obtain ⟨r, hr, rfl⟩ : ∃ r, op.result? = some r ∧ r.endpointId = id := by simpa using hop
    cases op <;> cases hr
    have hnew : [r].filter (·.endpointId = r.endpointId) = [r] := List.filter_cons_of_pos (decide_eq_true rfl)
    rw [Operation.result?, Option.toList_some, hnew]
    exact resultsOf_saveResult r (h.results r.endpointId)

theorem points_step (h : KeepsNewest ops m) (op : Operation) :
    (m.step op).2.points = (stored (ops ++ [op])).rtake metricPoints := by
  have hw : m.metrics.Holds (stored ops) := h.points
  rw [stored_concat]
  cases op with
  | store ms => exact hw.pushAll ms
  | _ => exact (List.append_nil (stored ops)).symm ▸ hw

theorem step (h : KeepsNewest ops m) (op : Operation) : KeepsNewest (ops ++ [op]) (m.step op).2 := by
  have hs := h.streams.step op
  rw [← appended_concat] at hs
  exact ⟨h.results_step op, fun s => Window.holds_iff.mpr (hs.windows s), h.points_step op, hs.lastId⟩

theorem of_run (ops : List Operation) : KeepsNewest ops (after ops) := by
  induction ops using List.reverseRecOn with
  | nil => exact .start
  | append_singleton ops op ih =>
    rw [after, List.foldl_concat]
    exact ih.step op

/-! ### Answers -/

theorem answer_append (h : KeepsNewest ops m) (s : String) (d : Dict String String)
    (hlt : (appended ops).length + 1 < 2 ^ 64) :
    (m.step (.append s d)).1 = .number ((appended ops).length + 1) := by
  show Answer.number (m.lastId + 1).toNat = _
  rw [h.streams.lastId_succ, UInt64.toNat_ofNat_of_lt' hlt]

theorem answer_latestResults (h : KeepsNewest ops m) (id : Int64) (limit : UInt64) :
    (m.step (.latestResults id limit)).1 = .results
      (((saved ops).filter (·.endpointId = id)).rtake (min limit.toNat resultsPerEndpoint)).reverse := by
  have hw : ((m.results.get? id).getD .empty).Holds ((saved ops).filter (·.endpointId = id)) := h.results id
  show Answer.results ((Window.newestFirst _).take limit.toNat) = _
  rw [Window.holds_iff.mp hw, List.take_take, List.rtake_eq_reverse_take_reverse, List.reverse_reverse]

end KeepsNewest

/-- The points `ps` are those of `kept`, later ones first, and points of the same time as they stand in `kept`. -/
structure LatestFirst (kept ps : List Metric) : Prop where
  perm : ps.Perm kept
  ordered : ps.Pairwise fun a b => b.time.le a.time
  stable : ∀ t, ps.filter (·.time = t) = kept.filter (·.time = t)

theorem LatestFirst.of_sorted (kept : List Metric) : LatestFirst kept (latestFirst kept) :=
  ⟨List.mergeSort_perm .., pairwise_latestFirst kept, filter_mergeSort_time Metric.time kept⟩

/-! ### Runs -/

/-- That a store has kept what some operations brought to it, and tells so. -/
structure Retains (ops : List Operation) (m : Memory) : Prop where
  kept : KeepsNewest ops m
  /-- An operation that saves no result of an endpoint leaves what is kept of the endpoint. -/
  otherEndpoints : ∀ op id, (∀ r, op.result? = some r → r.endpointId ≠ id) →
    (m.step op).2.resultsOf id = m.resultsOf id
  /-- An operation that appends nothing to a stream leaves what is kept of the stream. -/
  otherStreams : ∀ op s, (∀ e, op.entry? = some e → e.1 ≠ s) → (m.step op).2.entriesOf s = m.entriesOf s
  otherPoints : ∀ op, op.points = [] → (m.step op).2.points = m.points
  /-- The next entry of any stream has the next number. -/
  numbers : ∀ s d, (appended ops).length + 1 < 2 ^ 64 →
    (m.step (.append s d)).1 = .number ((appended ops).length + 1)
  latest : ∀ id limit, (m.step (.latestResults id limit)).1 = .results
    (((saved ops).filter (·.endpointId = id)).rtake (min limit.toNat resultsPerEndpoint)).reverse
  retrieved : ∀ start stop, ∃ ps, (m.step (.retrieve start stop)).1 = .metrics ps ∧
    LatestFirst (m.points.filter fun p => start.le p.time && p.time.le stop) ps

/-- After every sequence of operations the store in memory has kept exactly the newest of what they brought, and its
answers show it. -/
theorem retains_of_run (ops : List Operation) : Retains ops (after ops) := by
  have h : KeepsNewest ops (after ops) := .of_run ops
  exact ⟨h, fun _ _ hop => resultsOf_step_of_ne hop, fun _ _ hop => entriesOf_step_of_ne hop,
    fun _ hop => points_step_of_eq_nil hop, fun s d hlt => h.answer_append s d hlt,
    fun id limit => h.answer_latestResults id limit, fun start stop => ⟨_, rfl, LatestFirst.of_sorted _⟩⟩

end Memory

end Storage

end EndpointWatch
