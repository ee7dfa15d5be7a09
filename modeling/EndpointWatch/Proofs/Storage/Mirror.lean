import EndpointWatch.Proofs.Storage.History
import EndpointWatch.Proofs.Storage.Rows
import EndpointWatch.Proofs.Storage.Transaction

/-!
# Two stores with the same contents

The store in memory holds what it was asked to keep, as long as it has room, and the table holds a row for each of it
(`Mirrors`). One lemma for each operation that changes the stores says that it keeps this.
-/

namespace EndpointWatch

/-! ### Windows with room left -/

namespace Window

variable {cap : Nat} {α : Type} {w : Window cap α}

theorem oldestFirst_push (a : α) (h : w.oldestFirst.length < cap) : (w.push a).oldestFirst = w.oldestFirst ++ [a] := by
  have hlen : (a :: w.newestFirst).length ≤ cap := by
    rw [List.length_cons, ← List.length_reverse]
    exact h
  rw [oldestFirst, newestFirst_push, List.take_of_length_le hlen, List.reverse_cons, oldestFirst]

theorem oldestFirst_pushAll (as : List α) (h : w.oldestFirst.length + as.length ≤ cap) :
    (w.pushAll as).oldestFirst = w.oldestFirst ++ as := by
  induction as generalizing w with
  | nil => exact (List.append_nil _).symm
  | cons a as ih =>
    rw [List.length_cons] at h
    have ha := oldestFirst_push (w := w) a (by omega)
    show ((w.push a).pushAll as).oldestFirst = _
    rw [ih, ha, List.append_assoc, List.singleton_append]
    rw [ha, List.length_append, List.length_singleton]
    omega

end Window

namespace Storage

/-- A table that holds the rows of numbered entries goes on with the next number. -/
theorem Table.nextId_eq_of_entries {ts : List (String × Dict String String)} {t : Table}
    (h : t.entries = ((numbered ts).map .ofEntry).reverse) : t.nextId = .ofNat (ts.length + 1) := by
  have hlast : t.entries.head?.elim 0 EntryRow.id = .ofNat ts.length := by
    rw [h, List.head?_reverse]
    rcases List.eq_nil_or_concat ts with rfl | ⟨ts, e, rfl⟩
    · rfl
    · simp [numbered_concat, EntryRow.ofEntry]
  rw [nextId, hlast, UInt64.ofNat_add]
  rfl

/-- Both stores hold the results `rs`, the entries `ts` and the points `ps`, each in the order in which they came, and
the same endpoints and alerts. -/
structure Mirrors (rs : List CheckResult) (ts : List (String × Dict String String)) (ps : List Metric) (m : Memory)
    (t : Table) : Prop where
  endpoints : t.endpoints = m.endpoints.mapValues .ofEndpoint
  timeout_lt : ∀ e ∈ m.endpoints.values, e.timeout.toNat < 2 ^ 63
  alerts : t.alerts = m.alerts.mapValues .ofAlert
  results : ∀ id, ((m.results.get? id).getD .empty).oldestFirst = rs.filter (·.endpointId = id)
  allResults : m.allResults.Perm rs
  resultRows : t.results = (rs.map .ofResult).reverse
  entries : ∀ s, ((m.streams.get? s).getD .empty).oldestFirst = (numbered ts).filter (·.stream = s)
  lastId : m.lastId = .ofNat ts.length
  entryRows : t.entries = ((numbered ts).map .ofEntry).reverse
  metrics : m.metrics.oldestFirst = ps
  metricRows : t.metrics = (ps.map .ofMetric).reverse

/-- Both stores hold what some operations brought. -/
abbrev Keep (ops : List Operation) (m : Memory) (t : Table) : Prop := Mirrors (saved ops) (appended ops) (stored ops) m t

namespace Mirrors

variable {rs : List CheckResult} {ts : List (String × Dict String String)} {ps : List Metric} {m : Memory} {t : Table}

theorem start : Mirrors [] [] [] .empty .empty where
  endpoints := rfl
  timeout_lt _ he := absurd he List.not_mem_nil
  alerts := rfl
  results _ := rfl
  allResults := .refl _
  resultRows := rfl
  entries _ := rfl
  lastId := rfl
  entryRows := rfl
  metrics := rfl
  metricRows := rfl

/-! ### Endpoints and alerts -/

theorem upsertEndpoint (h : Mirrors rs ts ps m t) {e : Endpoint} (he : e.timeout.toNat < 2 ^ 63) :
    Mirrors rs ts ps { m with endpoints := m.endpoints.insert e.id e }
      { t with endpoints := t.endpoints.insert e.id (.ofEndpoint e) } := by
  refine { h with endpoints := ?_, timeout_lt := fun e' he' => ?_ }
  · show t.endpoints.insert _ _ = (m.endpoints.insert _ _).mapValues _
    rw [h.endpoints, Dict.insert_mapValues]
  · rcases List.mem_cons.mp ((Dict.values_insert_perm ..).mem_iff.mp he') with rfl | hmem
    · exact he
    · obtain ⟨⟨k, v⟩, hk, rfl⟩ := List.mem_map.mp hmem
      exact h.timeout_lt v (List.mem_map.mpr ⟨(k, v), (List.mem_filter.mp hk).1, rfl⟩)

theorem upsertAlert (h : Mirrors rs ts ps m t) (a : Alert) :
    Mirrors rs ts ps { m with alerts := m.alerts.insert a.id a }
      { t with alerts := t.alerts.insert a.id (.ofAlert a) } := by
  refine { h with alerts := ?_ }
  show t.alerts.insert _ _ = (m.alerts.insert _ _).mapValues _
  rw [h.alerts, Dict.insert_mapValues]

/-! ### Results -/

/-- All results that are kept, after one more was put into the window of its endpoint. -/
theorem allResults_saveResult_perm {r : CheckResult}
    (hroom : ((m.results.get? r.endpointId).getD .empty).oldestFirst.length < resultsPerEndpoint) :
    (m.saveResult r).allResults.Perm (m.allResults ++ [r]) := by
  have hpush := Window.oldestFirst_push r hroom
  have hnew := (Dict.values_insert_perm m.results r.endpointId
    (((m.results.get? r.endpointId).getD .empty).push r)).flatMap_right Window.oldestFirst
  rw [List.flatMap_cons, hpush] at hnew
  have hold : m.allResults.Perm (((m.results.get? r.endpointId).getD .empty).oldestFirst ++
      (m.results.erase r.endpointId).values.flatMap Window.oldestFirst) := by
    rcases hw : m.results.get? r.endpointId with _ | w
    · rw [Dict.erase_of_get?_eq_none hw]
      exact .refl _
    · exact (Dict.values_perm_of_get? hw).flatMap_right _
  refine hnew.trans ((?_ : List.Perm _ _).trans (hold.append_right [r]).symm)
  rw [List.append_assoc, List.append_assoc]
  exact List.perm_append_comm.append_left _

theorem saveResult (h : Mirrors rs ts ps m t) {r : CheckResult}
    (hroom : (rs.filter (·.endpointId = r.endpointId)).length < resultsPerEndpoint) :
    Mirrors (rs ++ [r]) ts ps (m.saveResult r) (t.saveResult r) := by
  rw [← h.results] at hroom
  refine { h with results := fun id => ?_, allResults := ?_, resultRows := ?_ }
  · show (((m.results.insert _ _).get? id).getD .empty).oldestFirst = _
    rw [List.filter_append]
    by_cases hid : id = r.endpointId
    · subst hid
      rw [Dict.get?_insert_self, Option.getD_some, Window.oldestFirst_push _ hroom, h.results]
      simp
    · rw [Dict.get?_insert_of_ne hid, h.results]
      simp [Ne.symm hid]
  · exact (allResults_saveResult_perm hroom).trans (h.allResults.append_right [r])
  · rw [List.map_append, List.reverse_append]
    exact congrArg _ h.resultRows

/-! ### Streams -/

theorem nextId_eq (h : Mirrors rs ts ps m t) : t.nextId = m.lastId + 1 := by
  rw [Table.nextId_eq_of_entries h.entryRows, h.lastId, UInt64.ofNat_add]
  rfl

theorem append (h : Mirrors rs ts ps m t) {s : String} {d : Dict String String}
    (hroom : (ts.filter (·.1 = s)).length < entriesPerStream) :
    Mirrors rs (ts ++ [(s, d)]) ps (m.append s d) (t.append s d) := by
  have hid : m.lastId + 1 = .ofNat (ts.length + 1) := by
    rw [h.lastId, UInt64.ofNat_add]
    rfl
  have hnumbered : numbered (ts ++ [(s, d)]) = numbered ts ++ [⟨m.lastId + 1, s, d⟩] := by
    rw [numbered_concat, hid]
  rw [← length_filter_numbered, ← h.entries] at hroom
  refine { h with entries := fun s' => ?_, lastId := ?_, entryRows := ?_ }
  · show (((m.streams.insert _ _).get? s').getD .empty).oldestFirst = _
    rw [hnumbered, List.filter_append]
    by_cases hs : s' = s
    · subst hs
      rw [Dict.get?_insert_self, Option.getD_some, Window.oldestFirst_push _ hroom, h.entries]
      simp
    · rw [Dict.get?_insert_of_ne hs, h.entries]
      simp [Ne.symm hs]
  · show m.lastId + 1 = _
    rw [hid, List.length_append]
    rfl
  · show ⟨t.nextId, s, writeMap d⟩ :: t.entries = _
    rw [hnumbered, List.map_append, List.reverse_append, h.nextId_eq, h.entryRows]
    rfl

/-! ### Metrics -/

theorem store (h : Mirrors rs ts ps m t) {ms : List Metric} (hplain : ∀ p ∈ ms, Double.IsPlain p.value)
    (hroom : ps.length + ms.length ≤ metricPoints) :
    ∃ t', t.store ms = (none, t') ∧ Mirrors rs ts (ps ++ ms) (m.store ms) t' := by
  have hrows : ms.mapM Table.metricRow = .ok (ms.map .ofMetric) :=
    mapM_eq_ok fun p hp => Table.metricRow_eq_ok_iff.mpr (MetricRow.ofMetric?_eq (hplain p hp))
  refine ⟨{ t with metrics := (ms.map .ofMetric).reverse ++ t.metrics }, Table.store_of_ok hrows,
    { h with metrics := ?_, metricRows := ?_ }⟩
  · rw [← h.metrics]
    exact Window.oldestFirst_pushAll ms (h.metrics ▸ hroom)
  · rw [List.map_append, List.reverse_append]
    exact congrArg _ h.metricRows

end Mirrors

end Storage

end EndpointWatch
