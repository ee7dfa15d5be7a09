import EndpointWatch.Proofs.Storage.Answers
import Mathlib.Data.List.Forall2

/-!
# The two stores agree

Started empty and asked the same, as long as the operations are comparable, the store in memory and the table give
answers that agree (`answers_agree`).
-/

namespace EndpointWatch.Storage

/-- Whether two answers are the same, apart from the order of points of the same time and from the mean and the
deviation of an aggregate, which depend on the order in which doubles are added. -/
def Answer.Agrees : Answer → Answer → Prop
  | .metrics ps, .metrics qs => SamePoints ps qs
  | .aggregate a, .aggregate b =>
    a.name = b.name ∧ a.count = b.count ∧ a.minimum? = b.minimum? ∧ a.maximum? = b.maximum?
  | a, b => a = b

/-- The answers to operations that follow one another. -/
def answers {σ : Type} (step : σ → Operation → Answer × σ) (s : σ) : List Operation → List Answer
  | [] => []
  | op :: ops => (step s op).1 :: answers step (step s op).2 ops

namespace Mirrors

variable {ops : List Operation} {op : Operation} {m : Memory} {t : Table}

/-- What the stores hold after one more operation. -/
theorem concat (h : Mirrors (saved ops ++ op.result?.toList) (appended ops ++ op.entry?.toList)
    (stored ops ++ op.points) m t) : Keep (ops ++ [op]) m t := by
  rwa [Keep, saved_concat, appended_concat, stored_concat]

theorem ask {rs : List CheckResult} {ts : List (String × Dict String String)} {ps : List Metric}
    (h : Mirrors rs ts ps m t) : Mirrors (rs ++ []) (ts ++ []) (ps ++ []) m t := by
  rwa [List.append_nil, List.append_nil, List.append_nil]

/-- One operation is answered alike and leaves the same contents. -/
theorem step (h : Keep ops m t) (hc : Comparable (ops ++ [op])) :
    (m.step op).1.Agrees (t.step op).1 ∧
      Keep (ops ++ [op]) (m.step op).2 (t.step op).2 := by
  have hpast := hc.of_append
  have hexact : op.IsExact := hc.exact op (List.mem_append_right _ (List.mem_singleton_self op))
  refine And.imp_right concat ?_
  cases op with
  | upsertEndpoint e => exact ⟨rfl, (h.upsertEndpoint hexact).ask⟩
  | upsertAlert a => exact ⟨rfl, (h.upsertAlert a).ask⟩
  | activeEndpoints => exact ⟨congrArg Answer.endpoints h.activeEndpoints_eq.symm, h.ask⟩
  | alertsFor id => exact ⟨congrArg Answer.alerts (h.alertsFor_eq id).symm, h.ask⟩
  | saveResult r =>
    have hnew : [r].filter (·.endpointId = r.endpointId) = [r] := List.filter_cons_of_pos (decide_eq_true rfl)
    have hroom := hc.results_le r.endpointId
    rw [saved_concat, Operation.result?, Option.toList_some, List.filter_append, hnew, List.length_append] at hroom
    refine ⟨rfl, ?_⟩
    show Mirrors _ (appended ops ++ []) (stored ops ++ []) _ _
    rw [List.append_nil, List.append_nil]
    exact h.saveResult hroom
  | latestResults id limit => exact ⟨congrArg Answer.results (h.latestResults_eq hpast id limit).symm, h.ask⟩
  | resultStats since =>
    have hanswer : (m.step (.resultStats since)).1 = .stats (t.resultStats since) :=
      congrArg (Option.elim · (Answer.crashed Tally.overflow) Answer.stats) (h.resultStats_eq hpast hexact)
    refine ⟨?_, h.ask⟩
    rw [hanswer]
    exact rfl
  | endpointCounts => exact ⟨congrArg Answer.counts h.endpointCounts_eq.symm, h.ask⟩
  | alertCount => exact ⟨congrArg Answer.number h.alertCount_eq.symm, h.ask⟩
  | append stream fields =>
    have hnew : [(stream, fields)].filter (·.1 = stream) = [(stream, fields)] :=
      List.filter_cons_of_pos (decide_eq_true rfl)
    have hroom := hc.entries_le stream
    rw [appended_concat, Operation.entry?, Option.toList_some, List.filter_append, hnew, List.length_append] at hroom
    refine ⟨congrArg (fun n : UInt64 => Answer.number n.toNat) h.nextId_eq.symm, ?_⟩
    show Mirrors (saved ops ++ []) _ (stored ops ++ []) _ _
    rw [List.append_nil, List.append_nil]
    exact h.append hroom
  | readAfter stream after limit =>
    refine ⟨?_, h.ask⟩
    show Answer.Agrees _ (Table.answer .entries _)
    rw [h.readAfter_eq hpast stream hexact]
    rfl
  | store ms =>
    have hroom := hc.metrics_le
    rw [stored_concat, List.length_append] at hroom
    obtain ⟨t', ht, hm⟩ := h.store (fun p hp => (hexact p hp).1) hroom
    have hstep : t.step (.store ms) = (.done, t') := by
      simp only [Table.step, ht]
    rw [hstep]
    refine ⟨rfl, ?_⟩
    show Mirrors (saved ops ++ []) (appended ops ++ []) _ _ _
    rw [List.append_nil, List.append_nil]
    exact hm
  | retrieve start stop =>
    refine ⟨?_, h.ask⟩
    show Answer.Agrees (.metrics _) (Table.answer .metrics _)
    rw [h.table_retrieve hpast hexact.1 hexact.2, h.memory_retrieve]
    exact samePoints _
  | retrieveByName name start stop =>
    refine ⟨?_, h.ask⟩
    show Answer.Agrees (.metrics _) (Table.answer .metrics _)
    rw [h.table_retrieveByName hpast name hexact.1 hexact.2, h.memory_retrieveByName]
    exact samePoints_filter ..
  | aggregate name start stop =>
    refine ⟨⟨?_, h.aggregate_agrees hpast name hexact.1 hexact.2⟩, h.ask⟩
    show (Aggregate.ofValues name _).name = (Aggregate.ofValues name _).name
    rw [Aggregate.name_ofValues, Aggregate.name_ofValues]

end Mirrors

theorem Mirrors.answers {past ops : List Operation} {m : Memory} {t : Table} (h : Keep past m t)
    (hc : Comparable (past ++ ops)) :
    List.Forall₂ Answer.Agrees (Storage.answers Memory.step m ops) (Storage.answers Table.step t ops) := by
  induction ops generalizing past m t with
  | nil => exact .nil
  | cons op ops ih =>
    rw [← List.singleton_append, ← List.append_assoc] at hc
    obtain ⟨ha, hm⟩ := h.step hc.of_append
    exact .cons ha (ih hm hc)

/-- Both stores, empty at first, give answers that agree to all comparable operations. -/
theorem answers_agree {ops : List Operation} (h : Comparable ops) :
    List.Forall₂ Answer.Agrees (answers Memory.step .empty ops) (answers Table.step .empty ops) := by
  have hstart : Keep [] .empty .empty := Mirrors.start
  exact hstart.answers h

/-- A run with operations of every kind, among them results of one endpoint and points of one time. -/
theorem answers_agree_of_every_kind :
    let early : Instant := .ofMillis 1_000
    let late : Instant := .ofMillis 2_500
    let point (value : Float) (time : Instant) : Metric := ⟨"load", .gauge, value, time, .ofList [("host", "a")], ""⟩
    let ops : List Operation := [
      .upsertEndpoint ⟨1, 1, "http://a/", 60, 5_000, none, true⟩, .upsertAlert ⟨1, 1, 1, "latency", "300", true⟩,
      .saveResult (.completed 1 120 200 early), .saveResult (.failed 1 0 "refused" late),
      .append "results" (.ofList [("id", "1")]), .append "metrics" (.ofList [("v", "\n")]),
      .store [point 0.5 early, point 2 late, point (-1) early], .activeEndpoints, .alertsFor 1, .latestResults 1 1,
      .resultStats early, .endpointCounts, .alertCount, .readAfter "metrics" 1 10, .retrieve early late,
      .retrieveByName "load" early late, .aggregate "load" early late]
    Comparable ops ∧ List.Forall₂ Answer.Agrees (answers Memory.step .empty ops) (answers Table.step .empty ops) := by
  intro early late point ops
  have h : Comparable ops :=
    { exact := by decide +kernel
      ordered := by decide +kernel
      sum_lt := by decide +kernel
      results_le := fun id => Nat.le_trans (List.length_filter_le ..) (by decide +kernel)
      entries_le := fun stream => Nat.le_trans (List.length_filter_le ..) (by decide +kernel)
      numbers_lt := by decide +kernel
      metrics_le := by decide +kernel }
  exact ⟨h, answers_agree h⟩

end EndpointWatch.Storage
