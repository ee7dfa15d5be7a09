import EndpointWatch.Collector.Registry
import EndpointWatch.Proofs.Collector.Schedule

/-!
# A collection in good order

Whatever the order of the moves and whenever the cancellation fires, no more collectors run than there are workers, none
starts twice or after the cancellation, no permit is lost, and each collector that was chosen is in the outcome or to
blame (`orderly_of_run`).
-/

namespace EndpointWatch

open Schedule (started)

theorem Collected.eq_failed_of_error? {name : String} {r : Collected} {e : CollectError} (h : r.error? name = some e) :
    ∃ reason, e = .failed name reason := by
  cases r with
  | metrics => cases h
  | failed reason | crashed reason =>
    cases h
    exact ⟨_, rfl⟩

theorem Task.isSome_error? {t : Task} (h : t.isEnded) (name : String) :
    (t.error? name).isSome = !t.metrics?.isSome := by
  cases t with
  | waiting | admitted | running => cases h
  | ended e =>
    cases e with
    | notStarted => rfl
    | collected r => cases r <;> rfl

namespace Pool

variable {p p' p₀ : Pool} {c : Bool} {m : Move} {ms : List Move} {name : String} {workers : Nat} {chosen : List String}

/-! ### Permits -/

theorem runningCount_le_held (p : Pool) : p.runningCount ≤ p.held := by
  unfold runningCount held
  induction p.tasks.values with
  | nil => exact Nat.le_refl _
  | cons t l ih =>
    have ht : (if t.isRunning then 1 else 0) ≤ t.permits := by
      cases t <;> simp [Task.isRunning, Task.permits]
    rw [List.countP_cons, List.map_cons, List.sum_cons]
    omega

theorem Books.exists_holder (hb : Books workers chosen c ms p) (hlt : p.free < workers) :
    ∃ name t, p.tasks.get? name = some t ∧ 0 < t.permits := by
  have hpos : 0 < p.held := by
    have := hb.permits_eq
    omega
  obtain ⟨n, hn, hpos⟩ := List.sum_pos_iff_exists_pos_nat.mp hpos
  obtain ⟨t, ht, rfl⟩ := List.mem_map.mp hn
  obtain ⟨name, hname⟩ := Dict.mem_values_iff.mp ht
  exact ⟨name, t, hname, hpos⟩

/-- That a collector runs, or can take a permit, start or give up. -/
def CanGoOn (p : Pool) (name : String) : Prop :=
  p.tasks.get? name = some .running ∨ (p.move? (.enter name)).isSome ∨ (p.move? (.start name)).isSome ∨
    (p.move? (.giveUp name)).isSome

theorem CanGoOn.isSome_get? (h : p.CanGoOn name) : (p.tasks.get? name).isSome := by
  cases ht : p.tasks.get? name with
  | some t => rfl
  | none => simp [CanGoOn, move?, ht] at h

theorem canGoOn_of_permits_pos {t : Task} (ht : p.tasks.get? name = some t) (hpos : 0 < t.permits) :
    p.CanGoOn name := by
  cases t with
  | waiting | ended => cases hpos
  | running => exact .inl ht
  | admitted =>
    cases hc : p.isCancelled with
    | true => exact .inr (.inr (.inr (isSome_move?_of_change ht (.giveUp hc) nofun)))
    | false => exact .inr (.inr (.inl (isSome_move?_of_change ht (.start hc) nofun)))

theorem Books.goesOn (hb : Books workers chosen c ms p) (hw : 0 < workers) (hdone : p.isDone = false) :
    ∃ name, p.CanGoOn name := by
  obtain ⟨name, t, ht, hnot⟩ : ∃ name t, p.tasks.get? name = some t ∧ ¬ t.isEnded := by
    have hnot : ¬ ∀ name t, p.tasks.get? name = some t → t.isEnded := fun h => by
      rw [isDone_iff.mpr h] at hdone
      cases hdone
    simpa using hnot
  cases t with
  | ended => exact absurd rfl hnot
  | running | admitted => exact ⟨name, canGoOn_of_permits_pos ht Nat.one_pos⟩
  | waiting =>
    by_cases hfree : 0 < p.free
    · exact ⟨name, .inr (.inl (isSome_move?_of_change ht .enter fun _ => hfree))⟩
    · obtain ⟨holder, t', ht', hpos⟩ := hb.exists_holder (by omega)
      exact ⟨holder, canGoOn_of_permits_pos ht' hpos⟩

/-! ### Starts -/

theorem started_eq_nil_of_isCancelled (ms : List Move) (hc : p.isCancelled) (h : p.moves? ms = some p') :
    started ms = [] := by
  induction ms generalizing p with
  | nil => rfl
  | cons m ms ih =>
    obtain ⟨q, hq, h⟩ := run_cons h
    have hs := step_of_move? hq
    have hrest : started ms = [] := ih (hs.isCancelled hc) h
    cases hs with
    | cancel => exact hrest
    | turn _ hchange _ =>
      cases hchange with
      | start hgoes =>
        rw [hc] at hgoes
        cases hgoes
      | enter | finish | withdraw | giveUp => exact hrest

theorem Books.mem_chosen_iff (hb : Books workers chosen c ms p) : name ∈ chosen ↔ (p.tasks.get? name).isSome := by
  rw [← hb.keys, Dict.mem_keys_iff]

theorem Books.started_subset (hb : Books workers chosen c ms p) : started ms ⊆ chosen := by
  intro name hname
  obtain ⟨t, ht, -⟩ := (Option.any_eq_true ..).mp ((hb.mem_started name).mp hname)
  rw [hb.mem_chosen_iff, ht]
  rfl

theorem Books.started_perm (hb : Books workers chosen c ms p) (hn : chosen.Nodup) (hdone : p.isDone)
    (hc : p.isCancelled = false) : (started ms).Perm chosen := by
  refine (List.perm_ext_iff_of_nodup hb.nodup_started hn).mpr fun name => ⟨fun h => hb.started_subset h, fun h => ?_⟩
  obtain ⟨t, ht⟩ := Option.isSome_iff_exists.mp (hb.mem_chosen_iff.mp h)
  rw [hb.mem_started, ht, Option.any_some]
  have hend := isDone_iff.mp hdone name t ht
  cases t with
  | waiting | admitted | running => cases hend
  | ended e =>
    cases e with
    | collected r => rfl
    | notStarted =>
      rw [hb.notStarted name ht] at hc
      cases hc

/-! ### The outcome -/

/-- What those that have not yielded metrics are to blame for. -/
def errors (p : Pool) : Dict String CollectError := p.tasks.filterMap fun name t => t.error? name

theorem get?_metrics (p : Pool) (name : String) : p.outcome.metrics.get? name = (p.tasks.get? name).bind Task.metrics? :=
  Dict.get?_filterMap ..

theorem get?_errors (p : Pool) (name : String) : p.errors.get? name = (p.tasks.get? name).bind (·.error? name) :=
  Dict.get?_filterMap ..

theorem contains_errors (hdone : p.isDone) {t : Task} (ht : p.tasks.get? name = some t) :
    p.errors.contains name = !p.outcome.metrics.contains name := by
  rw [Dict.contains, Dict.contains, get?_errors, get?_metrics, ht]
  exact Task.isSome_error? (isDone_iff.mp hdone name t ht) name

/-- The error of an outcome is that of the first collector, in the order of their names, that has not yielded metrics. -/
theorem error?_outcome (hdone : p.isDone) :
    p.outcome.error? = (p.tasks.keys.find? fun name => !p.outcome.metrics.contains name).bind p.errors.get? := by
  have hall : ∀ l : List (String × Task), (∀ e ∈ l, p.tasks.get? e.1 = some e.2) →
      l.findSome? (fun e => e.2.error? e.1) =
        ((l.map Prod.fst).find? fun name => !p.outcome.metrics.contains name).bind p.errors.get? := by
    intro l hl
    induction l with
    | nil => rfl
    | cons e l ih =>
      have he : p.tasks.get? e.1 = some e.2 := hl e (List.mem_cons_self ..)
      have herr : p.errors.get? e.1 = e.2.error? e.1 := by rw [get?_errors, he]; rfl
      rw [List.map_cons, List.find?_cons, List.findSome?_cons, ← contains_errors hdone he, Dict.contains, herr]
      cases hx : e.2.error? e.1 with
      | none => exact ih fun d hd => hl d (List.mem_cons_of_mem _ hd)
      | some x => exact (herr.trans hx).symm
  exact hall p.tasks.toList fun e he => Dict.mem_toList_iff.mp he

theorem Books.blame (hb : Books workers chosen c ms p) {e : CollectError} (he : p.errors.get? name = some e) :
    name ∉ started ms ∧ e = .cancelled ∨
      name ∈ started ms ∧ ∃ r reason, .finish name r ∈ ms ∧ r.error? name = some e ∧ e = .failed name reason := by
  rw [get?_errors] at he
  obtain ⟨t, ht, he⟩ := Option.bind_eq_some_iff.mp he
  rw [hb.mem_started, ht, Option.any_some]
  cases t with
  | waiting | admitted | running => cases he
  | ended end' =>
    cases end' with
    | notStarted =>
      cases he
      exact .inl ⟨Bool.false_ne_true, rfl⟩
    | collected r =>
      obtain ⟨reason, hreason⟩ := Collected.eq_failed_of_error? he
      exact .inr ⟨rfl, r, reason, hb.finished name r ht, he, hreason⟩

/-! ### All together -/

/-- That a collection from a registry is in good order, which began with the pool `p₀` and has come to `p`. -/
structure Orderly (r : Registry) (p₀ : Pool) (ms : List Move) (p : Pool) : Prop where
  /-- No more collectors run than there are workers. -/
  bounded : p.runningCount ≤ r.workers
  /-- No collector starts twice, and only those that were switched on do. -/
  once : (started ms).Nodup ∧ started ms ⊆ r.enabled.keys
  /-- All of them start if the collection is not cancelled. -/
  all : p.isDone → p.isCancelled = false → (started ms).Perm r.enabled.keys
  /-- None starts once it is. -/
  quiet : ∀ before after q, ms = before ++ after → p₀.moves? before = some q → q.isCancelled → started after = []
  /-- Each permit is left, or held by a collector that has not ended. -/
  permits : p.free + p.held = r.workers
  /-- Until all have ended one of them can go on, and they cannot do so for ever. -/
  goesOn : (p.isDone = false → ∃ name, p.CanGoOn name) ∧ ms.countP Move.isTurn ≤ 3 * r.enabled.keys.length
  /-- Of a collector that was switched on the outcome has the metrics, or it is to blame. -/
  accounted : p.isDone → ∀ name ∈ r.enabled.keys, p.errors.contains name = !p.outcome.metrics.contains name
  /-- Of others it has nothing. -/
  only : ∀ name, p.outcome.metrics.contains name ∨ p.errors.contains name → name ∈ r.enabled.keys
  /-- Its error is that of the first collector by name that it has no metrics of. -/
  first : p.isDone → p.outcome.error? =
    (r.enabled.keys.find? fun name => !p.outcome.metrics.contains name).bind p.errors.get?
  /-- What a collector is to blame for is the cancellation if it was not started, and what became of it if it was. -/
  blame : ∀ name e, p.errors.get? name = some e →
    name ∉ started ms ∧ e = .cancelled ∨
      name ∈ started ms ∧ ∃ r reason, .finish name r ∈ ms ∧ r.error? name = some e ∧ e = .failed name reason

theorem Books.orderly {r : Registry} (hb : Books r.workers r.enabled.keys c ms p)
    (h : (Pool.fresh r.workers c r.enabled).moves? ms = some p) :
    Orderly r (.fresh r.workers c r.enabled) ms p where
  bounded := by
    have hle := p.runningCount_le_held
    have heq := hb.permits_eq
    omega
  once := ⟨hb.nodup_started, hb.started_subset⟩
  all := hb.started_perm r.enabled.nodup_keys
  quiet := by
    rintro before after q rfl hq hc
    obtain ⟨q', hq', hafter⟩ := run_append.mp h
    rw [show q' = q from Option.some.inj (hq'.symm.trans hq)] at hafter
    exact started_eq_nil_of_isCancelled after hc hafter
  permits := hb.permits_eq
  goesOn := by
    refine ⟨hb.goesOn r.workers_pos, ?_⟩
    have hle := hb.turnsLeft_le
    omega
  accounted := by
    intro hdone name hname
    obtain ⟨t, ht⟩ := Option.isSome_iff_exists.mp (hb.mem_chosen_iff.mp hname)
    exact contains_errors hdone ht
  only := by
    intro name hname
    rw [hb.mem_chosen_iff]
    rw [Dict.contains, Dict.contains, get?_metrics, get?_errors] at hname
    cases ht : p.tasks.get? name with
    | none => rw [ht] at hname; exact hname.elim id id
    | some t => rfl
  first := by
    intro hdone
    rw [← hb.keys]
    exact error?_outcome hdone
  blame _ _ := hb.blame

end Pool

namespace Registry

theorem pool?_of_le {r : Registry} (hw : r.workers ≤ Pool.mostWorkers) (isCancelled : Bool) :
    r.pool? isCancelled = some (.fresh r.workers isCancelled r.enabled) := if_pos hw

/-- Every run of the pool of a registry is in good order, and a collection is such a run in which all have ended. -/
theorem orderly_of_run (r : Registry) (hw : r.workers ≤ Pool.mostWorkers) :
    (∀ isCancelled, ∃ p₀, r.pool? isCancelled = some p₀ ∧
      ∀ ms p, p₀.moves? ms = some p → Pool.Orderly r p₀ ms p) ∧
    ∀ cancelAt, ∃ p₀ p, r.pool? (cancelAt == some 0) = some p₀ ∧ p₀.moves? (r.schedule cancelAt) = some p ∧ p.isDone ∧
      r.collectAll cancelAt = some p.outcome := by
  refine ⟨fun c => ⟨_, r.pool?_of_le hw c, fun ms p h => (Pool.Books.of_run h).orderly h⟩, fun cancelAt => ?_⟩
  obtain ⟨p, hrun, hdone⟩ := Schedule.isDone_of_moves r.workers_pos cancelAt r.enabled
  refine ⟨_, p, r.pool?_of_le hw _, hrun, hdone, ?_⟩
  rw [collectAll, r.pool?_of_le hw]
  exact congrArg (Option.map Pool.outcome) hrun

/-- With one worker, the second of three collectors takes the permit, the cancellation fires before it starts, and it gives
the permit back. The first has failed by then. -/
theorem orderly_of_late_cancellation :
    let r : Registry := ⟨1, .ofList [("a", ⟨true, 4, false, .failed "down"⟩), ("b", ⟨true, 4, false, .metrics []⟩),
      ("c", ⟨true, 4, false, .metrics []⟩), ("d", ⟨true, 4, false, .metrics []⟩)], Nat.one_pos⟩
    let ms : List Pool.Move := [.enter "d", .start "d", .finish "d" (.metrics []), .enter "a", .start "a",
      .finish "a" (.failed "down"), .enter "b", .cancel, .giveUp "c", .giveUp "b"]
    r.workers ≤ Pool.mostWorkers ∧ ∃ p₀ p, r.pool? false = some p₀ ∧ p₀.moves? ms = some p ∧ Pool.Orderly r p₀ ms p ∧
      p.isDone ∧ p.free = 1 ∧ p.outcome.metrics.keys = ["d"] ∧ p.outcome.error? = some (.failed "a" "down") ∧
      p.errors.toList = [("a", .failed "a" "down"), ("b", .cancelled), ("c", .cancelled)] := by
  intro r ms
  have hw : r.workers ≤ Pool.mostWorkers := by decide +kernel
  obtain ⟨p₀, hp₀, hruns⟩ := (orderly_of_run r hw).1 false
  have hrun : ((r.pool? false).bind (·.moves? ms)).isSome := by decide +kernel
  obtain ⟨p, hp⟩ := Option.isSome_iff_exists.mp hrun
  have hend : ((r.pool? false).bind (·.moves? ms)).all fun p =>
      p.isDone ∧ p.free = 1 ∧ p.outcome.metrics.keys = ["d"] ∧ p.outcome.error? = some (.failed "a" "down") ∧
      p.errors.toList = [("a", .failed "a" "down"), ("b", .cancelled), ("c", .cancelled)] := by decide +kernel
  rw [hp, Option.all_some, decide_eq_true_eq] at hend
  rw [hp₀, Option.bind_some] at hp
  exact ⟨hw, p₀, p, hp₀, hp, hruns ms p hp, hend⟩

/-- With more workers than there can be nothing is started at all, and a collection crashes. -/
theorem not_orderly_of_too_many_workers :
    let r : Registry := ⟨2 ^ 61, .ofList [("a", ⟨true, 0, false, .metrics []⟩)], Nat.two_pow_pos 61⟩
    r.enabled.keys = ["a"] ∧ (¬ ∃ p₀ ms p, r.pool? false = some p₀ ∧ p₀.moves? ms = some p ∧ started ms = ["a"]) ∧
      r.collectAll none = none := by
  intro r
  have hnone : r.pool? false = none := if_neg (by decide +kernel)
  refine ⟨by decide +kernel, ?_, ?_⟩
  · rintro ⟨p₀, ms, p, hp₀, -⟩
    rw [hnone] at hp₀
    cases hp₀
  · rw [collectAll, show r.pool? (none == some 0) = none from hnone]
    rfl

end Registry

end EndpointWatch
