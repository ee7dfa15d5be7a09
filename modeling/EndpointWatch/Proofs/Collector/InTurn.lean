import EndpointWatch.Proofs.Collector.Order

/-!
# Side by side as one after the other

`collectInTurn` asks the collectors that are switched on one after the other. A pool in which all have ended, none was
cancelled and each ended as it always does has the same outcome (`Books.outcome_eq`), and what that is,
`tells_collectInTurn` says.
-/

namespace EndpointWatch

/-! ### One after the other -/

/-- Adds what the named collector yields. One that crashes takes down a task of its own. -/
def Collection.note (o : Collection) (name : String) : Except CollectError Collected → Collection
  | .ok r => ⟨(r.metrics?.map (o.metrics.insert name)).getD o.metrics, o.error?.or (r.error? name)⟩
  | .error e => { o with error? := o.error?.or (some e) }

namespace Registry

variable {r : Registry} {name : String} {k : Collector} {o : Collection}

/-- What comes of asking all collectors that are switched on one after the other. -/
def collectInTurn (r : Registry) : Collection :=
  r.enabled.keys.foldl (fun o name => o.note name (r.collectFrom name)) ⟨.empty, none⟩

theorem get?_enabled : r.enabled.get? name = some k ↔ r.collectors.get? name = some k ∧ k.isEnabled := by
  rw [enabled, Dict.get?_filter, Option.filter_eq_some_iff]

theorem note_collectFrom (hk : r.enabled.get? name = some k) (o : Collection) :
    o.note name (r.collectFrom name) =
      ⟨(k.result.metrics?.map (o.metrics.insert name)).getD o.metrics, o.error?.or (k.result.error? name)⟩ := by
  obtain ⟨hget, hon⟩ := get?_enabled.mp hk
  rw [collectFrom, hget]
  simp only [hon, Bool.not_true, Bool.false_eq_true, if_false]
  cases hr : k.result <;> rfl

theorem foldl_note (l : List (String × Collector)) (hl : ∀ e ∈ l, r.enabled.get? e.1 = some e.2)
    (hsorted : l.Pairwise fun a b => compare a.1 b.1 = .lt) (o : Collection)
    (hlt : ∀ a ∈ o.metrics.toList, ∀ e ∈ l, compare a.1 e.1 = .lt) :
    let o' := (l.map Prod.fst).foldl (fun o name => o.note name (r.collectFrom name)) o
    o'.metrics.toList = o.metrics.toList ++ l.filterMap (fun e => e.2.result.metrics?.map (Prod.mk e.1)) ∧
      o'.error? = o.error?.or (l.findSome? fun e => e.2.result.error? e.1) := by
  induction l generalizing o with
  | nil => simp
  | cons e l ih =>
    rw [List.pairwise_cons] at hsorted
    have hrest (d : String × Collector) (hd : d ∈ l) : r.enabled.get? d.1 = some d.2 := hl d (List.mem_cons_of_mem _ hd)
    have holder (a : String × List Metric) (ha : a ∈ o.metrics.toList) (d : String × Collector) (hd : d ∈ l) :
        compare a.1 d.1 = .lt := hlt a ha d (List.mem_cons_of_mem _ hd)
    simp only [List.map_cons, List.foldl_cons, note_collectFrom (hl e (List.mem_cons_self ..)), List.filterMap_cons,
      List.findSome?_cons]
    cases hm : e.2.result.metrics? with
    | none =>
      obtain ⟨x, hx⟩ : ∃ x, e.2.result.error? e.1 = some x := by
        rw [← Option.isSome_iff_exists, Option.isSome_iff_ne_none, Ne, Collected.error?_eq_none_iff, hm]
        exact Bool.false_ne_true
      obtain ⟨hmetrics, herror⟩ := ih hrest hsorted.2 ⟨o.metrics, o.error?.or (some x)⟩ holder
      rw [hx]
      exact ⟨hmetrics, herror.trans Option.or_assoc⟩
    | some xs =>
      have hx : e.2.result.error? e.1 = none := (Collected.error?_eq_none_iff ..).mpr (by rw [hm]; rfl)
      have hinsert : (o.metrics.insert e.1 xs).toList = o.metrics.toList ++ [(e.1, xs)] :=
        Dict.place_of_lt fun a ha => hlt a ha e (List.mem_cons_self ..)
      obtain ⟨hmetrics, herror⟩ := ih hrest hsorted.2 ⟨o.metrics.insert e.1 xs, o.error?⟩ (by
        intro a ha d hd
        rw [hinsert] at ha
        rcases List.mem_append.mp ha with ha | ha
        · exact holder a ha d hd
        · rw [List.mem_singleton.mp ha]
          exact hsorted.1 d hd)
      rw [hx, Option.or_none]
      refine ⟨hmetrics.trans ?_, herror⟩
      rw [hinsert, List.append_assoc]
      rfl

theorem collectInTurn_eq (r : Registry) :
    r.collectInTurn = ⟨r.enabled.filterMap fun _ k => k.result.metrics?,
      r.enabled.toList.findSome? fun e => e.2.result.error? e.1⟩ := by
  obtain ⟨hmetrics, herror⟩ := foldl_note r.enabled.toList (fun _ => Dict.mem_toList_iff.mp) r.enabled.sorted
    ⟨.empty, none⟩ nofun
  refine Collection.ext ?_ ?_
  · exact Dict.ext_toList hmetrics
  · exact herror

/-- What the outcome of a collection tells of the collectors of a registry. -/
structure Tells (r : Registry) (o : Collection) : Prop where
  /-- It has the metrics of those that are switched on and succeed, and of no others. -/
  metrics : ∀ name xs, o.metrics.get? name = some xs ↔
    ∃ k, r.collectors.get? name = some k ∧ k.isEnabled ∧ k.result = .metrics xs
  /-- It has no error if those that are switched on all succeed. -/
  clean : o.error? = none ↔ ∀ name k, r.enabled.get? name = some k → k.result.metrics?.isSome
  /-- Its error is that of the first one, by name, that fails or crashes. -/
  first : ∀ e, o.error? = some e → ∃ name k reason, r.enabled.get? name = some k ∧ k.result.error? name = some e ∧
    e = .failed name reason ∧ ∀ name' k', r.enabled.get? name' = some k' → compare name' name = .lt → k'.result.metrics?.isSome

theorem tells_collectInTurn (r : Registry) : r.Tells r.collectInTurn := by
  rw [collectInTurn_eq]
  refine ⟨fun name xs => ?_, ?_, fun e he => ?_⟩
  · rw [Dict.get?_filterMap, Option.bind_eq_some_iff]
    simp only [get?_enabled, and_assoc]
    refine exists_congr fun k => and_congr_right fun _ => and_congr_right fun _ => ?_
    cases k.result <;> simp [Collected.metrics?]
  · rw [List.findSome?_eq_none_iff]
    simp only [Prod.forall, Dict.mem_toList_iff, Collected.error?_eq_none_iff]
  · obtain ⟨before, ⟨name, k⟩, after, heq, herr, hbefore⟩ := List.findSome?_eq_some_iff.mp he
    obtain ⟨reason, hreason⟩ := Collected.eq_failed_of_error? herr
    have hk : (name, k) ∈ r.enabled.toList := heq ▸ List.mem_append_right _ (List.mem_cons_self ..)
    refine ⟨name, k, reason, Dict.mem_toList_iff.mp hk, herr, hreason, fun name' k' hk' hlt => ?_⟩
    have hsorted := r.enabled.sorted
    rw [heq, List.pairwise_append, List.pairwise_cons] at hsorted
    have hmem := Dict.mem_toList_iff.mpr hk'
    rw [heq] at hmem
    rcases List.mem_append.mp hmem with hmem | hmem
    · exact (Collected.error?_eq_none_iff ..).mp (hbefore _ hmem)
    · -- those that come later do not come before
      rcases List.mem_cons.mp hmem with hmem | hmem
      · cases hmem
        simp at hlt
      · have hgt : compare name name' = .lt := hsorted.2.1.1 _ hmem
        rw [Std.OrientedCmp.gt_iff_lt.mpr hlt] at hgt
        cases hgt

end Registry

/-! ### Side by side -/

namespace Pool

variable {p : Pool} {ms : List Move} {c : Bool}

/-- When all have ended and none was cancelled, the outcome is what the collectors themselves yield. -/
theorem Books.outcome_eq {r : Registry} (hb : Books r.workers r.enabled.keys c ms p) (hdone : p.isDone)
    (hc : p.isCancelled = false)
    (hresult : ∀ name res, .finish name res ∈ ms → ∃ k, r.enabled.get? name = some k ∧ k.result = res) :
    p.outcome = r.collectInTurn := by
  have htasks : p.tasks = r.enabled.mapValues fun k => .ended (.collected k.result) := by
    refine Dict.ext_get? fun name => ?_
    rw [Dict.get?_mapValues]
    have hiff : name ∈ r.enabled.keys ↔ _ := hb.mem_chosen_iff
    rw [Dict.mem_keys_iff] at hiff
    cases ht : p.tasks.get? name with
    | none =>
      rw [ht, Option.isSome_none, Bool.false_eq_true, iff_false, Bool.not_eq_true, Option.isSome_eq_false_iff,
        Option.isNone_iff_eq_none] at hiff
      rw [hiff]
      rfl
    | some t =>
      have hend := isDone_iff.mp hdone name t ht
      cases t with
      | waiting | admitted | running => cases hend
      | ended e =>
        cases e with
        | notStarted =>
          rw [hb.notStarted name ht] at hc
          cases hc
        | collected res =>
          obtain ⟨k, hk, rfl⟩ := hresult name res (hb.finished name res ht)
          rw [hk]
          rfl
  rw [Registry.collectInTurn_eq]
  refine Collection.ext ?_ ?_
  · refine Dict.ext_get? fun name => ?_
    rw [get?_metrics, htasks, Dict.get?_mapValues, Dict.get?_filterMap, Option.bind_map]
    rfl
  · show p.tasks.toList.findSome? _ = _
    rw [htasks, Dict.mapValues, List.findSome?_map]
    rfl

end Pool

end EndpointWatch
