import EndpointWatch.Proofs.Monitor.Attempts
import Mathlib.Data.List.Nodup

/-!
# What is handed on is under way

With the move that hands a result on, a delivery of this result begins, under a number of its own (`start_of_move?`). It
goes on through every move that does not end it (`Carries.move`), and so it is under way in every run from there, until
a move of the run ends it (`Carries.proceeds`).
-/

namespace EndpointWatch.Monitor

variable {m m' : Monitor} {v : Move} {ms : List Move} {n d : Nat} {c : Channel} {r : CheckResult}

/-! ### Moves -/

theorem CycleChange.get?_of_lt (h : CycleChange m m') (hd : d < m.nextDelivery) :
    m'.deliveries.get? d = m.deliveries.get? d := by
  cases h with
  | within told internal unsaved cycles log deliveries next => rw [deliveries]
  | save n r cycle log deliveries next =>
    have hd₁ : d ≠ m.nextDelivery := Nat.ne_of_lt hd
    have hd₂ : d ≠ m.nextDelivery + 1 := Nat.ne_of_lt (Nat.lt_succ_of_lt hd)
    rw [deliveries, afterSave_true]
    cases m.handOver.hasEvaluator with
    | false => exact Dict.get?_insert_of_ne hd₁
    | true => exact (Dict.get?_insert_of_ne hd₂).trans (Dict.get?_insert_of_ne hd₁)

/-- The delivery of what is handed on begins at once. -/
theorem start_of_move? (hm : m.move? v = some m') (hmem : .handedOn n d c r ∈ m'.log)
    (hnew : .handedOn n d c r ∉ m.log) : m'.deliveries.get? d = some (.start c r m.now) ∧ d < m'.nextDelivery := by
  cases handling_of_move? hm with
  | cycle other change =>
    cases change with
    | within told internal unsaved cycles log deliveries next =>
      rw [log, List.mem_append] at hmem
      exact absurd (internal _ (hmem.resolve_right hnew)) Bool.false_ne_true
    | save k r' cycle log deliveries next =>
      have hne : m.nextDelivery ≠ m.nextDelivery + 1 := Nat.ne_of_lt (Nat.lt_succ_self _)
      rw [log, afterSave_true] at hmem
      rw [deliveries, next, afterSave_true]
      cases hb : m.handOver.hasEvaluator with
      | false =>
        rw [hb] at hmem
        rcases List.mem_cons.mp hmem with heq | hmem
        · cases heq
          exact ⟨Dict.get?_insert_self .., Nat.lt_succ_self _⟩
        · simp only [tell, List.mem_cons, reduceCtorEq, false_or] at hmem
          exact absurd hmem hnew
      | true =>
        rw [hb] at hmem
        rcases List.mem_cons.mp hmem with heq | hmem
        · cases heq
          exact ⟨Dict.get?_insert_self .., Nat.lt_succ_self _⟩
        · rcases List.mem_cons.mp hmem with heq | hmem
          · cases heq
            exact ⟨(Dict.get?_insert_of_ne hne).trans (Dict.get?_insert_self ..), Nat.lt_succ_of_lt (Nat.lt_succ_self _)⟩
          · simp only [tell, List.mem_cons, reduceCtorEq, false_or] at hmem
            exact absurd hmem hnew
  | call e x underWay waiting inTime goesOn rest log =>
    rw [log, List.mem_cons] at hmem
    exact absurd (hmem.resolve_left Happening.noConfusion) hnew
  | retry e x due underWay calling more rest log => exact absurd (log ▸ hmem) hnew
  | finish e x ends underWay rest log =>
    rcases log with log | log
    · exact absurd (log ▸ hmem) hnew
    · rw [log, List.mem_cons] at hmem
      exact absurd (hmem.resolve_left Happening.noConfusion) hnew

/-- That a delivery is under way, of this result over this channel. -/
def Carries (d : Nat) (c : Channel) (r : CheckResult) (m : Monitor) : Prop :=
  ∃ x, m.deliveries.get? d = some x ∧ x.channel = c ∧ x.result = r

/-- That a move ends a delivery that is under way. -/
def EndsOne (d : Nat) (v : Move) (m : Monitor) : Prop := ∃ x, m.deliveries.get? d = some x ∧ m.Ends d x v

/-- A delivery goes on if one is changed, but not its channel or its result. -/
theorem Carries.update {e : Nat} {x x' : Delivery} (h : Carries d c r m) (hx : m.deliveries.get? e = some x)
    (hm : m'.deliveries = m.deliveries.insert e x') (hc : x'.channel = x.channel) (hr : x'.result = x.result) :
    Carries d c r m' := by
  obtain ⟨y, hy, rfl, rfl⟩ := h
  by_cases hd : d = e
  · subst hd
    cases hx.symm.trans hy
    exact ⟨x', by rw [hm, Dict.get?_insert_self], hc, hr⟩
  · exact ⟨y, by rw [hm, Dict.get?_insert_of_ne hd, hy], rfl, rfl⟩

/-- A delivery goes on with a move, or the move ends it. -/
theorem Carries.move (h : Carries d c r m) (hd : d < m.nextDelivery) (hm : m.move? v = some m') :
    Carries d c r m' ∨ EndsOne d v m := by
  cases handling_of_move? hm with
  | cycle other change =>
    obtain ⟨x, hx, hcarried⟩ := h
    exact .inl ⟨x, (change.get?_of_lt hd).trans hx, hcarried⟩
  | call e x underWay waiting inTime goesOn rest log deliveries => exact .inl (h.update underWay deliveries rfl rfl)
  | retry e x due underWay calling more rest log deliveries => exact .inl (h.update underWay deliveries rfl rfl)
  | finish e x ends underWay rest log deliveries =>
    by_cases hed : d = e
    · subst hed
      exact .inr ⟨x, underWay, ends⟩
    · obtain ⟨y, hy, hcarried⟩ := h
      exact .inl ⟨y, by rw [deliveries, Dict.get?_erase_of_ne hed, hy], hcarried⟩

/-! ### Runs -/

/-- That a delivery is under way wherever a run leads from here, or a move of the run has ended it. -/
def Proceeds (d : Nat) (c : Channel) (r : CheckResult) (m : Monitor) : Prop :=
  ∀ vs m', m.moves? vs = some m' →
    Carries d c r m' ∨ ∃ us v ws s, vs = us ++ v :: ws ∧ m.moves? us = some s ∧ EndsOne d v s

theorem Carries.proceeds (h : Carries d c r m) (hd : d < m.nextDelivery) : Proceeds d c r m := by
  intro vs
  induction vs generalizing m with
  | nil => intro m' hm; cases hm; exact .inl h
  | cons v vs ih =>
    intro m' hm
    obtain ⟨t, ht, hm⟩ := run_cons hm
    rcases h.move hd ht with h | hends
    · rcases ih h (Nat.lt_of_lt_of_le hd (nextDelivery_le_of_move? ht)) m' hm with h | ⟨us, w, ws, s, rfl, hs, hends⟩
      · exact .inl h
      · exact .inr ⟨v :: us, w, ws, s, rfl, run_of_step ht hs, hends⟩
    · exact .inr ⟨[], v, vs, m, rfl, rfl, hends⟩

/-- That a run from `m` has a move that hands a result on: with this move the delivery of the result begins, and it is
under way from then on, until a move ends it. -/
def HasStart (m : Monitor) (ms : List Move) (n d : Nat) (c : Channel) (r : CheckResult) : Prop :=
  ∃ us v ws s s', ms = us ++ v :: ws ∧ m.moves? us = some s ∧ s.move? v = some s' ∧
    .handedOn n d c r ∉ s.log ∧ .handedOn n d c r ∈ s'.log ∧
    s'.deliveries.get? d = some (.start c r s.now) ∧ Proceeds d c r s'

/-- The deliveries of the run `ms` from `m₀` to `m` are those of the results that were handed on, one for each. -/
structure Dispatched (m₀ : Monitor) (ms : List Move) (m : Monitor) : Prop where
  numbers : (m.log.filterMap Happening.handed?).Nodup
  begun : ∀ n d c r, .handedOn n d c r ∈ m.log → HasStart m₀ ms n d c r
  handed : ∀ d x, m.deliveries.get? d = some x → ∃ n, .handedOn n d x.channel x.result ∈ m.log

/-- No number is given to two deliveries. -/
theorem Orderly.nodup_handed {log : List Happening} (h : Orderly log) : (log.filterMap Happening.handed?).Nodup := by
  induction log with
  | nil => exact List.nodup_nil
  | cons a log ih =>
    obtain ⟨hdue, hlog⟩ := h
    cases a with
    | handedOn n d c r => exact List.nodup_cons.mpr ⟨hdue.2, ih hlog⟩
    | _ => exact ih hlog

theorem HasStart.concat (h : HasStart m ms n d c r) (v : Move) : HasStart m (ms ++ [v]) n d c r := by
  obtain ⟨us, w, ws, t, t', rfl, hrest⟩ := h
  exact ⟨us, w, ws ++ [v], t, t', by rw [List.append_assoc, List.cons_append], hrest⟩

theorem Dispatched.of_run {handOver : HandOver} {epoch : Instant} {checker : Checker}
    (hm : (Monitor.start handOver epoch checker).moves? ms = some m) :
    Dispatched (.start handOver epoch checker) ms m := by
  have ht := HasTrail.of_run hm
  refine ⟨ht.orderly.nodup_handed, ?_, ht.handed⟩
  refine holds_along_run (Q := fun ms (s : Monitor) => ∀ n d c r, .handedOn n d c r ∈ s.log →
    HasStart (.start handOver epoch checker) ms n d c r) ?_ (fun ms s v s' hrun hbegun hv n d c r hmem => ?_) ms hm
  · exact fun _ _ _ _ hmem => absurd hmem List.not_mem_nil
  · by_cases hold : .handedOn n d c r ∈ s.log
    · exact (hbegun n d c r hold).concat v
    · obtain ⟨hget, hlt⟩ := start_of_move? hv hmem hold
      have hcarries : Carries d c r s' := ⟨_, hget, rfl, rfl⟩
      exact ⟨ms, v, [], s, s', rfl, hrun, hv, hold, hmem, hget, hcarries.proceeds hlt⟩

end EndpointWatch.Monitor
