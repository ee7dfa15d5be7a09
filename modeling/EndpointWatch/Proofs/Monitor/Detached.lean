import EndpointWatch.Proofs.Monitor.Trail

/-!
# Deliveries are detached

Deliveries go on beside the cycles whose results they hand on. A move of one of them begins a call, or makes it wait for
another, or ends it, and leaves alone what is left of the monitor without deliveries, its `cut` (`Handling`). Moves of
checks and cycles are the same with deliveries and without (`map_cut_move?`). So what a run tells of its cycles
it tells also if its deliveries are never heard of again (`run_without_deliveries`).
-/

namespace EndpointWatch.Monitor

variable {m m' : Monitor} {v : Move}

/-- A monitor without its deliveries, and without what the log tells of them after they began. -/
def cut (m : Monitor) : Monitor := { m with deliveries := .empty, log := m.log.filter (·.cycle?.isSome) }

theorem cut_cut (m : Monitor) : m.cut.cut = m.cut := by
  simp [cut, List.filter_filter]

/-- What a log tells of cycles it tells without what the deliveries do. -/
theorem ledger_filter (n : Nat) (log : List Happening) :
    ledger n (log.filter (·.cycle?.isSome)) = ledger n log := by
  induction log with
  | nil => rfl
  | cons h log ih =>
    rw [List.filter_cons]
    split
    · rw [ledger_cons, ledger_cons, ih]
    · next hnone =>
      have hn : h.cycle? ≠ some n := fun hn => hnone (by rw [hn]; rfl)
      rw [ih, ledger_cons, Ledger.note_of_ne _ hn]

/-! ### Moves of deliveries -/

/-- That a move ends delivery `d`, which is `x`: a call of it succeeds, or fails with no attempt left, or it is given up,
with its time up or after the shutdown. -/
inductive Ends (m : Monitor) (d : Nat) (x : Delivery) : Move → Prop where
  | succeeds (calling : x.isWaiting = false) : Ends m d x (.called d true)
  | fails (calling : x.isWaiting = false) (spent : m.handOver.policy.maxAttempts.toNat ≤ x.calls) :
      Ends m d x (.called d false)
  | givenUp (wentThrough : Bool) (late : x.deadline m.handOver.limit ≤ m.now ∨ m.isShutDown) :
      Ends m d x (.giveUp d wentThrough)

/-- What a move does to the deliveries. The move of a cycle is a `CycleChange`. A delivery that waits calls, if it is in
time and before the shutdown; one that calls waits again, if its call failed and was not the last; or it ends. -/
inductive Handling (m : Monitor) : Move → Monitor → Prop where
  | cycle {v : Move} {m' : Monitor} (other : v.delivery? = none) (change : CycleChange m m') : Handling m v m'
  | call {m' : Monitor} (d : Nat) (x : Delivery) (underWay : m.deliveries.get? d = some x) (waiting : x.isWaiting)
      (inTime : m.now ≤ x.deadline m.handOver.limit) (goesOn : m.isShutDown = false) (rest : m'.cut = m.cut)
      (log : m'.log = .called d x.channel :: m.log)
      (deliveries : m'.deliveries = m.deliveries.insert d { x with calls := x.calls + 1, stage := .calling }) :
      Handling m (.call d) m'
  | retry {m' : Monitor} (d : Nat) (x : Delivery) (due : Nat) (underWay : m.deliveries.get? d = some x)
      (calling : x.isWaiting = false) (more : x.calls < m.handOver.policy.maxAttempts.toNat) (rest : m'.cut = m.cut)
      (log : m'.log = m.log) (deliveries : m'.deliveries = m.deliveries.insert d { x with stage := .waiting due }) :
      Handling m (.called d false) m'
  | finish {v : Move} {m' : Monitor} (d : Nat) (x : Delivery) (ends : m.Ends d x v)
      (underWay : m.deliveries.get? d = some x) (rest : m'.cut = m.cut)
      (log : m'.log = m.log ∨ m'.log = .delivered d x.channel x.result :: m.log)
      (deliveries : m'.deliveries = m.deliveries.erase d) : Handling m v m'

theorem Delivery.call?_eq_some {limit now : Nat} {x x' : Delivery} (h : x.call? limit now = some x') :
    x.isWaiting ∧ now ≤ x.deadline limit ∧ x' = { x with calls := x.calls + 1, stage := .calling } := by
  unfold Delivery.call? at h
  split at h
  · next due hstage =>
    simp only [Bool.and_eq_true, decide_eq_true_eq, Option.ite_none_right_eq_some, Option.some.injEq] at h
    obtain ⟨⟨-, hnow⟩, rfl⟩ := h
    exact ⟨by rw [Delivery.isWaiting, hstage], hnow, rfl⟩
  · cases h

theorem Delivery.retry?_eq_some {p : Retry.Policy Float} {now : Nat} {x x' : Delivery} (h : x.retry? p now = some x') :
    x.calls < p.maxAttempts.toNat ∧ ∃ due, x' = { x with stage := .waiting due } := by
  obtain ⟨ms, hms, rfl⟩ := Option.map_eq_some_iff.mp h
  simp only [Retry.Policy.wait?, Option.ite_none_right_eq_some] at hms
  exact ⟨hms.1, _, rfl⟩

theorem Delivery.retry?_eq_none {p : Retry.Policy Float} {now : Nat} {x : Delivery} (h : x.retry? p now = none) :
    p.maxAttempts.toNat ≤ x.calls := by
  rw [Delivery.retry?, Option.map_eq_none_iff, Retry.Policy.wait?, ite_eq_right_iff] at h
  exact Nat.le_of_not_lt fun hlt => Option.some_ne_none _ (h hlt)

theorem handling_of_move? (hm : m.move? v = some m') : Handling m v m' := by
  cases v with
  | call d =>
    simp only [move?, Option.bind_eq_bind] at hm
    split at hm
    · cases hm
    · next hgoes =>
      simp only [Option.bind_eq_some_iff, Option.some.injEq] at hm
      obtain ⟨x, hx, x', hcall, rfl⟩ := hm
      obtain ⟨hwaiting, hnow, rfl⟩ := Delivery.call?_eq_some hcall
      exact .call d x hx hwaiting hnow (Bool.eq_false_iff.mpr hgoes) rfl rfl rfl
  | called d success =>
    simp only [move?, Option.bind_eq_bind, Option.bind_eq_some_iff] at hm
    obtain ⟨x, hx, hm⟩ := hm
    split at hm
    · cases hm
    · next hbusy =>
      simp only [Bool.or_eq_true, not_or, Bool.not_eq_true] at hbusy
      cases success with
      | true => cases hm; exact .finish d x (.succeeds hbusy.1) hx rfl (.inr rfl) rfl
      | false =>
        simp only [Bool.false_eq_true, if_false] at hm
        split at hm
        · next x' hretry =>
          cases hm
          obtain ⟨hmore, due, rfl⟩ := Delivery.retry?_eq_some hretry
          exact .retry d x due hx hbusy.1 hmore rfl rfl rfl
        · next hspent =>
          cases hm
          exact .finish d x (.fails hbusy.1 (Delivery.retry?_eq_none hspent)) hx rfl (.inl rfl) rfl
  | giveUp d wentThrough =>
    simp only [move?, Option.bind_eq_bind, Option.bind_eq_some_iff] at hm
    obtain ⟨x, hx, hm⟩ := hm
    split at hm
    · cases hm
    · split at hm
      · next hlate =>
        cases hm
        simp only [Bool.or_eq_true, Bool.and_eq_true, decide_eq_true_eq] at hlate
        have hends : m.Ends d x (.giveUp d wentThrough) := .givenUp wentThrough (hlate.imp_right And.left)
        cases wentThrough with
        | true => exact .finish d x hends hx rfl (.inr rfl) rfl
        | false => exact .finish d x hends hx rfl (.inl rfl) rfl
      · cases hm
  | _ => exact .cycle rfl (cycleChange_of_move? rfl hm)

theorem cut_eq_of_move? {d : Nat} (hv : v.delivery? = some d) (hm : m.move? v = some m') : m'.cut = m.cut := by
  cases handling_of_move? hm with
  | cycle other => rw [hv] at other; cases other
  | call _ _ _ _ _ _ rest | retry _ _ _ _ _ _ rest | finish _ _ _ _ rest => exact rest

/-! ### Moves of checks and cycles -/

theorem cut_tell (m : Monitor) (h : Happening) : (m.cut.tell h).cut = (m.tell h).cut := by
  simp [cut, tell, List.filter_cons, List.filter_filter]

theorem cut_endCycle (m : Monitor) (n : Nat) (r : Except CycleError CycleReport) :
    (m.cut.endCycle n r).cut = (m.endCycle n r).cut :=
  cut_tell { m with cycles := m.cycles.erase n } (.ended n r)

theorem cut_beginCycle (m : Monitor) (isCancelled : Bool) (fetched : Except StorageError (List Endpoint)) :
    (m.cut.beginCycle isCancelled fetched).cut = (m.beginCycle isCancelled fetched).cut := by
  cases isCancelled with
  | true => exact cut_endCycle { m with nextCycle := m.nextCycle + 1 } _ _
  | false =>
    cases fetched with
    | error e => exact cut_endCycle { m with nextCycle := m.nextCycle + 1 } _ _
    | ok es =>
      cases es with
      | nil => simp [cut, beginCycle, endCycle, tell, Happening.cycle?, List.filter_filter]
      | cons e es => simp [cut, beginCycle, tell, Happening.cycle?, List.filter_filter]

theorem cut_afterSave (m : Monitor) (n : Nat) (r : CheckResult) (success : Bool) :
    (m.cut.afterSave n r success).cut = (m.afterSave n r success).cut := by
  cases success with
  | false => exact cut_tell m (.unsaved n r)
  | true =>
    cases hb : m.handOver.hasEvaluator <;>
      simp [afterSave, handOn, tell, cut, Happening.cycle?, List.filter_filter, hb]

theorem map_cut_bind {α : Type} (a? : Option α) {f g : α → Option Monitor}
    (h : ∀ a, (f a).map cut = (g a).map cut) : (a? >>= f).map cut = (a? >>= g).map cut := by
  cases a? with
  | none => rfl
  | some a => exact h a

theorem map_cut_map {α : Type} (a? : Option α) {f g : α → Monitor} (h : ∀ a, (f a).cut = (g a).cut) :
    (a?.map f).map cut = (a?.map g).map cut := by
  cases a? with
  | none => rfl
  | some a => exact congrArg some (h a)

/-- A move of a check or a cycle takes no notice of deliveries. -/
theorem map_cut_move? (m : Monitor) (hv : v.delivery? = none) : (m.cut.move? v).map cut = (m.move? v).map cut := by
  cases v with
  | advance ms => exact congrArg some (cut_cut { m with session := m.session.advance ms })
  | beginCycle isCancelled fetched => exact congrArg some (cut_beginCycle m isCancelled fetched)
  | abandonFetch e => exact congrArg some (cut_endCycle { m with nextCycle := m.nextCycle + 1 } _ _)
  | arrive n => exact map_cut_map (m.session.arrive? n) fun session => cut_cut { m with session }
  | probed n r => exact map_cut_map (m.session.probed? n r) fun session => cut_cut { m with session }
  | handIn n =>
    refine map_cut_bind (m.session.handIn? n) fun p => ?_
    obtain ⟨⟨k, o, ended⟩, session⟩ := p
    have hc : m.cut.cycles = m.cycles := rfl
    simp only [hc]
    split
    · refine map_cut_bind (Cycle.deliver? _ _) fun c => congrArg some ?_
      exact cut_tell { m with session, cycles := m.cycles.insert k.cycle c } _
    · exact congrArg some (cut_cut { m with session })
  | take n =>
    refine map_cut_bind (m.cycles.get? n) fun c => map_cut_bind c.take? fun c' => congrArg some ?_
    exact cut_cut { m with cycles := m.cycles.insert n c' }
  | saved n success =>
    refine map_cut_bind (m.cycles.get? n) fun c => map_cut_bind (c.saved? success) fun p => congrArg some ?_
    exact cut_afterSave { m with cycles := m.cycles.insert n p.2 } n p.1 success
  | complete n =>
    refine map_cut_bind (m.cycles.get? n) fun c => ?_
    split
    · exact congrArg some (cut_endCycle m n _)
    · rfl
  | stop n e => exact map_cut_map (m.cycles.get? n) fun _ => cut_endCycle m n (.error e)
  | shutDown => exact congrArg some (cut_cut { m with isShutDown := true })
  | call | called | giveUp => cases hv

/-! ### Runs -/

/-- A run is possible too if its deliveries never do anything, and leads to the same but for them. -/
theorem run_without_deliveries {s s' : Monitor} {ms : List Move} (hs : s.cut = s'.cut) (hm : s.moves? ms = some m) :
    ∃ m', s'.moves? (ms.filter (·.delivery?.isNone)) = some m' ∧ m.cut = m'.cut := by
  induction ms generalizing s s' with
  | nil => cases hm; exact ⟨s', rfl, hs⟩
  | cons v ms ih =>
    obtain ⟨t, ht, hm⟩ := run_cons hm
    cases hv : v.delivery? with
    | some d =>
      rw [List.filter_cons_of_neg (by simp [hv])]
      exact ih ((cut_eq_of_move? hv ht).trans hs) hm
    | none =>
      rw [List.filter_cons_of_pos (by simp [hv])]
      have hmap : (s'.move? v).map cut = some t.cut := by
        rw [← map_cut_move? s' hv, ← hs, map_cut_move? s hv, ht]
        rfl
      obtain ⟨t', ht', hcut⟩ := Option.map_eq_some_iff.mp hmap
      obtain ⟨m', hm', hend⟩ := ih hcut.symm hm
      refine ⟨m', ?_, hend⟩
      rw [moves?, List.foldlM_cons, ht']
      exact hm'

theorem ledger_eq_of_cut (h : m.cut = m'.cut) (n : Nat) : ledger n m.log = ledger n m'.log := by
  rw [← ledger_filter n m.log, ← ledger_filter n m'.log]
  exact congrArg (fun m : Monitor => ledger n m.log) h

end EndpointWatch.Monitor
