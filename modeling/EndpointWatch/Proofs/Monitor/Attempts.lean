import EndpointWatch.Proofs.Monitor.Detached

/-!
# How often deliveries call

The calls of a delivery stay within the bound on attempts (`Attempted.of_run`). None begins after the shutdown
(`not_mem_of_isShutDown`), and none of a delivery that is over or out of time (`Silent.not_mem`).
-/

namespace EndpointWatch

/-- The delivery that calls with it. -/
def Happening.called? : Happening → Option Nat
  | .called d _ => some d
  | _ => none

theorem Happening.called?_of_isInternal {h : Happening} (hi : h.isInternal) : h.called? = none := by
  cases h with
  | broadcast | handedOn | called | delivered => cases hi
  | began | handedIn | saved | unsaved | ended => rfl

namespace Monitor

variable {m m' : Monitor} {v : Move} {ms : List Move} {d e : Nat} {x : Delivery}

/-- How many calls of a delivery a log tells of. -/
def calls (d : Nat) (log : List Happening) : Nat := (log.filterMap Happening.called?).count d

theorem calls_called (d e : Nat) (c : Channel) (log : List Happening) :
    calls d (.called e c :: log) = calls d log + if e = d then 1 else 0 := by
  simp [calls, Happening.called?, List.count_cons]

theorem calls_delivered (d e : Nat) (c : Channel) (r : CheckResult) (log : List Happening) :
    calls d (.delivered e c r :: log) = calls d log := rfl

/-! ### Moves of checks and cycles -/

namespace CycleChange

theorem calls_eq (h : CycleChange m m') (d : Nat) : calls d m'.log = calls d m.log := by
  cases h with
  | within told internal unsaved cycles log deliveries next =>
    have htold : told.filterMap Happening.called? = [] :=
      List.filterMap_eq_nil_iff.mpr fun h hmem => Happening.called?_of_isInternal (internal h hmem)
    rw [log, calls, List.filterMap_append, htold]
    rfl
  | save n r cycle log deliveries next =>
    rw [log, afterSave_true]
    cases m.handOver.hasEvaluator <;> rfl

theorem nextDelivery_le (h : CycleChange m m') : m.nextDelivery ≤ m'.nextDelivery := by
  cases h with
  | within told internal unsaved cycles log deliveries next => exact Nat.le_of_eq next.symm
  | save n r cycle log deliveries next =>
    rw [next, afterSave_true]
    cases m.handOver.hasEvaluator
    · exact Nat.le_succ _
    · exact Nat.le_add_right _ 2

theorem log_suffix (h : CycleChange m m') : m.log <:+ m'.log := by
  cases h with
  | within told internal unsaved cycles log deliveries next => exact ⟨told, log.symm⟩
  | save n r cycle log deliveries next =>
    rw [log, afterSave_true]
    cases m.handOver.hasEvaluator
    · exact ⟨[_, _, _], rfl⟩
    · exact ⟨[_, _, _, _], rfl⟩

/-- A delivery under way was so before, or begins under a new number. -/
theorem begins (h : CycleChange m m') (hx : m'.deliveries.get? d = some x) :
    m.deliveries.get? d = some x ∨
      m.nextDelivery ≤ d ∧ d < m'.nextDelivery ∧ ∃ c r, x = .start c r m.now := by
  cases h with
  | within told internal unsaved cycles log deliveries next => exact .inl (deliveries ▸ hx)
  | save n r cycle log deliveries next =>
    have hstream {x : Delivery} (hx : (m.deliveries.insert m.nextDelivery (.start .stream r m.now)).get? d = some x) :
        m.deliveries.get? d = some x ∨ d = m.nextDelivery ∧ x = .start .stream r m.now := by
      rcases Dict.eq_some_of_get?_insert hx with hnew | ⟨-, hold⟩
      · exact .inr hnew
      · exact .inl hold
    rw [deliveries, afterSave_true] at hx
    rw [next, afterSave_true]
    cases hb : m.handOver.hasEvaluator with
    | false =>
      rw [hb] at hx
      rcases hstream hx with hold | ⟨rfl, rfl⟩
      · exact .inl hold
      · exact .inr ⟨Nat.le_refl _, Nat.lt_succ_self _, .stream, r, rfl⟩
    | true =>
      rw [hb] at hx
      rcases Dict.eq_some_of_get?_insert hx with ⟨rfl, rfl⟩ | ⟨-, hx⟩
      · exact .inr ⟨Nat.le_succ _, Nat.lt_succ_self _, .evaluator, r, rfl⟩
      · rcases hstream hx with hold | ⟨rfl, rfl⟩
        · exact .inl hold
        · exact .inr ⟨Nat.le_refl _, Nat.lt_succ_of_lt (Nat.lt_succ_self _), .stream, r, rfl⟩

end CycleChange

theorem frame_beginCycle (m : Monitor) (isCancelled : Bool) (fetched : Except StorageError (List Endpoint)) :
    let m' := m.beginCycle isCancelled fetched
    m'.handOver = m.handOver ∧ m'.now = m.now ∧ m'.isShutDown = m.isShutDown := by
  cases isCancelled with
  | true => exact ⟨rfl, rfl, rfl⟩
  | false =>
    cases fetched with
    | error e => exact ⟨rfl, rfl, rfl⟩
    | ok es =>
      cases es with
      | nil => exact ⟨rfl, rfl, rfl⟩
      | cons e es =>
        let session := m.session.retain ((e :: es).map Endpoint.id)
        have hnow : (session.spawnAll m.nextCycle (e :: es)).now = m.now := Checker.Session.now_spawnAll (e :: es)
        exact ⟨rfl, hnow, rfl⟩

/-- Settings stay, time goes on, and a shutdown is for good. -/
theorem frame_of_move? (hm : m.move? v = some m') :
    m'.handOver = m.handOver ∧ m.now ≤ m'.now ∧ (m.isShutDown → m'.isShutDown) := by
  cases hv : v.delivery? with
  | some d =>
    have hcut : m'.cut = m.cut := cut_eq_of_move? hv hm
    have hover := congrArg Monitor.handOver hcut
    have hnow := congrArg Monitor.now hcut
    have hshut := congrArg Monitor.isShutDown hcut
    exact ⟨hover, Nat.le_of_eq hnow.symm, fun h => hshut.trans h⟩
  | none =>
    cases v with
    | advance ms => cases hm; exact ⟨rfl, Nat.le_add_right _ _, id⟩
    | beginCycle isCancelled fetched =>
      cases hm
      obtain ⟨hover, hnow, hshut⟩ := frame_beginCycle m isCancelled fetched
      exact ⟨hover, Nat.le_of_eq hnow.symm, fun h => hshut ▸ h⟩
    | abandonFetch e => cases hm; exact ⟨rfl, Nat.le_refl _, id⟩
    | arrive n =>
      obtain ⟨s, hs, rfl⟩ := Option.map_eq_some_iff.mp hm
      obtain ⟨-, -, -, -, -, hnow⟩ := Checker.Session.goesOn_of_arrive? hs
      exact ⟨rfl, Nat.le_of_eq hnow.symm, id⟩
    | probed n r =>
      obtain ⟨s, hs, rfl⟩ := Option.map_eq_some_iff.mp hm
      obtain ⟨-, -, -, -, -, hnow⟩ := Checker.Session.goesOn_of_probed? hs
      exact ⟨rfl, Nat.le_of_eq hnow.symm, id⟩
    | handIn n =>
      simp only [move?, handIn?, Option.bind_eq_bind, Option.bind_eq_some_iff] at hm
      obtain ⟨⟨⟨k, o, ended⟩, s⟩, hs, hm⟩ := hm
      obtain ⟨-, rfl⟩ := Checker.Session.handIn?_eq_some hs
      split at hm
      · simp only [Option.bind_eq_some_iff, Option.some.injEq] at hm
        obtain ⟨c, -, rfl⟩ := hm
        exact ⟨rfl, Nat.le_refl _, id⟩
      · cases hm
        exact ⟨rfl, Nat.le_refl _, id⟩
    | take n =>
      simp only [move?, Option.bind_eq_bind, Option.bind_eq_some_iff, Option.some.injEq] at hm
      obtain ⟨c, -, c', -, rfl⟩ := hm
      exact ⟨rfl, Nat.le_refl _, id⟩
    | saved n success =>
      simp only [move?, Option.bind_eq_bind, Option.bind_eq_some_iff, Option.some.injEq] at hm
      obtain ⟨c, -, ⟨r, c'⟩, -, rfl⟩ := hm
      cases success with
      | false => exact ⟨rfl, Nat.le_refl _, id⟩
      | true =>
        rw [afterSave_true]
        dsimp only
        split <;> exact ⟨rfl, Nat.le_refl _, id⟩
    | complete n =>
      simp only [move?, Option.bind_eq_bind, Option.bind_eq_some_iff, Option.ite_none_right_eq_some,
        Option.some.injEq] at hm
      obtain ⟨c, -, -, rfl⟩ := hm
      exact ⟨rfl, Nat.le_refl _, id⟩
    | stop n e =>
      obtain ⟨c, -, rfl⟩ := Option.map_eq_some_iff.mp hm
      exact ⟨rfl, Nat.le_refl _, id⟩
    | shutDown => cases hm; exact ⟨rfl, Nat.le_refl _, fun _ => rfl⟩
    | call | called | giveUp => cases hv

/-! ### What is known of deliveries -/

/-- What a log tells of calls fits the deliveries under way, and no delivery has called more often than it may. -/
structure Attempted (m : Monitor) : Prop where
  given : ∀ d x, m.deliveries.get? d = some x → d < m.nextDelivery
  began : ∀ d x, m.deliveries.get? d = some x → x.began ≤ m.now
  counted : ∀ d x, m.deliveries.get? d = some x → calls d m.log = x.calls
  more : ∀ d x, m.deliveries.get? d = some x → x.isWaiting → x.calls < m.handOver.policy.maxAttempts.toNat
  fresh : ∀ d, m.nextDelivery ≤ d → calls d m.log = 0
  bound : ∀ d, calls d m.log ≤ m.handOver.policy.maxAttempts.toNat

namespace Attempted

theorem start (handOver : HandOver) (epoch : Instant) (checker : Checker) :
    Attempted (.start handOver epoch checker) where
  given _ _ h := by cases h
  began _ _ h := by cases h
  counted _ _ h := by cases h
  more _ _ h := by cases h
  fresh _ _ := rfl
  bound _ := Nat.zero_le _

theorem change (h : Attempted m) (hpos : 0 < m.handOver.policy.maxAttempts.toNat) (hc : CycleChange m m')
    (hover : m'.handOver = m.handOver) (hnow : m.now ≤ m'.now) : Attempted m' := by
  have hcalls (d : Nat) : calls d m'.log = calls d m.log := hc.calls_eq d
  refine ⟨fun d x hx => ?_, fun d x hx => ?_, fun d x hx => ?_, fun d x hx hw => ?_, fun d hd => ?_, fun d => ?_⟩
  · rcases hc.begins hx with hx | ⟨-, hlt, -⟩
    · exact Nat.lt_of_lt_of_le (h.given d x hx) hc.nextDelivery_le
    · exact hlt
  · rcases hc.begins hx with hx | ⟨-, -, c, r, rfl⟩
    · exact Nat.le_trans (h.began d x hx) hnow
    · exact hnow
  · rw [hcalls]
    rcases hc.begins hx with hx | ⟨hle, -, c, r, rfl⟩
    · exact h.counted d x hx
    · exact h.fresh d hle
  · rw [hover]
    rcases hc.begins hx with hx | ⟨-, -, c, r, rfl⟩
    · exact h.more d x hx hw
    · exact hpos
  · rw [hcalls]
    exact h.fresh d (Nat.le_trans hc.nextDelivery_le hd)
  · rw [hcalls, hover]
    exact h.bound d

/-- A move of one delivery, that was under way: all that has to be shown is about its own calls. -/
theorem update (h : Attempted m) {x : Delivery} (hx : m.deliveries.get? d = some x) (hcut : m'.cut = m.cut)
    (hothers : ∀ e y, e ≠ d → m'.deliveries.get? e = some y → m.deliveries.get? e = some y)
    (hlog : ∀ e, e ≠ d → calls e m'.log = calls e m.log)
    (hself : ∀ x', m'.deliveries.get? d = some x' → x'.began = x.began ∧ calls d m'.log = x'.calls ∧
      (x'.isWaiting → x'.calls < m.handOver.policy.maxAttempts.toNat))
    (hbound : calls d m'.log ≤ m.handOver.policy.maxAttempts.toNat) : Attempted m' := by
  have hover : m'.handOver = m.handOver := (congrArg Monitor.handOver hcut :)
  have hnext : m'.nextDelivery = m.nextDelivery := (congrArg Monitor.nextDelivery hcut :)
  have hnow : m'.now = m.now := (congrArg Monitor.now hcut :)
  refine ⟨fun e y hy => ?_, fun e y hy => ?_, fun e y hy => ?_, fun e y hy hw => ?_, fun e he => ?_, fun e => ?_⟩
  · rw [hnext]
    by_cases hed : e = d
    · exact hed ▸ h.given d x hx
    · exact h.given e y (hothers e y hed hy)
  · rw [hnow]
    by_cases hed : e = d
    · subst hed
      rw [(hself y hy).1]
      exact h.began e x hx
    · exact h.began e y (hothers e y hed hy)
  · by_cases hed : e = d
    · subst hed
      exact (hself y hy).2.1
    · rw [hlog e hed]
      exact h.counted e y (hothers e y hed hy)
  · rw [hover]
    by_cases hed : e = d
    · subst hed
      exact (hself y hy).2.2 hw
    · exact h.more e y (hothers e y hed hy) hw
  · rw [hnext] at he
    have hed : e ≠ d := by
      have := h.given d x hx
      omega
    rw [hlog e hed]
    exact h.fresh e he
  · rw [hover]
    by_cases hed : e = d
    · exact hed ▸ hbound
    · rw [hlog e hed]
      exact h.bound e

theorem move (h : Attempted m) (hpos : 0 < m.handOver.policy.maxAttempts.toNat) (hm : m.move? v = some m') :
    Attempted m' := by
  obtain ⟨hover, hnow, -⟩ := frame_of_move? hm
  cases handling_of_move? hm with
  | cycle other change => exact h.change hpos change hover hnow
  | call d x underWay waiting inTime goesOn rest log deliveries =>
    have hcalls : calls d m'.log = x.calls + 1 := by
      rw [log, calls_called, if_pos rfl, h.counted d x underWay]
    refine h.update underWay rest (fun e y he hy => ?_) (fun e he => ?_) (fun x' hx' => ?_) ?_
    · rw [deliveries, Dict.get?_insert_of_ne he] at hy
      exact hy
    · rw [log, calls_called, if_neg (Ne.symm he), Nat.add_zero]
    · rw [deliveries, Dict.get?_insert_self, Option.some.injEq] at hx'
      subst hx'
      exact ⟨rfl, hcalls, nofun⟩
    · rw [hcalls]
      exact h.more d x underWay waiting
  | retry d x due underWay calling more rest log deliveries =>
    have hcalls : calls d m'.log = x.calls := by rw [log, h.counted d x underWay]
    refine h.update underWay rest (fun e y he hy => ?_) (fun e he => by rw [log]) (fun x' hx' => ?_) ?_
    · rw [deliveries, Dict.get?_insert_of_ne he] at hy
      exact hy
    · rw [deliveries, Dict.get?_insert_self, Option.some.injEq] at hx'
      subst hx'
      exact ⟨rfl, hcalls, fun _ => more⟩
    · rw [hcalls]
      exact Nat.le_of_lt more
  | finish d x ends underWay rest log deliveries =>
    have hcalls (e : Nat) : calls e m'.log = calls e m.log := by
      rcases log with log | log
      · rw [log]
      · rw [log, calls_delivered]
    refine h.update underWay rest (fun e y he hy => ?_) (fun e _ => hcalls e) (fun x' hx' => ?_) ?_
    · rw [deliveries] at hy
      exact (Dict.eq_some_of_get?_erase hy).2
    · rw [deliveries, Dict.get?_erase_self] at hx'
      cases hx'
    · rw [hcalls]
      exact h.bound d

theorem of_run {handOver : HandOver} {epoch : Instant} {checker : Checker}
    (hm : (Monitor.start handOver epoch checker).moves? ms = some m) :
    m.handOver = { handOver with policy := handOver.policy.normalized } ∧ Attempted m := by
  have hpos : 0 < handOver.policy.normalized.maxAttempts.toNat :=
    UInt32.lt_iff_toNat_lt.mp handOver.policy.maxAttempts_normalized_pos
  have hstep (s : Monitor) (v : Move) (s' : Monitor)
      (hs : s.handOver = { handOver with policy := handOver.policy.normalized } ∧ Attempted s)
      (hv : s.move? v = some s') :
      s'.handOver = { handOver with policy := handOver.policy.normalized } ∧ Attempted s' := by
    obtain ⟨hover, hs⟩ := hs
    have hpos : 0 < s.handOver.policy.maxAttempts.toNat := by rwa [hover]
    exact ⟨(frame_of_move? hv).1.trans hover, hs.move hpos hv⟩
  exact keeps_of_run hstep ms ⟨rfl, start handOver epoch checker⟩ hm

end Attempted

/-! ### Deliveries that call no more -/

theorem not_mem_of_isShutDown (h : m.isShutDown) (hm : m.moves? ms = some m') (d : Nat) : .call d ∉ ms := by
  have hkeeps (s : Monitor) (v : Move) (s' : Monitor) (hs : s.isShutDown) (hv : s.move? v = some s') :
      s'.isShutDown :=
    (frame_of_move? hv).2.2 hs
  refine not_mem_of_run (P := fun s => s.isShutDown) hkeeps (fun s hs => ?_) ms h hm
  rw [move?, if_pos hs]
  rfl

/-- A delivery under way after a move was so before, or begins with it. -/
theorem began_of_move? (hm : m.move? v = some m') (hd : d < m.nextDelivery) {x' : Delivery}
    (hx' : m'.deliveries.get? d = some x') : ∃ x, m.deliveries.get? d = some x ∧ x'.began = x.began := by
  cases handling_of_move? hm with
  | cycle other change =>
    rcases change.begins hx' with hx | ⟨hle, -⟩
    · exact ⟨x', hx, rfl⟩
    · omega
  | call e x underWay waiting inTime goesOn rest log deliveries =>
    rw [deliveries] at hx'
    rcases Dict.eq_some_of_get?_insert hx' with ⟨rfl, rfl⟩ | ⟨-, hx⟩
    · exact ⟨x, underWay, rfl⟩
    · exact ⟨x', hx, rfl⟩
  | retry e x due underWay calling more rest log deliveries =>
    rw [deliveries] at hx'
    rcases Dict.eq_some_of_get?_insert hx' with ⟨rfl, rfl⟩ | ⟨-, hx⟩
    · exact ⟨x, underWay, rfl⟩
    · exact ⟨x', hx, rfl⟩
  | finish e x ends underWay rest log deliveries =>
    rw [deliveries] at hx'
    exact ⟨x', (Dict.eq_some_of_get?_erase hx').2, rfl⟩

theorem nextDelivery_le_of_move? (hm : m.move? v = some m') : m.nextDelivery ≤ m'.nextDelivery := by
  cases handling_of_move? hm with
  | cycle other change => exact change.nextDelivery_le
  | call _ _ _ _ _ _ rest | retry _ _ _ _ _ _ rest | finish _ _ _ _ rest =>
    exact Nat.le_of_eq (congrArg Monitor.nextDelivery rest).symm

theorem log_suffix_of_move? (hm : m.move? v = some m') : m.log <:+ m'.log := by
  cases handling_of_move? hm with
  | cycle other change => exact change.log_suffix
  | call d x underWay waiting inTime goesOn rest log => exact ⟨[_], log.symm⟩
  | retry d x due underWay calling more rest log => exact ⟨[], log.symm⟩
  | finish d x ends underWay rest log =>
    rcases log with log | log
    · exact ⟨[], log.symm⟩
    · exact ⟨[_], log.symm⟩

/-- That a delivery has begun and is over or out of time. -/
def Silent (d : Nat) (m : Monitor) : Prop :=
  d < m.nextDelivery ∧ ∀ x, m.deliveries.get? d = some x → x.deadline m.handOver.limit < m.now

namespace Silent

theorem move (h : Silent d m) (hm : m.move? v = some m') : Silent d m' := by
  obtain ⟨hd, hlate⟩ := h
  obtain ⟨hover, hnow, -⟩ := frame_of_move? hm
  refine ⟨Nat.lt_of_lt_of_le hd (nextDelivery_le_of_move? hm), fun x' hx' => ?_⟩
  obtain ⟨x, hx, hbegan⟩ := began_of_move? hm hd hx'
  rw [hover, Delivery.deadline, hbegan]
  exact Nat.lt_of_lt_of_le (hlate x hx) hnow

theorem move?_call (h : Silent d m) : m.move? (.call d) = none := by
  cases hm : m.move? (.call d) with
  | none => rfl
  | some m' =>
    cases handling_of_move? hm with
    | cycle other => cases other
    | call _ x underWay waiting inTime => exact absurd inTime (Nat.not_le.mpr (h.2 x underWay))
    | finish e x ends => cases ends

theorem not_mem (h : Silent d m) (hm : m.moves? ms = some m') : .call d ∉ ms := by
  have hkeeps (s : Monitor) (v : Move) (s' : Monitor) (hs : Silent d s) (hv : s.move? v = some s') : Silent d s' :=
    hs.move hv
  exact not_mem_of_run hkeeps (fun _ hs => hs.move?_call) ms h hm

/-- A delivery is over with its first call that succeeds. -/
theorem of_called (h : Attempted m) (hm : m.move? (.called d true) = some m') : Silent d m' := by
  have hle := nextDelivery_le_of_move? hm
  cases handling_of_move? hm with
  | cycle other => cases other
  | finish e x ends underWay rest log deliveries =>
    cases ends
    refine ⟨Nat.lt_of_lt_of_le (h.given d x underWay) hle, fun y hy => ?_⟩
    rw [deliveries, Dict.get?_erase_self] at hy
    cases hy

/-- A delivery is out of time when more than its limit has passed since it was known. -/
theorem of_late (h : Attempted m) (hd : d < m.nextDelivery) (hm : m.moves? ms = some m')
    (hlate : m.now + m.handOver.limit < m'.now) : Silent d m' := by
  let P (s : Monitor) : Prop := s.handOver = m.handOver ∧ d < s.nextDelivery ∧
    ∀ x, s.deliveries.get? d = some x → x.began ≤ m.now
  have hstep (s : Monitor) (v : Move) (s' : Monitor) (hs : P s) (hv : s.move? v = some s') : P s' := by
    obtain ⟨hover, hlt, hbegan⟩ := hs
    refine ⟨(frame_of_move? hv).1.trans hover, Nat.lt_of_lt_of_le hlt (nextDelivery_le_of_move? hv), fun x' hx' => ?_⟩
    obtain ⟨x, hx, hx'⟩ := began_of_move? hv hlt hx'
    exact hx' ▸ hbegan x hx
  obtain ⟨hover, hlt, hbegan⟩ := keeps_of_run hstep ms ⟨rfl, hd, h.began d⟩ hm
  refine ⟨hlt, fun x hx => ?_⟩
  have hx := hbegan x hx
  rw [hover, Delivery.deadline]
  omega

end Silent

end Monitor

end EndpointWatch
