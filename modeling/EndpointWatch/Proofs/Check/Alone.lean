import EndpointWatch.Proofs.Check.Course
import EndpointWatch.Proofs.Retry.Cut

/-!
# A check with nothing beside it

`Checker.check` is a check whose turns come one after the other: it arrives, and each of its probes begins at its time
and ends once it has lasted (`moves?_alone`).
-/

namespace EndpointWatch.Checker

variable {c : Checker} {e : Endpoint} {now : Nat} {probe : Nat → ProbeCall} {draw : Nat → Nat}

theorem isSome_wait?_iff {p : Retry.Policy Float} {attempt : UInt32} (h : attempt < p.maxAttempts) :
    (p.wait? (attempt.toNat + 1)).isSome ↔ attempt + 1 < p.maxAttempts := by
  rw [UInt32.lt_iff_toNat_lt, Retry.toNat_add_one_of_lt h, Retry.Policy.wait?]
  split <;> simp [*]

namespace Session

variable {s : Session} {n serial made since : Nat} {k : Check}

theorem arrive?_of_spawned (hk : s.underWay.get? n = some k) (hstage : k.stage = .spawned) :
    s.arrive? n = some ({ s with checker := (s.checker.arrive k.endpoint s.now).2 }.proceed n k
      (stageOf s.now (s.checker.arrive k.endpoint s.now).1)) := by
  simp only [arrive?, hk, hstage]
  generalize s.checker.arrive k.endpoint s.now = p
  obtain ⟨_ | _, checker⟩ := p <;> rfl

theorem exists_probed? (hk : s.underWay.get? n = some k) (hstage : k.stage = .probing serial made since)
    (hnow : since ≤ s.now) (r : Except ProbeError Answered) : ∃ t, s.probed? n r = some t := by
  simp only [probed?, hk, hstage, if_neg (Nat.not_lt.mpr hnow)]
  exact ⟨_, rfl⟩

theorem advance_sub {time : Nat} (h : s.now ≤ time) : s.advance (time - s.now) = { s with now := time } := by
  rw [advance, Nat.add_sub_cancel' h]

end Session

namespace Course

/-- The turns of a check whose probes from number `i` on begin at the given times, from the time `now` on. -/
def turns (id : Int64) (rank : Nat) (probe : Nat → ProbeCall) (draw : Nat → Nat) : (now i : Nat) → List Nat → List Move
  | _, _, [] => []
  | now, i, start :: starts =>
    let call := probe i
    .advance (start + call.lasts - now) :: .probed id rank call.lasts call.result (draw i) ::
      turns id rank probe draw (start + call.lasts) (i + 1) starts

/-- The course after a check has ended, with the register that it leaves. -/
def endCheck (n rank : Nat) (k : Check) (o : CheckOutcome) (ended : Nat) (checker : Checker) (c : Course) : Course where
  session := { c.session with checker, now := ended }.proceed n k (.done o ended)
  arrivals := c.arrivals
  log := c.log ++ [(k.endpoint.id, .ended rank k.endpoint o ended
    ((checker.guards.get? k.endpoint.id).map Guard.breaker))]

variable {c : Course} {n rank serial made since : Nat} {k : Check} {call : ProbeCall}

theorem move?_probed {t : Session} (hn : (numbers k.endpoint.id c.arrivals)[rank]? = some n)
    (hk : c.session.underWay.get? n = some k) (hstage : k.stage = .probing serial made since)
    (hnow : since + call.lasts = c.session.now) (ht : c.session.probed? n call.result = some t) (drawn : Nat) :
    c.move? (.probed k.endpoint.id rank call.lasts call.result drawn) =
      some (({ c with session := t.redraw n drawn } : Course).tell k.endpoint.id rank n) := by
  simp only [move?, hn, hk, probing?, hstage, hnow, if_true, ht, Option.bind_eq_bind, Option.bind_some]

/-- A probe of a check begins at its time and lasts as long as it does. -/
theorem moves?_probed (hn : (numbers k.endpoint.id c.arrivals)[rank]? = some n)
    (hk : c.session.underWay.get? n = some k) (hstage : k.stage = .probing serial made since)
    (hnow : c.session.now ≤ since) (drawn : Nat) (ms : List Move) : ∃ t,
      ({ c.session with now := since + call.lasts } : Session).probed? n call.result = some t ∧
      c.moves? (.advance (since + call.lasts - c.session.now) ::
          .probed k.endpoint.id rank call.lasts call.result drawn :: ms) =
        (({ c with session := t.redraw n drawn } : Course).tell k.endpoint.id rank n).moves? ms := by
  let c₁ : Course := { c with session := { c.session with now := since + call.lasts } }
  have hadvance : c.move? (.advance (since + call.lasts - c.session.now)) = some c₁ := by
    rw [move?, Session.advance_sub (Nat.le_add_right_of_le hnow)]
  obtain ⟨t, ht⟩ := Session.exists_probed? (s := c₁.session) hk hstage (Nat.le_add_right ..) call.result
  refine ⟨t, ht, ?_⟩
  rw [moves?, List.foldlM_cons, hadvance]
  show (_ :: ms).foldlM move? c₁ = _
  rw [List.foldlM_cons, move?_probed (c := c₁) hn hk hstage rfl ht drawn]
  rfl

/-- The last probe of a check. -/
theorem moves?_last {v : Except (Retry.Stop ProbeError) Answered}
    (hn : (numbers k.endpoint.id c.arrivals)[rank]? = some n) (hk : c.session.underWay.get? n = some k)
    (hstage : k.stage = .probing serial made since) (hnow : c.session.now ≤ since)
    (hv : c.session.checker.verdict? made call.result = some v) (drawn : Nat) :
    c.moves? [.advance (since + call.lasts - c.session.now), .probed k.endpoint.id rank call.lasts call.result drawn] =
      some (c.endCheck n rank k (c.session.checker.outcome k.endpoint.id v) (since + call.lasts)
        (c.session.checker.record k.endpoint.id serial (since + call.lasts) v.isOk)) := by
  obtain ⟨t, ht, hm⟩ := moves?_probed hn hk hstage hnow drawn []
  rw [hm, Session.redraw_probed?_of_verdict? (s := { c.session with now := since + call.lasts }) hk hstage hv ht, tell,
    Session.get?_proceed, if_pos rfl]
  rfl

/-- A probe of a check that another one follows. -/
theorem moves?_next {next drawn : Nat} (hn : (numbers k.endpoint.id c.arrivals)[rank]? = some n)
    (hk : c.session.underWay.get? n = some k) (hstage : k.stage = .probing serial made since)
    (hnow : c.session.now ≤ since) (hv : c.session.checker.verdict? made call.result = none)
    (hnext : since + call.lasts + Retry.ticks (c.session.checker.policy.pause made.toUInt32 drawn) = next)
    (ms : List Move) : c.moves? (.advance (since + call.lasts - c.session.now) ::
        .probed k.endpoint.id rank call.lasts call.result drawn :: ms) =
      ({ c with
        session := { c.session with now := since + call.lasts }.proceed n k (.probing serial (made + 1) next)
        log := c.log ++ [(k.endpoint.id, .began rank next)] } : Course).moves? ms := by
  obtain ⟨t, ht, hm⟩ := moves?_probed hn hk hstage hnow drawn ms
  rw [hm, Session.redraw_probed?_of_verdict?_eq_none (s := { c.session with now := since + call.lasts }) hk hstage hv ht,
    tell, Session.get?_proceed, if_pos rfl, ← hnext]
  rfl

theorem endCheck_proceed (stage : Check.Stage) (now : Nat) (log : List (Int64 × Event)) (o : CheckOutcome) (ended : Nat)
    (checker : Checker) :
    ({ c with session := { c.session with now }.proceed n k stage, log } : Course).endCheck n rank { k with stage } o ended
      checker = ({ c with log } : Course).endCheck n rank k o ended checker := by
  simp only [endCheck, Session.proceed, Dict.insert_insert]

/-- That a check which makes the probe after `made` others from `since` on goes through the probes of a run, and ends as
this does. -/
structure GoesThrough (p : Retry.Policy Float) (probe : Nat → ProbeCall) (draw : Nat → Nat) (made since : Nat)
    (r : Retry.Run ProbeError Answered) : Prop where
  moves? : ∀ {c : Course} {n rank serial : Nat} {k : Check}, c.session.checker.policy = p →
    (numbers k.endpoint.id c.arrivals)[rank]? = some n → c.session.underWay.get? n = some k →
    k.stage = .probing serial made since → c.session.now ≤ since →
      c.moves? (turns k.endpoint.id rank probe draw c.session.now made r.starts) =
        some (({ c with log := c.log ++ r.starts.tail.map fun start => (k.endpoint.id, .began rank start) } :
          Course).endCheck n rank k (c.session.checker.outcome k.endpoint.id r.result) r.ended
          (c.session.checker.record k.endpoint.id serial r.ended r.result.isOk))

theorem goesThrough_last {p : Retry.Policy Float} {v : Except (Retry.Stop ProbeError) Answered}
    (hv : ∀ c : Checker, c.policy = p → c.verdict? made (probe made).result = some v) (failed : UInt32) :
    GoesThrough p probe draw made since ⟨[since], failed, since + (probe made).lasts, v⟩ := by
  refine ⟨fun {c n rank serial k} hp hn hk hstage hnow => ?_⟩
  rw [List.tail_cons, List.map_nil, List.append_nil]
  exact moves?_last hn hk hstage hnow (hv _ hp) _

theorem GoesThrough.after {p : Retry.Policy Float} {next : Nat} {r : Retry.Run ProbeError Answered}
    (h : GoesThrough p probe draw (made + 1) next r) (hstarts : r.starts = next :: r.starts.tail)
    (hnext : since + (probe made).lasts + Retry.ticks (p.pause made.toUInt32 (draw made)) = next)
    (hv : ∀ c : Checker, c.policy = p → c.verdict? made (probe made).result = none) :
    GoesThrough p probe draw made since (r.after since) := by
  refine ⟨fun {c n rank serial k} hp hn hk hstage hnow => ?_⟩
  let k₁ : Check := { k with stage := .probing serial (made + 1) next }
  let c₁ : Course := { c with
    session := { c.session with now := since + (probe made).lasts }.proceed n k k₁.stage
    log := c.log ++ [(k.endpoint.id, .began rank next)] }
  have hk₁ : c₁.session.underWay.get? n = some k₁ := Dict.get?_insert_self ..
  have hle : c₁.session.now ≤ next := hnext ▸ Nat.le_add_right ..
  have hlog : c₁.log ++ r.starts.tail.map (fun start => (k.endpoint.id, Event.began rank start)) =
      c.log ++ r.starts.map fun start => (k.endpoint.id, .began rank start) := by
    rw [hstarts]
    exact List.append_assoc ..
  have hrest := h.moves? (c := c₁) (k := k₁) hp hn hk₁ rfl hle
  refine (moves?_next hn hk hstage hnow (hv _ hp) (hp ▸ hnext) _).trans (hrest.trans ?_)
  show some (({ c₁ with log := _ } : Course).endCheck n rank k₁ _ _ _) = _
  rw [hlog, endCheck_proceed]
  rfl

theorem goesThrough_runFrom {p : Retry.Policy Float} {attempt : UInt32} (h : attempt < p.maxAttempts) :
    GoesThrough p probe draw attempt.toNat since (Retry.runFrom p probe draw attempt since h) := by
  fun_induction Retry.runFrom p probe draw attempt since h with
  | case1 attempt since h call ended v hv => exact goesThrough_last (fun c _ => by rw [hv, verdict?]) _
  | case2 attempt since h call ended e he h' ih =>
    obtain ⟨starts, hstarts⟩ := Retry.exists_starts_runFrom probe draw
      (ended + Retry.ticks (p.pause attempt (draw attempt.toNat))) h'
    rw [Retry.toNat_add_one_of_lt h] at ih
    refine ih.after ?_ ?_ fun c hp => ?_
    · rw [hstarts, List.tail_cons]
    · rw [show attempt.toNat.toUInt32 = attempt from UInt32.ofNat_toNat]
    · rw [he, verdict?, hp, if_pos ((isSome_wait?_iff h).mpr h')]
  | case3 attempt since h call ended e he h' =>
    refine goesThrough_last (fun c hp => ?_) _
    rw [he, verdict?, hp, if_neg (mt (isSome_wait?_iff h).mp h')]

/-- A check arrives. -/
theorem moves?_check (c : Course) (e : Endpoint) (ms : List Move) :
    let a := c.session.checker.arrive e c.session.now
    let k : Check := ⟨0, e, Session.stageOf c.session.now a.1⟩
    c.moves? (.check e :: ms) = ({
      session := ⟨a.2, c.session.now, c.session.underWay.insert c.session.nextCheck k, c.session.nextCheck + 1⟩
      arrivals := c.arrivals ++ [e]
      log := c.log ++ ((event? (numbers e.id c.arrivals).length ((a.2.guards.get? e.id).map Guard.breaker) k).map
        (e.id, ·)).toList } : Course).moves? ms := by
  intro a k
  have hk : (c.session.spawn 0 e).underWay.get? c.session.nextCheck = some ⟨0, e, .spawned⟩ := Dict.get?_insert_self ..
  rw [moves?, List.foldlM_cons, move?, Session.arrive?_of_spawned hk rfl]
  simp only [Option.bind_eq_bind, Option.bind_some, tell, Session.get?_proceed, if_true]
  simp only [Session.proceed, Session.spawn, Dict.insert_insert]
  rfl

/-- The probes of a check that has just been let in. -/
theorem moves?_of_admitted (hnormal : c.session.checker.policy = c.session.checker.policy.normalized)
    (hn : (numbers k.endpoint.id c.arrivals)[rank]? = some n) (hk : c.session.underWay.get? n = some k)
    (hstage : k.stage = .probing serial 0 c.session.now) (probe : Nat → ProbeCall) (draw : Nat → Nat) :
    let checker := c.session.checker
    let r := checker.policy.run probe c.session.now draw
    let told (start : Nat) : Int64 × Event := (k.endpoint.id, .began rank start)
    ({ c with log := c.log ++ [told c.session.now] } : Course).moves?
        (turns k.endpoint.id rank probe draw c.session.now 0 r.starts) =
      some (({ c with log := c.log ++ r.starts.map told } : Course).endCheck n rank k
        (checker.outcome k.endpoint.id r.result) r.ended (checker.record k.endpoint.id serial r.ended r.result.isOk)) := by
  intro checker r told
  have hthrough : GoesThrough checker.policy.normalized probe draw 0 c.session.now r :=
    goesThrough_runFrom checker.policy.maxAttempts_normalized_pos
  obtain ⟨starts, hstarts⟩ : ∃ starts, r.starts = c.session.now :: starts :=
    Retry.exists_starts_runFrom probe draw c.session.now checker.policy.maxAttempts_normalized_pos
  let c₁ : Course := { c with log := c.log ++ [told c.session.now] }
  refine (hthrough.moves? (c := c₁) hnormal hn hk hstage (Nat.le_refl _)).trans ?_
  rw [hstarts, List.tail_cons, List.append_assoc]
  rfl

/-- A check whose turns come one after the other does what `check` tells. -/
theorem moves?_alone {p : Retry.Policy Float} {t : Breaker.Settings} (h : Fits (.fresh p t) e.id c) :
    let rank := (numbers e.id c.arrivals).length
    let checked := c.session.checker.check e c.session.now probe draw
    c.moves? (.check e :: turns e.id rank probe draw c.session.now 0 checked.1.probes) = some
      { session := ⟨checked.2, checked.1.ended, c.session.underWay.insert c.session.nextCheck
          ⟨0, e, .done checked.1.outcome checked.1.ended⟩, c.session.nextCheck + 1⟩
        arrivals := c.arrivals ++ [e]
        log := c.log ++ checked.1.probes.map (fun start => (e.id, .began rank start)) ++ [(e.id, .ended rank e
          checked.1.outcome checked.1.ended ((checked.2.guards.get? e.id).map Guard.breaker))] } := by
  intro rank checked
  have hpolicy := (arrive_steady h.keeps e c.session.now).1.policy.trans h.policy
  rw [moves?_check]
  generalize ha : c.session.checker.arrive e c.session.now = a at hpolicy ⊢
  obtain ⟨f | serial, checker⟩ := a
  · have hchecked : checked = _ := check_of_refused ha
    rw [hchecked]
    simp [turns, moves?, Session.stageOf, event?, rank]
  · have hchecked : checked = _ := check_of_admitted ha
    have hnormal : checker.policy = checker.policy.normalized := by
      rw [hpolicy]
      exact p.normalized_normalized.symm
    have hn : (numbers e.id (c.arrivals ++ [e]))[rank]? = some c.session.nextCheck := by
      rw [numbers_concat, if_pos rfl, List.getElem?_append_right (Nat.le_refl _), Nat.sub_self, h.next]
      rfl
    let k : Check := ⟨0, e, .probing serial 0 c.session.now⟩
    let arrived : Course := ⟨⟨checker, c.session.now, c.session.underWay.insert c.session.nextCheck k,
      c.session.nextCheck + 1⟩, c.arrivals ++ [e], c.log⟩
    have hprobes := moves?_of_admitted (c := arrived) (k := k) hnormal hn (Dict.get?_insert_self ..) rfl probe draw
    rw [hchecked]
    refine hprobes.trans ?_
    rw [endCheck, Session.proceed, Dict.insert_insert]

end Course

end EndpointWatch.Checker
