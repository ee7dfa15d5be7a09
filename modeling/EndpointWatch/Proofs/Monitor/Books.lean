import EndpointWatch.Proofs.Check.Pending
import EndpointWatch.Proofs.Monitor.Ledger
import EndpointWatch.Proofs.Run

/-!
# The books of a monitor

`Books` says of all cycles of a monitor at once that their ledgers are in order: the ledger of a cycle under way fits
what the cycle and its checks hold, and the ledger of one that ended fits its report. Every move keeps the books,
however the cycles overlap (`Books.move`), and so does every run (`Books.of_run`).
-/

namespace EndpointWatch.Monitor

open Checker

/-- The ledgers of all cycles are in order, with or without an evaluator to hand results on to. -/
structure Books (hasEvaluator : Bool) (m : Monitor) : Prop where
  evaluator : m.handOver.hasEvaluator = hasEvaluator
  numbered : m.session.Numbered
  check_lt : ∀ i k, m.session.underWay.get? i = some k → k.cycle < m.nextCycle
  cycle_lt : ∀ n c, m.cycles.get? n = some c → n < m.nextCycle
  untouched : ∀ n, m.nextCycle ≤ n → ledger n m.log = .empty
  fair : ∀ n, (ledger n m.log).Fair hasEvaluator
  running : ∀ n c, m.cycles.get? n = some c → (ledger n m.log).Running (m.session.pending n) c
  settled : ∀ n r, .ok r ∈ (ledger n m.log).ended → (ledger n m.log).Settles r

theorem ledger_tell_of_ne {n : Nat} {h : Happening} (m : Monitor) (hn : h.cycle? ≠ some n) :
    ledger n (m.tell h).log = ledger n m.log :=
  Ledger.note_of_ne _ hn

/-- A saved result is broadcast and handed on. -/
theorem afterSave_true (m : Monitor) (n : Nat) (r : CheckResult) :
    m.afterSave n r true =
      let m₁ := ((m.tell (.saved n r)).tell (.broadcast n r)).handOn n .stream r
      if m.handOver.hasEvaluator then m₁.handOn n .evaluator r else m₁ := rfl

namespace Books

variable {b : Bool} {m m' : Monitor}

theorem start (handOver : HandOver) (epoch : Instant) (checker : Checker) :
    Books handOver.hasEvaluator (.start handOver epoch checker) where
  evaluator := rfl
  numbered i k hk := by cases hk
  check_lt i k hk := by cases hk
  cycle_lt n c hc := by cases hc
  untouched n _ := rfl
  fair n := .empty _
  running n c hc := by cases hc
  settled n r hr := absurd hr List.not_mem_nil

/-- A move that leaves cycles, checks and ledgers as they are. -/
theorem congr (h : Books b m) (ho : m'.handOver = m.handOver) (hs : m'.session = m.session) (hc : m'.cycles = m.cycles)
    (hn : m'.nextCycle = m.nextCycle) (hl : ∀ n, ledger n m'.log = ledger n m.log) : Books b m' := by
  refine ⟨ho ▸ h.evaluator, ?_, ?_, ?_, fun n hle => ?_, fun n => ?_, fun n c hg => ?_, fun n r hr => ?_⟩
  · rw [hs]; exact h.numbered
  · rw [hs, hn]; exact h.check_lt
  · rw [hc, hn]; exact h.cycle_lt
  · rw [hl]; exact h.untouched n (hn ▸ hle)
  · rw [hl]; exact h.fair n
  · rw [hl, hs]; exact h.running n c (hc ▸ hg)
  · rw [hl] at hr ⊢; exact h.settled n r hr

/-- A move of one cycle: all that has to be shown is about its own ledger. -/
theorem update (h : Books b m) (n : Nat) (ho : m'.handOver = m.handOver) (hnext : m'.nextCycle = m.nextCycle)
    (hlt : n < m.nextCycle) (hnum : m'.session.Numbered)
    (hcheck : ∀ i k, m'.session.underWay.get? i = some k → k.cycle < m.nextCycle)
    (hpend : ∀ j, j ≠ n → (m'.session.pending j).Perm (m.session.pending j))
    (hcyc : ∀ j, j ≠ n → m'.cycles.get? j = m.cycles.get? j)
    (hl : ∀ j, j ≠ n → ledger j m'.log = ledger j m.log)
    (hfair : (ledger n m'.log).Fair b)
    (hrun : ∀ c, m'.cycles.get? n = some c → (ledger n m'.log).Running (m'.session.pending n) c)
    (hset : ∀ r, .ok r ∈ (ledger n m'.log).ended → (ledger n m'.log).Settles r) : Books b m' := by
  refine ⟨ho ▸ h.evaluator, hnum, fun i k hk => hnext ▸ hcheck i k hk, fun j c hc => ?_, fun j hj => ?_, fun j => ?_,
    fun j c hc => ?_, fun j r hr => ?_⟩
  · rw [hnext]
    by_cases hj : j = n
    · exact hj ▸ hlt
    · exact h.cycle_lt j c (hcyc j hj ▸ hc)
  · rw [hnext] at hj
    rw [hl j (by omega)]
    exact h.untouched j hj
  · by_cases hj : j = n
    · exact hj ▸ hfair
    · rw [hl j hj]; exact h.fair j
  · by_cases hj : j = n
    · subst hj; exact hrun c hc
    · rw [hl j hj]
      exact (h.running j c (hcyc j hj ▸ hc)).perm (hpend j hj)
  · by_cases hj : j = n
    · subst hj; exact hset r hr
    · rw [hl j hj] at hr ⊢
      exact h.settled j r hr

theorem endCycle (h : Books b m) {n : Nat} {r : Except CycleError CycleReport} (hlt : n < m.nextCycle)
    (hopen : (ledger n m.log).ended = []) (hr : ∀ report, r = .ok report → (ledger n m.log).Settles report) :
    Books b (m.endCycle n r) := by
  have hself : ledger n (m.endCycle n r).log = { ledger n m.log with ended := [r] } := by
    simp [Monitor.endCycle, tell, Ledger.note, hopen]
  refine h.update n rfl rfl hlt h.numbered h.check_lt (fun _ _ => .refl _)
    (fun j hj => Dict.get?_erase_of_ne hj) (fun j hj => ledger_tell_of_ne _ fun he => hj (Option.some.inj he).symm)
    ?_ (fun c hc => ?_) (fun report hmem => ?_)
  · have hf := h.fair n
    rw [hself]
    exact ⟨hf.ids, hf.broadcast, hf.stream, hf.evaluator⟩
  · have hnone : (m.endCycle n r).cycles.get? n = none := Dict.get?_erase_self
    rw [hnone] at hc; cases hc
  · rw [hself] at hmem ⊢
    have hs := hr report (List.mem_singleton.mp hmem).symm
    exact ⟨hs.endpoints, hs.results, hs.persisted, hs.failed⟩

/-! ### Moves of checks -/

theorem goesOn (h : Books b m) {n : Nat} {s : Session} (hs : Session.GoesOn n m.session s) :
    Books b { m with session := s } := by
  have hback {i : Nat} {k : Check} (hk : s.underWay.get? i = some k) := hs.get?_eq_some hk
  obtain ⟨-, -, -, -, hnext, -⟩ := id hs
  refine ⟨h.evaluator, fun i k hk => ?_, fun i k hk => ?_, h.cycle_lt, h.untouched, h.fair, fun n c hc => ?_,
    h.settled⟩
  · obtain ⟨k', hk', -⟩ := hback hk
    exact hnext ▸ h.numbered i k' hk'
  · obtain ⟨k', hk', hc⟩ := hback hk
    exact hc ▸ h.check_lt i k' hk'
  · exact (h.running n c hc).perm (hs.pending_perm n)

theorem handIn (h : Books b m) {n : Nat} (hm : m.handIn? n = some m') : Books b m' := by
  simp only [handIn?, Option.bind_eq_bind, Option.bind_eq_some_iff] at hm
  obtain ⟨⟨⟨k, o, ended⟩, s⟩, hs, hm⟩ := hm
  have hp := Session.pending_perm_of_handIn? hs
  obtain ⟨hk, rfl⟩ := Session.handIn?_eq_some hs
  have hback {i : Nat} {k' : Check} (hk' : (m.session.underWay.erase n).get? i = some k') :
      m.session.underWay.get? i = some k' :=
    (Dict.eq_some_of_get?_erase hk').2
  have hpend (j : Nat) (hj : j ≠ k.cycle) := (if_neg (Ne.symm hj) ▸ hp j).symm
  split at hm
  · -- the cycle still runs and takes the result, for which it has room
    next c hc =>
    simp only [Cycle.deliver?, Option.bind_eq_some_iff, Option.ite_none_right_eq_some, Option.some.injEq] at hm
    obtain ⟨c', ⟨-, rfl⟩, rfl⟩ := hm
    have hr := (h.running _ c hc).perm (if_pos rfl ▸ hp k.cycle).symm
    refine h.update k.cycle rfl rfl (h.check_lt n k hk) (fun i k' hk' => h.numbered i k' (hback hk'))
      (fun i k' hk' => h.check_lt i k' (hback hk')) hpend (fun j hj => Dict.get?_insert_of_ne hj)
      (fun j hj => ledger_tell_of_ne _ fun he => hj (Option.some.inj he).symm)
      ((h.fair k.cycle).handIn (CheckOutcome.endpointId_result ..)) (fun c₁ hc₁ => ?_) (fun r hmem => ?_)
    · obtain rfl := Option.some.inj ((Dict.get?_insert_self ..).symm.trans hc₁)
      exact hr.handIn _
    · have hend := (hr.handIn (n := k.cycle) (o.result k.endpoint (m.instant ended))).ended
      exact absurd (hend ▸ hmem) List.not_mem_nil
  · -- the cycle was stopped, and the result is dropped
    next hc =>
    cases hm
    refine ⟨h.evaluator, fun i k' hk' => h.numbered i k' (hback hk'), fun i k' hk' => h.check_lt i k' (hback hk'),
      h.cycle_lt, h.untouched, h.fair, fun j c' hc' => ?_, h.settled⟩
    have hj : j ≠ k.cycle := fun hj => by rw [hj, hc] at hc'; cases hc'
    exact (h.running j c' hc').perm (hpend j hj)

/-! ### Moves of cycles -/

/-- A move that changes what one running cycle has under way and what its ledger tells. -/
theorem updateCycle (h : Books b m) {n : Nat} {c c' : Cycle} (hc : m.cycles.get? n = some c)
    (ho : m'.handOver = m.handOver) (hs : m'.session = m.session) (hnext : m'.nextCycle = m.nextCycle)
    (hcyc : m'.cycles = m.cycles.insert n c') (hl : ∀ j, j ≠ n → ledger j m'.log = ledger j m.log)
    (hfair : (ledger n m'.log).Fair b)
    (hrun : (ledger n m'.log).Running (m.session.pending n) c') : Books b m' := by
  refine h.update n ho hnext (h.cycle_lt n c hc) (hs ▸ h.numbered) (hs ▸ h.check_lt)
    (fun j _ => hs ▸ .refl _) (fun j hj => hcyc ▸ Dict.get?_insert_of_ne hj) hl hfair (fun c₁ hc₁ => ?_) (fun r hr => ?_)
  · rw [hcyc, Dict.get?_insert_self, Option.some.injEq] at hc₁
    exact hs ▸ hc₁ ▸ hrun
  · rw [hrun.ended] at hr
    exact absurd hr List.not_mem_nil

theorem take (h : Books b m) {n : Nat} {c c' : Cycle} (hc : m.cycles.get? n = some c) (ht : c.take? = some c') :
    Books b { m with cycles := m.cycles.insert n c' } :=
  h.updateCycle hc rfl rfl rfl rfl (fun _ _ => rfl) (h.fair n) ((h.running n c hc).take ht)

theorem afterSave_frame (m : Monitor) (n : Nat) (r : CheckResult) (success : Bool) :
    let m' := m.afterSave n r success
    m'.handOver = m.handOver ∧ m'.session = m.session ∧ m'.nextCycle = m.nextCycle ∧ m'.cycles = m.cycles ∧
      (∀ j, j ≠ n → ledger j m'.log = ledger j m.log) ∧
      ledger n m'.log = (ledger n m.log).save m.handOver.hasEvaluator r success := by
  intro m'
  have hne {j : Nat} (hj : j ≠ n) : n ≠ j := hj.symm
  cases success with
  | false =>
    refine ⟨rfl, rfl, rfl, rfl, fun j hj => if_neg (hne hj), if_pos rfl⟩
  | true =>
    rw [show m' = _ from afterSave_true m n r]
    rcases m.handOver.hasEvaluator with _ | _
    · exact ⟨rfl, rfl, rfl, rfl, fun j hj => by simp [handOn, tell, Ledger.note, hne hj],
        by simp [handOn, tell, Ledger.note, Ledger.save]⟩
    · exact ⟨rfl, rfl, rfl, rfl, fun j hj => by simp [handOn, tell, Ledger.note, hne hj],
        by simp [handOn, tell, Ledger.note, Ledger.save]⟩

theorem save (h : Books b m) {n : Nat} {c c' : Cycle} {r : CheckResult} {success : Bool}
    (hc : m.cycles.get? n = some c) (hs : c.saved? success = some (r, c')) :
    Books b ({ m with cycles := m.cycles.insert n c' }.afterSave n r success) := by
  obtain ⟨ho, hse, hn, hcy, hl, hself⟩ := afterSave_frame { m with cycles := m.cycles.insert n c' } n r success
  refine h.updateCycle hc ho hse hn hcy hl ?_ ?_ <;> rw [hself]
  · rw [show ({ m with cycles := m.cycles.insert n c' } : Monitor).handOver = m.handOver from rfl, h.evaluator]
    exact (h.fair n).save r success
  · exact (h.running n c hc).save hs _

/-! ### The beginning of a cycle -/

theorem number (h : Books b m) : Books b { m with nextCycle := m.nextCycle + 1 } :=
  ⟨h.evaluator, h.numbered, fun i k hk => Nat.lt_succ_of_lt (h.check_lt i k hk),
    fun n c hc => Nat.lt_succ_of_lt (h.cycle_lt n c hc), fun n hn => h.untouched n (Nat.le_of_succ_le hn), h.fair,
    h.running, h.settled⟩

/-- A cycle whose number is new begins with the endpoints `es`; no check is on its way yet. -/
theorem tellBegan (h : Books b m) {n : Nat} (es : List Endpoint) {s : Session} (hlt : n < m.nextCycle)
    (hempty : ledger n m.log = .empty) (hc : m.cycles.get? n = none) (hu : s.underWay = m.session.underWay)
    (hn : s.nextCheck = m.session.nextCheck) :
    Books b ({ m with session := s }.tell (.began n es)) ∧
      ledger n ({ m with session := s }.tell (.began n es)).log = { Ledger.empty with began := [es] } := by
  have hself : ledger n ({ m with session := s }.tell (.began n es)).log = { Ledger.empty with began := [es] } := by
    simp [tell, Ledger.note, hempty, Ledger.empty]
  refine ⟨h.update n rfl rfl hlt (fun i k hk => hn ▸ h.numbered i k (hu ▸ hk)) (fun i k hk => h.check_lt i k (hu ▸ hk))
    (fun j _ => .of_eq (congrArg (fun d : Dict Nat Check => d.values.filterMap (Session.endpointIn? j)) hu))
    (fun _ _ => rfl)
    (fun j hj => ledger_tell_of_ne _ fun he => hj (Option.some.inj he).symm) ?_ (fun c hg => ?_) (fun r hr => ?_), hself⟩
  · have hf := h.fair n
    rw [hempty] at hf
    rw [hself]
    exact ⟨hf.ids, hf.broadcast, hf.stream, hf.evaluator⟩
  · cases hc.symm.trans hg
  · rw [hself] at hr
    exact absurd hr List.not_mem_nil

/-- The checks of a cycle that has begun are put on their way. -/
theorem spawnAll (h : Books b m) {n : Nat} {es : List Endpoint} (hlt : n < m.nextCycle)
    (hl : ledger n m.log = { Ledger.empty with began := [es] }) (hp : m.session.pending n = []) :
    Books b { m with session := m.session.spawnAll n es, cycles := m.cycles.insert n (.start es.length) } := by
  have hpend (j : Nat) := Session.pending_spawnAll (n := n) h.numbered es j
  have hpn : (m.session.spawnAll n es).pending n |>.Perm es := by
    have := hpend n
    rwa [if_pos rfl, hp, List.append_nil] at this
  have hpne (j : Nat) (hj : j ≠ n) : ((m.session.spawnAll n es).pending j).Perm (m.session.pending j) := by
    have := hpend j
    rwa [if_neg hj.symm] at this
  refine h.update n rfl rfl hlt (h.numbered.spawnAll es) (fun i k hk => ?_) hpne (fun j hj => Dict.get?_insert_of_ne hj)
    (fun _ _ => rfl) (h.fair n) (fun c hc => ?_) (h.settled n)
  · rcases Session.cycle_of_spawnAll es hk with hk | hk
    · exact hk ▸ hlt
    · exact h.check_lt i k hk
  · obtain rfl := Option.some.inj ((Dict.get?_insert_self ..).symm.trans hc)
    show (ledger n m.log).Running _ _
    rw [hl]
    exact ⟨⟨es, rfl, rfl, hpn⟩, hpn.length_eq.symm, rfl, rfl, rfl, rfl, rfl⟩

theorem abandonFetch (h : Books b m) (e : CycleError) : Books b (m.abandonFetch e) :=
  h.number.endCycle (Nat.lt_succ_self _) (congrArg Ledger.ended (h.untouched _ (Nat.le_refl _))) nofun

theorem beginCycle (h : Books b m) (isCancelled : Bool) (fetched : Except StorageError (List Endpoint)) :
    Books b (m.beginCycle isCancelled fetched) := by
  have hempty : ledger m.nextCycle m.log = .empty := h.untouched _ (Nat.le_refl _)
  have hnone : m.cycles.get? m.nextCycle = none := by
    rcases hg : m.cycles.get? m.nextCycle with _ | c
    · rfl
    · exact absurd (h.cycle_lt _ c hg) (Nat.lt_irrefl _)
  have hpend : m.session.pending m.nextCycle = [] :=
    Session.pending_eq_nil fun i k hk => Nat.ne_of_lt (h.check_lt i k hk)
  have hended : (ledger m.nextCycle m.log).ended = [] := congrArg Ledger.ended hempty
  unfold Monitor.beginCycle
  simp only []
  split
  · exact h.number.endCycle (Nat.lt_succ_self _) hended fun _ hr => by cases hr
  · rcases fetched with e | es
    · exact h.number.endCycle (Nat.lt_succ_self _) hended fun _ hr => by cases hr
    · obtain ⟨hb, hl⟩ := h.number.tellBegan es (s := m.session.retain (es.map Endpoint.id))
        (Nat.lt_succ_self _) hempty hnone rfl rfl
      simp only []
      split
      · next he =>
        obtain rfl : es = [] := List.isEmpty_iff.mp he
        refine hb.endCycle (Nat.lt_succ_self _) (congrArg Ledger.ended hl) fun report hr => ?_
        cases hr
        rw [hl]
        exact ⟨⟨[], rfl, rfl, .refl _⟩, rfl, rfl, rfl⟩
      · exact hb.spawnAll (Nat.lt_succ_self _) hl hpend

/-! ### Runs -/

theorem move (h : Books b m) {v : Move} (hm : m.move? v = some m') : Books b m' := by
  cases v with
  | advance ms =>
    cases hm
    exact ⟨h.evaluator, h.numbered, h.check_lt, h.cycle_lt, h.untouched, h.fair, h.running, h.settled⟩
  | beginCycle isCancelled fetched => cases hm; exact h.beginCycle isCancelled fetched
  | abandonFetch e => cases hm; exact h.abandonFetch e
  | arrive n =>
    obtain ⟨s, hs, rfl⟩ := Option.map_eq_some_iff.mp hm
    exact h.goesOn (Session.goesOn_of_arrive? hs)
  | probed n r =>
    obtain ⟨s, hs, rfl⟩ := Option.map_eq_some_iff.mp hm
    exact h.goesOn (Session.goesOn_of_probed? hs)
  | handIn n => exact h.handIn hm
  | take n =>
    simp only [move?, Option.bind_eq_bind, Option.bind_eq_some_iff, Option.some.injEq] at hm
    obtain ⟨c, hc, c', ht, rfl⟩ := hm
    exact h.take hc ht
  | saved n success =>
    simp only [move?, Option.bind_eq_bind, Option.bind_eq_some_iff, Option.some.injEq] at hm
    obtain ⟨c, hc, ⟨r, c'⟩, hs, rfl⟩ := hm
    exact h.save hc hs
  | complete n =>
    simp only [move?, Option.bind_eq_bind, Option.bind_eq_some_iff, Option.ite_none_right_eq_some,
      Option.some.injEq] at hm
    obtain ⟨c, hc, hcomplete, rfl⟩ := hm
    have hr := h.running n c hc
    refine h.endCycle (h.cycle_lt n c hc) hr.ended fun report he => ?_
    cases he
    exact hr.settles hcomplete
  | stop n e =>
    obtain ⟨c, hc, rfl⟩ := Option.map_eq_some_iff.mp hm
    exact h.endCycle (h.cycle_lt n c hc) (h.running n c hc).ended fun _ hr => by cases hr
  | call n =>
    simp only [move?, Option.bind_eq_bind] at hm
    split at hm
    · cases hm
    · simp only [Option.bind_eq_some_iff, Option.some.injEq] at hm
      obtain ⟨d, -, d', -, rfl⟩ := hm
      exact h.congr rfl rfl rfl rfl fun _ => rfl
  | called n success =>
    simp only [move?, Option.bind_eq_bind, Option.bind_eq_some_iff] at hm
    obtain ⟨d, -, hm⟩ := hm
    split at hm
    · cases hm
    · split at hm
      · cases hm; exact h.congr rfl rfl rfl rfl fun _ => rfl
      · split at hm
        · cases hm; exact h.congr rfl rfl rfl rfl fun _ => rfl
        · cases hm; exact h.congr rfl rfl rfl rfl fun _ => rfl
  | giveUp n wentThrough =>
    simp only [move?, Option.bind_eq_bind, Option.bind_eq_some_iff] at hm
    obtain ⟨d, -, hm⟩ := hm
    split at hm
    · cases hm
    · split at hm
      · cases hm
        split
        · exact h.congr rfl rfl rfl rfl fun _ => rfl
        · exact h.congr rfl rfl rfl rfl fun _ => rfl
      · cases hm
  | shutDown => cases hm; exact h.congr rfl rfl rfl rfl fun _ => rfl

theorem of_run {handOver : HandOver} {epoch : Instant} {checker : Checker} {ms : List Move}
    (h : (Monitor.start handOver epoch checker).moves? ms = some m) : Books handOver.hasEvaluator m :=
  keeps_of_run (fun _ _ _ hb => hb.move) ms (start handOver epoch checker) h

end Books

end EndpointWatch.Monitor
