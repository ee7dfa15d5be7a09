import EndpointWatch.Proofs.Monitor.Books

/-!
# The trail of a result

A log is `Orderly` if everything it tells to have left the monitor was due: a result is broadcast, and handed on over a
channel, as the next of those that its cycle has saved; a delivery calls only after a result was handed on to it, and goes
through only once. All that a move can do to the log and to the deliveries is in `Change`, and with it every move keeps
the log orderly (`Trail.change`).
-/

namespace EndpointWatch

namespace Happening

/-- Whether it happens within the monitor: nothing is broadcast or handed on, and no delivery is concerned. -/
def isInternal : Happening → Bool
  | .began .. | .handedIn .. | .saved .. | .unsaved .. | .ended .. => true
  | .broadcast .. | .handedOn .. | .called .. | .delivered .. => false

/-- The result that is saved with it. -/
def saved? : Happening → Option CheckResult
  | .saved _ r => some r
  | _ => none

/-- The delivery that begins with it. -/
def handed? : Happening → Option Nat
  | .handedOn _ d _ _ => some d
  | _ => none

/-- The delivery that goes through with it. -/
def delivered? : Happening → Option Nat
  | .delivered d _ _ => some d
  | _ => none

/-- What has to have happened before, for something to leave a monitor. -/
def Due (past : List Happening) : Happening → Prop
  | .broadcast n r => (Monitor.ledger n past).broadcast ++ [r] <+: (Monitor.ledger n past).saved
  | .handedOn n d c r =>
    (Monitor.ledger n past).handedTo c ++ [r] <+: (Monitor.ledger n past).saved ∧ d ∉ past.filterMap handed?
  | .called d c => (∃ n r, .handedOn n d c r ∈ past) ∧ d ∉ past.filterMap delivered?
  | .delivered d c r => (∃ n, .handedOn n d c r ∈ past) ∧ d ∉ past.filterMap delivered?
  | .began .. | .handedIn .. | .saved .. | .unsaved .. | .ended .. => True

theorem due_of_isInternal {h : Happening} (hi : h.isInternal) (past : List Happening) : h.Due past := by
  cases h with
  | broadcast | handedOn | called | delivered => cases hi
  | began | handedIn | saved | unsaved | ended => trivial

end Happening

/-- A call is one for the same result over the same channel. -/
theorem Delivery.same_of_call? {limit now : Nat} {x x' : Delivery} (h : x.call? limit now = some x') :
    x'.channel = x.channel ∧ x'.result = x.result := by
  unfold Delivery.call? at h
  split at h
  · split at h
    · cases h
      exact ⟨rfl, rfl⟩
    · cases h
  · cases h

namespace Monitor

/-- That everything in a log, newest entry first, was due when it happened. -/
def Orderly : List Happening → Prop
  | [] => True
  | h :: past => h.Due past ∧ Orderly past

/-! ### What a move can do -/

/-- What a move does to the log and to the deliveries. It saves a result of a cycle under way, or it tells of other things
within the monitor, of a cycle under way or a new one; or one delivery goes on or is over. -/
inductive Change (m m' : Monitor) : Prop where
  | within (told : List Happening) (internal : ∀ h ∈ told, h.isInternal)
      (cycles : ∀ h ∈ told, ∀ n, h.cycle? = some n → n < m.nextCycle → m.cycles.get? n ≠ none)
      (log : m'.log = told ++ m.log) (deliveries : m'.deliveries = m.deliveries)
      (next : m'.nextDelivery = m.nextDelivery)
  | save (n : Nat) (r : CheckResult) (cycle : m.cycles.get? n ≠ none) (log : m'.log = (m.afterSave n r true).log)
      (deliveries : m'.deliveries = (m.afterSave n r true).deliveries)
      (next : m'.nextDelivery = (m.afterSave n r true).nextDelivery)
  | goOn (d : Nat) (x x' : Delivery) (underWay : m.deliveries.get? d = some x) (channel : x'.channel = x.channel)
      (result : x'.result = x.result) (log : m'.log = m.log ∨ m'.log = .called d x.channel :: m.log)
      (deliveries : m'.deliveries = m.deliveries.insert d x') (next : m'.nextDelivery = m.nextDelivery)
  | finish (d : Nat) (x : Delivery) (underWay : m.deliveries.get? d = some x)
      (log : m'.log = m.log ∨ m'.log = .delivered d x.channel x.result :: m.log)
      (deliveries : m'.deliveries = m.deliveries.erase d) (next : m'.nextDelivery = m.nextDelivery)

/-- What a move of a check or of a cycle does to the log and to the deliveries: a `Change` in which no delivery under way
goes on, and in which a result is saved only where it is handed on. -/
inductive CycleChange (m m' : Monitor) : Prop where
  | within (told : List Happening) (internal : ∀ h ∈ told, h.isInternal)
      (unsaved : told.filterMap Happening.saved? = [])
      (cycles : ∀ h ∈ told, ∀ n, h.cycle? = some n → n < m.nextCycle → m.cycles.get? n ≠ none)
      (log : m'.log = told ++ m.log) (deliveries : m'.deliveries = m.deliveries)
      (next : m'.nextDelivery = m.nextDelivery)
  | save (n : Nat) (r : CheckResult) (cycle : m.cycles.get? n ≠ none) (log : m'.log = (m.afterSave n r true).log)
      (deliveries : m'.deliveries = (m.afterSave n r true).deliveries)
      (next : m'.nextDelivery = (m.afterSave n r true).nextDelivery)

namespace CycleChange

variable {m m' : Monitor} {n : Nat}

theorem silent (hl : m'.log = m.log) (hd : m'.deliveries = m.deliveries) (hn : m'.nextDelivery = m.nextDelivery) :
    CycleChange m m' :=
  .within [] nofun rfl nofun hl hd hn

theorem tell {h : Happening} (hi : h.isInternal) (hs : h.saved? = none) (hc : m.cycles.get? n ≠ none)
    (hn : h.cycle? = some n) (hl : m'.log = h :: m.log) (hd : m'.deliveries = m.deliveries)
    (hnext : m'.nextDelivery = m.nextDelivery) : CycleChange m m' := by
  refine .within [h] (fun h' hmem => ?_) (List.filterMap_cons_none hs) (fun h' hmem k hk _ => ?_) hl hd hnext
  · rwa [List.mem_singleton.mp hmem]
  · rw [List.mem_singleton.mp hmem, hn] at hk
    cases hk
    exact hc

theorem tellNew {told : List Happening} (h : ∀ h ∈ told, h.isInternal ∧ h.cycle? = some m.nextCycle)
    (hs : told.filterMap Happening.saved? = []) (hl : m'.log = told ++ m.log) (hd : m'.deliveries = m.deliveries)
    (hn : m'.nextDelivery = m.nextDelivery) : CycleChange m m' := by
  refine .within told (fun h' hmem => (h h' hmem).1) hs (fun h' hmem n hn hlt => ?_) hl hd hn
  rw [(h h' hmem).2] at hn
  cases hn
  exact absurd hlt (Nat.lt_irrefl _)

theorem endNew (m : Monitor) (r : Except CycleError CycleReport) :
    CycleChange m ({ m with nextCycle := m.nextCycle + 1 }.endCycle m.nextCycle r) :=
  have htold : ∀ h ∈ [Happening.ended m.nextCycle r], h.isInternal ∧ h.cycle? = some m.nextCycle :=
    List.forall_mem_cons.mpr ⟨⟨rfl, rfl⟩, nofun⟩
  tellNew htold rfl rfl rfl rfl

theorem beginCycle (m : Monitor) (isCancelled : Bool) (fetched : Except StorageError (List Endpoint)) :
    CycleChange m (m.beginCycle isCancelled fetched) := by
  unfold Monitor.beginCycle
  cases isCancelled with
  | true => exact endNew m _
  | false =>
    cases fetched with
    | error e => exact endNew m _
    | ok es =>
      cases es with
      | nil =>
        let told : List Happening := [.ended m.nextCycle (.ok .empty), .began m.nextCycle []]
        have htold : ∀ h ∈ told, h.isInternal ∧ h.cycle? = some m.nextCycle :=
          List.forall_mem_cons.mpr ⟨⟨rfl, rfl⟩, List.forall_mem_cons.mpr ⟨⟨rfl, rfl⟩, nofun⟩⟩
        exact tellNew htold rfl rfl rfl rfl
      | cons e es =>
        let told : List Happening := [.began m.nextCycle (e :: es)]
        have htold : ∀ h ∈ told, h.isInternal ∧ h.cycle? = some m.nextCycle :=
          List.forall_mem_cons.mpr ⟨⟨rfl, rfl⟩, nofun⟩
        exact tellNew htold rfl rfl rfl rfl

theorem handIn (h : m.handIn? n = some m') : CycleChange m m' := by
  simp only [handIn?, Option.bind_eq_bind, Option.bind_eq_some_iff] at h
  obtain ⟨⟨⟨k, o, ended⟩, s⟩, -, h⟩ := h
  split at h
  · next c hc =>
    simp only [Option.bind_eq_some_iff, Option.some.injEq] at h
    obtain ⟨c', -, rfl⟩ := h
    exact tell (n := k.cycle) rfl rfl (by rw [hc]; exact Option.some_ne_none c) rfl rfl rfl rfl
  · cases h
    exact silent rfl rfl rfl

theorem save_cycles {c : Cycle} (r : CheckResult) (success : Bool) (hc : m.cycles.get? n ≠ none) :
    CycleChange m ({ m with cycles := m.cycles.insert n c }.afterSave n r success) := by
  cases success with
  | false => exact tell (n := n) rfl rfl hc rfl rfl rfl rfl
  | true =>
    have hparts : ({ m with cycles := m.cycles.insert n c }.afterSave n r true).log = (m.afterSave n r true).log ∧
        ({ m with cycles := m.cycles.insert n c }.afterSave n r true).deliveries = (m.afterSave n r true).deliveries ∧
        ({ m with cycles := m.cycles.insert n c }.afterSave n r true).nextDelivery =
          (m.afterSave n r true).nextDelivery := by
      simp only [afterSave, if_true]
      cases hb : m.handOver.hasEvaluator <;> simp [handOn, Monitor.tell, Monitor.now, hb]
    exact .save n r hc hparts.1 hparts.2.1 hparts.2.2

theorem change (h : CycleChange m m') : Change m m' := by
  cases h with
  | within told internal unsaved cycles log deliveries next => exact .within told internal cycles log deliveries next
  | save n r cycle log deliveries next => exact .save n r cycle log deliveries next

end CycleChange

/-- The delivery that a move is of. -/
def Move.delivery? : Move → Option Nat
  | .call d | .called d _ | .giveUp d _ => some d
  | _ => none

theorem cycleChange_of_move? {m m' : Monitor} {v : Move} (hv : v.delivery? = none) (hm : m.move? v = some m') :
    CycleChange m m' := by
  cases v with
  | advance ms => cases hm; exact .silent rfl rfl rfl
  | beginCycle isCancelled fetched => cases hm; exact .beginCycle m isCancelled fetched
  | abandonFetch e => cases hm; exact .endNew m _
  | arrive n | probed n =>
    obtain ⟨s, -, rfl⟩ := Option.map_eq_some_iff.mp hm
    exact .silent rfl rfl rfl
  | handIn n => exact .handIn hm
  | take n =>
    simp only [move?, Option.bind_eq_bind, Option.bind_eq_some_iff, Option.some.injEq] at hm
    obtain ⟨c, -, c', -, rfl⟩ := hm
    exact .silent rfl rfl rfl
  | saved n success =>
    simp only [move?, Option.bind_eq_bind, Option.bind_eq_some_iff, Option.some.injEq] at hm
    obtain ⟨c, hc, ⟨r, c'⟩, -, rfl⟩ := hm
    exact .save_cycles r success (by rw [hc]; exact Option.some_ne_none c)
  | complete n =>
    simp only [move?, Option.bind_eq_bind, Option.bind_eq_some_iff, Option.ite_none_right_eq_some,
      Option.some.injEq] at hm
    obtain ⟨c, hc, -, rfl⟩ := hm
    exact .tell (n := n) rfl rfl (by rw [hc]; exact Option.some_ne_none c) rfl rfl rfl rfl
  | stop n e =>
    obtain ⟨c, hc, rfl⟩ := Option.map_eq_some_iff.mp hm
    exact .tell (n := n) rfl rfl (by rw [hc]; exact Option.some_ne_none c) rfl rfl rfl rfl
  | shutDown => cases hm; exact .silent rfl rfl rfl
  | call | called | giveUp => cases hv

theorem change_of_move? {m m' : Monitor} {v : Move} (hm : m.move? v = some m') : Change m m' := by
  cases v with
  | call d =>
    simp only [move?, Option.bind_eq_bind] at hm
    split at hm
    · cases hm
    · simp only [Option.bind_eq_some_iff, Option.some.injEq] at hm
      obtain ⟨x, hx, x', hcall, rfl⟩ := hm
      obtain ⟨hchannel, hresult⟩ := Delivery.same_of_call? hcall
      exact .goOn d x x' hx hchannel hresult (.inr (by rw [← hchannel]; rfl)) rfl rfl
  | called d success =>
    simp only [move?, Option.bind_eq_bind, Option.bind_eq_some_iff] at hm
    obtain ⟨x, hx, hm⟩ := hm
    split at hm
    · cases hm
    · split at hm
      · cases hm; exact .finish d x hx (.inr rfl) rfl rfl
      · split at hm
        · next x' hretry =>
          cases hm
          obtain ⟨ms, -, rfl⟩ := Option.map_eq_some_iff.mp hretry
          exact .goOn d x { x with stage := .waiting (m.now + ms) } hx rfl rfl (.inl rfl) rfl rfl
        · cases hm; exact .finish d x hx (.inl rfl) rfl rfl
  | giveUp d wentThrough =>
    simp only [move?, Option.bind_eq_bind, Option.bind_eq_some_iff] at hm
    obtain ⟨x, hx, hm⟩ := hm
    split at hm
    · cases hm
    · split at hm
      · cases hm
        cases wentThrough with
        | true => exact .finish d x hx (.inr rfl) rfl rfl
        | false => exact .finish d x hx (.inl rfl) rfl rfl
      · cases hm
  | _ => exact (cycleChange_of_move? rfl hm).change

/-! ### Deliveries and the log -/

/-- The log is orderly, every delivery under way was handed its result and has not gone through, and the numbers of
deliveries have been given out. -/
structure Trail (log : List Happening) (deliveries : Dict Nat Delivery) (next : Nat) : Prop where
  orderly : Orderly log
  handed : ∀ d x, deliveries.get? d = some x → ∃ n, .handedOn n d x.channel x.result ∈ log
  open_ : ∀ d x, deliveries.get? d = some x → d ∉ log.filterMap Happening.delivered?
  handed_lt : ∀ d ∈ log.filterMap Happening.handed?, d < next
  delivered_lt : ∀ d ∈ log.filterMap Happening.delivered?, d < next

namespace Trail

variable {log : List Happening} {deliveries : Dict Nat Delivery} {next : Nat}

theorem start : Trail [] .empty 0 where
  orderly := trivial
  handed _ _ h := by cases h
  open_ _ _ h := by cases h
  handed_lt _ h := absurd h List.not_mem_nil
  delivered_lt _ h := absurd h List.not_mem_nil

/-- One more happening that neither begins a delivery nor ends one. -/
theorem tell (t : Trail log deliveries next) {h : Happening} (hdue : h.Due log) (hh : h.handed? = none)
    (hd : h.delivered? = none) : Trail (h :: log) deliveries next where
  orderly := ⟨hdue, t.orderly⟩
  handed d x hx := by
    obtain ⟨n, hn⟩ := t.handed d x hx
    exact ⟨n, List.mem_cons_of_mem _ hn⟩
  open_ d x hx := by
    rw [List.filterMap_cons_none hd]
    exact t.open_ d x hx
  handed_lt := by
    rw [List.filterMap_cons_none hh]
    exact t.handed_lt
  delivered_lt := by
    rw [List.filterMap_cons_none hd]
    exact t.delivered_lt

theorem tellAll (t : Trail log deliveries next) {told : List Happening} (hi : ∀ h ∈ told, h.isInternal) :
    Trail (told ++ log) deliveries next := by
  induction told with
  | nil => exact t
  | cons h told ih =>
    obtain ⟨hh, htold⟩ := List.forall_mem_cons.mp hi
    refine (ih htold).tell (Happening.due_of_isInternal hh _) ?_ ?_ <;> cases h <;> first | rfl | cases hh

theorem handOn (t : Trail log deliveries next) {n : Nat} {c : Channel} {r : CheckResult} (now : Nat)
    (hdue : (ledger n log).handedTo c ++ [r] <+: (ledger n log).saved) :
    Trail (.handedOn n next c r :: log) (deliveries.insert next (.start c r now)) (next + 1) where
  orderly := ⟨⟨hdue, fun hmem => Nat.lt_irrefl _ (t.handed_lt next hmem)⟩, t.orderly⟩
  handed d x hx := by
    rcases Dict.eq_some_of_get?_insert hx with ⟨rfl, rfl⟩ | ⟨-, hx⟩
    · exact ⟨n, List.mem_cons_self ..⟩
    · obtain ⟨n', hn⟩ := t.handed d x hx
      exact ⟨n', List.mem_cons_of_mem _ hn⟩
  open_ d x hx hmem := by
    rcases Dict.eq_some_of_get?_insert hx with ⟨rfl, -⟩ | ⟨-, hx⟩
    · -- the number is new, so nothing has gone through under it
      exact Nat.lt_irrefl _ (t.delivered_lt d hmem)
    · exact t.open_ d x hx hmem
  handed_lt d hmem := by
    rcases List.mem_cons.mp hmem with rfl | hmem
    · exact Nat.lt_succ_self d
    · exact Nat.lt_succ_of_lt (t.handed_lt d hmem)
  delivered_lt d hmem := Nat.lt_succ_of_lt (t.delivered_lt d hmem)

theorem goOn (t : Trail log deliveries next) {d : Nat} {x x' : Delivery} (hx : deliveries.get? d = some x)
    (hc : x'.channel = x.channel) (hr : x'.result = x.result) : Trail log (deliveries.insert d x') next where
  orderly := t.orderly
  handed d' y hy := by
    rcases Dict.eq_some_of_get?_insert hy with ⟨rfl, rfl⟩ | ⟨-, hy⟩
    · rw [hc, hr]
      exact t.handed d' x hx
    · exact t.handed d' y hy
  open_ d' y hy := by
    rcases Dict.eq_some_of_get?_insert hy with ⟨rfl, -⟩ | ⟨-, hy⟩
    · exact t.open_ d' x hx
    · exact t.open_ d' y hy
  handed_lt := t.handed_lt
  delivered_lt := t.delivered_lt

theorem erase (t : Trail log deliveries next) (d : Nat) : Trail log (deliveries.erase d) next where
  orderly := t.orderly
  handed d' y hy := t.handed d' y (Dict.eq_some_of_get?_erase hy).2
  open_ d' y hy := t.open_ d' y (Dict.eq_some_of_get?_erase hy).2
  handed_lt := t.handed_lt
  delivered_lt := t.delivered_lt

theorem deliver (t : Trail log deliveries next) {d : Nat} {x : Delivery} (hx : deliveries.get? d = some x) :
    Trail (.delivered d x.channel x.result :: log) (deliveries.erase d) next where
  orderly := ⟨⟨t.handed d x hx, t.open_ d x hx⟩, t.orderly⟩
  handed d' y hy := by
    obtain ⟨-, hy⟩ := Dict.eq_some_of_get?_erase hy
    obtain ⟨n, hn⟩ := t.handed d' y hy
    exact ⟨n, List.mem_cons_of_mem _ hn⟩
  open_ d' y hy hmem := by
    obtain ⟨hne, hy⟩ := Dict.eq_some_of_get?_erase hy
    rcases List.mem_cons.mp hmem with hd | hmem
    · exact hne hd
    · exact t.open_ d' y hy hmem
  handed_lt := t.handed_lt
  delivered_lt d' hmem := by
    rcases List.mem_cons.mp hmem with rfl | hmem
    · obtain ⟨n, hn⟩ := t.handed d' x hx
      exact t.handed_lt d' (List.mem_filterMap.mpr ⟨_, hn, rfl⟩)
    · exact t.delivered_lt d' hmem

end Trail

/-- The deliveries and the log of a monitor fit. -/
abbrev HasTrail (m : Monitor) : Prop := Trail m.log m.deliveries m.nextDelivery

/-- A result that was saved is the next to be broadcast, and then the next to be handed on over each channel. -/
theorem HasTrail.save {m : Monitor} {n : Nat} (t : m.HasTrail) (hf : (ledger n m.log).Fair m.handOver.hasEvaluator)
    (r : CheckResult) : (m.afterSave n r true).HasTrail := by
  -- the books are in order before and after the move only, so the log is followed from one entry to the next
  let log₁ := .saved n r :: m.log
  let log₂ := .broadcast n r :: log₁
  let log₃ := .handedOn n m.nextDelivery .stream r :: log₂
  have hsaved : (ledger n log₁).saved = (ledger n m.log).saved ++ [r] := by
    simp [log₁, Ledger.note, Ledger.saved]
  have hbroadcast : (ledger n log₁).broadcast = (ledger n m.log).saved := by
    simp [log₁, Ledger.note, hf.broadcast]
  have hsaved₂ : (ledger n log₂).saved = (ledger n log₁).saved := by
    simp [log₂, Ledger.note, Ledger.saved]
  have hsaved₃ : (ledger n log₃).saved = (ledger n log₂).saved := by
    simp [log₃, Ledger.note, Ledger.saved]
  have hstream : (ledger n log₂).handedTo .stream = (ledger n m.log).saved := by
    rw [← hf.stream]
    simp [log₂, log₁, Ledger.note, Ledger.handedTo]
  have hevaluator : (ledger n log₃).handedTo .evaluator = (ledger n m.log).handedTo .evaluator := by
    simp [log₃, log₂, log₁, Ledger.note, Ledger.handedTo]
  have t₁ : Trail log₁ m.deliveries m.nextDelivery := Trail.tell t trivial rfl rfl
  have t₂ : Trail log₂ m.deliveries m.nextDelivery := by
    have hnext : (ledger n log₁).broadcast ++ [r] = (ledger n log₁).saved := by rw [hbroadcast, hsaved]
    exact t₁.tell (⟨[], (List.append_nil _).trans hnext⟩ : _ <+: _) rfl rfl
  have t₃ : Trail log₃ (m.deliveries.insert m.nextDelivery (.start .stream r m.now)) (m.nextDelivery + 1) := by
    have hnext : (ledger n log₂).handedTo .stream ++ [r] = (ledger n log₂).saved := by rw [hstream, hsaved₂, hsaved]
    exact t₂.handOn m.now ⟨[], (List.append_nil _).trans hnext⟩
  rw [afterSave_true]
  cases hb : m.handOver.hasEvaluator with
  | false => exact t₃
  | true =>
    have hnext : (ledger n log₃).handedTo .evaluator ++ [r] = (ledger n log₃).saved := by
      rw [hevaluator, hf.evaluator, if_pos hb, hsaved₃, hsaved₂, hsaved]
    exact t₃.handOn m.now ⟨[], (List.append_nil _).trans hnext⟩

theorem HasTrail.change {m m' : Monitor} (t : m.HasTrail)
    (hf : ∀ n, (ledger n m.log).Fair m.handOver.hasEvaluator) (h : Change m m') : m'.HasTrail := by
  cases h with
  | within told internal cycles log deliveries next =>
    rw [HasTrail, log, deliveries, next]
    exact Trail.tellAll t internal
  | save n r cycle log deliveries next =>
    rw [HasTrail, log, deliveries, next]
    exact t.save (hf n) r
  | goOn d x x' underWay channel result log deliveries next =>
    have hgo : Trail m.log (m.deliveries.insert d x') m.nextDelivery := Trail.goOn t underWay channel result
    rw [HasTrail, deliveries, next]
    rcases log with log | log
    · rwa [log]
    · rw [log]
      obtain ⟨n, hn⟩ := t.handed d x underWay
      exact hgo.tell ⟨⟨n, x.result, hn⟩, t.open_ d x underWay⟩ rfl rfl
  | finish d x underWay log deliveries next =>
    rw [HasTrail, deliveries, next]
    rcases log with log | log
    · rw [log]
      exact Trail.erase t d
    · rw [log]
      exact Trail.deliver t underWay

theorem HasTrail.of_run {handOver : HandOver} {epoch : Instant} {checker : Checker} {ms : List Move} {m : Monitor}
    (hm : (Monitor.start handOver epoch checker).moves? ms = some m) : m.HasTrail := by
  have hstep (s : Monitor) (v : Move) (s' : Monitor) (hs : Books handOver.hasEvaluator s ∧ s.HasTrail)
      (hv : s.move? v = some s') : Books handOver.hasEvaluator s' ∧ s'.HasTrail := by
    obtain ⟨hbs, hts⟩ := hs
    refine ⟨hbs.move hv, hts.change (fun n => ?_) (change_of_move? hv)⟩
    rw [hbs.evaluator]
    exact hbs.fair n
  exact (keeps_of_run hstep ms ⟨.start handOver epoch checker, .start⟩ hm).2

end Monitor

end EndpointWatch
