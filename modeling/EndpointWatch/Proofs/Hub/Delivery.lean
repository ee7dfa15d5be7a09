import EndpointWatch.Proofs.Hub.Sound

/-!
# What a hub delivers

Results leave the inbound queue in the order in which they came, and are offered to everyone who is registered. So what a
subscriber has read and what waits for it are, in order, results that were let in, and of those that were fanned out
while it was registered it misses one only if its queue was full (`delivers_of_run`).
-/

namespace EndpointWatch.Hub

variable {h h' : Hub} {m : Move} {id : Nat} {c c' : Course} {log : List Entry}

/-! ### What a course tells of results and numbers -/

namespace Entry

def accepted? (e : Entry) : Option CheckResult :=
  match e.move with
  | .broadcast r => if e.met.hasRoom then some r else none
  | _ => none

def refused? (e : Entry) : Option CheckResult :=
  match e.move with
  | .broadcast r => if e.met.hasRoom then none else some r
  | _ => none

/-- The result that the hub fans out, and the hub that goes through its subscribers with it. -/
def fanOut? (e : Entry) : Option (CheckResult × Hub) :=
  match e.move with
  | .takeResult _ => e.met.results.head?.map fun r => (r, e.met)
  | _ => none

def number? (e : Entry) : Option Nat :=
  match e.move, e.met.requests.head? with
  | .takeRequest, some (.subscribe _) => some e.met.nextId
  | _, _ => none

/-- What waits for a reader that hangs up. -/
def left (id : Nat) (e : Entry) : List String :=
  match e.concern? id with
  | some .hungUp => e.met.waiting id
  | _ => []

end Entry

def accepted (log : List Entry) : List CheckResult := log.filterMap Entry.accepted?

def fanOuts (log : List Entry) : List (CheckResult × Hub) := log.filterMap Entry.fanOut?

def numbers (log : List Entry) : List Nat := log.filterMap Entry.number?

def left (id : Nat) (log : List Entry) : List String := log.flatMap (Entry.left id)

/-- Whether a subscriber's queue takes what is fanned out. -/
def takenBy (id : Nat) (f : CheckResult × Hub) : Bool := (f.2.subscribers.get? id).any Subscriber.takes

theorem Entry.queued?_eq (id : Nat) (e : Entry) :
    (e.concern? id).bind (·.queued? (e.met.subscribers.get? id)) =
      e.fanOut?.bind fun f => if takenBy id f then some f.1 else none := by
  cases hm : e.move with
  | takeResult order =>
    simp only [concern?, fanOut?, hm]
    cases e.met.results.head? <;> rfl
  | takeRequest =>
    simp only [concern?, fanOut?, hm]
    split <;> (try split) <;> rfl
  | receive | hangUp =>
    simp only [concern?, fanOut?, hm]
    split <;> rfl
  | broadcast | request | release | expire => simp [concern?, fanOut?, hm, Concern.queued?]

/-- What is put into the queue of a subscriber are the fan-outs that its queue takes. -/
theorem queued_eq (id : Nat) (log : List Entry) :
    queued id log = ((fanOuts log).filter (takenBy id)).map Prod.fst := by
  simp only [queued, Entry.queued?_eq]
  induction log with
  | nil => rfl
  | cons e log ih =>
    simp only [fanOuts, List.filterMap_cons] at ih ⊢
    cases e.fanOut? with
    | none => exact ih
    | some f => by_cases ht : takenBy id f <;> simp [ht, ih]

theorem Entry.results_of_fanOut? {e : Entry} {f : CheckResult × Hub} (hf : e.fanOut? = some f) :
    f.2 = e.met ∧ ∃ rest, e.met.results = f.1 :: rest := by
  unfold fanOut? at hf
  split at hf
  · obtain ⟨r, hr, rfl⟩ := Option.map_eq_some_iff.mp hf
    exact ⟨rfl, List.head?_eq_some_iff.mp hr⟩
  · cases hf

theorem Step.number_eq (hs : Step h m h') {n : Nat} (hn : (⟨m, h⟩ : Entry).number? = some n) :
    n = h.nextId ∧ h'.nextId = h.nextId + 1 := by
  cases hs <;> simp_all [Entry.number?]

theorem Step.flow (hs : Step h m h') (hr : h'.isRunning) :
    h.isRunning ∧ h.results ++ (⟨m, h⟩ : Entry).accepted?.toList =
      ((⟨m, h⟩ : Entry).fanOut?.map Prod.fst).toList ++ h'.results := by
  cases hs with
  | shutdown | expire => cases hr
  | _ => simp_all [Entry.accepted?, Entry.fanOut?]

theorem Entry.eq_nil_of_not_reader {e : Entry} (hread : e.concern? id ≠ some .read)
    (hhang : e.concern? id ≠ some .hungUp) :
    (e.concern? id).bind (·.given? (e.met.subscribers.get? id)) = none ∧ e.left id = [] := by
  unfold left
  cases hk : e.concern? id with
  | none => exact ⟨rfl, rfl⟩
  | some k =>
    cases k with
    | read => exact absurd hk hread
    | hungUp => exact absurd hk hhang
    | subscribed | fannedOut | unsubscribed | stopped => exact ⟨rfl, rfl⟩

/-- What a subscriber reads, what it leaves behind and what waits for it after a move are what waited for it before, and
what the move has put into its queue. -/
theorem Step.waiting_eq (hs : Step h m h') (hh : h.Sound) (id : Nat) :
    (((⟨m, h⟩ : Entry).concern? id).bind (·.given? (h.subscribers.get? id))).toList ++
      ((⟨m, h⟩ : Entry).left id ++ h'.waiting id) =
    h.waiting id ++ (((⟨m, h⟩ : Entry).concern? id).bind (·.queued? (h.subscribers.get? id))).toList.map payload := by
  unfold Entry.left waiting
  rw [hs.get? id]
  cases hk : (⟨m, h⟩ : Entry).concern? id with
  | none => simp
  | some k =>
    cases k with
    | subscribed =>
      obtain ⟨rfl, -⟩ := hs.of_subscribed hk
      simp [hh.get?_nextId, Concern.given?, Concern.queued?, Concern.effect, Subscriber.fresh]
    | fannedOut r =>
      cases h.subscribers.get? id with
      | none => simp [Concern.given?, Concern.queued?, Concern.effect]
      | some s =>
        cases ht : s.takes <;> simp [Concern.given?, Concern.queued?, Concern.effect, Subscriber.unread_offer, ht]
    | unsubscribed | stopped =>
      cases h.subscribers.get? id <;> simp [Concern.given?, Concern.queued?, Concern.effect, Subscriber.unregister]
    | read =>
      cases h.subscribers.get? id with
      | none => simp [Concern.given?, Concern.queued?, Concern.effect]
      | some s => simp [Concern.given?, Concern.queued?, Concern.effect, Subscriber.receive_append_unread]
    | hungUp =>
      cases h.subscribers.get? id <;>
        simp [Concern.given?, Concern.queued?, Concern.effect, Subscriber.hangUp]

/-! ### Along a course -/

/-- What the log of a course says of the hub. -/
structure Books (c : Course) : Prop where
  sound : c.hub.Sound
  met : ∀ e ∈ c.log, e.met.Sound
  flow : c.hub.isRunning → accepted c.log = (fanOuts c.log).map Prod.fst ++ c.hub.results
  fannedOut : (fanOuts c.log).map Prod.fst <+: accepted c.log
  increasing : (numbers c.log).Pairwise (· < ·)
  number_lt : ∀ n ∈ numbers c.log, n < c.hub.nextId
  hungUp : ∀ id s, c.hub.subscribers.get? id = some s → s.isReading = false → ∃ e ∈ c.log, e.move = .hangUp id
  left_eq : ∀ id, (∀ s, c.hub.subscribers.get? id = some s → s.isReading) → left id c.log = []
  sequence : ∀ id, received id c.log ++ (left id c.log ++ c.hub.waiting id) = (queued id c.log).map payload

namespace Books

theorem start : Books .start where
  sound := ⟨Nat.zero_le _, fun _ => rfl, nofun, nofun⟩
  met := nofun
  flow _ := rfl
  fannedOut := List.prefix_refl _
  increasing := .nil
  number_lt := nofun
  hungUp := nofun
  left_eq _ _ := rfl
  sequence _ := rfl

/-- A reader that is still there has left nothing behind. -/
theorem left_eq_nil (hc : Books c) {s : Subscriber} (hs : c.hub.subscribers.get? id = some s) (hr : s.isReading) :
    left id c.log = [] := by
  refine hc.left_eq id fun t ht => ?_
  rw [hs] at ht
  cases ht
  exact hr

theorem fannedOut_step (hc : Books c) (m : Move) :
    (fanOuts (c.log ++ [⟨m, c.hub⟩])).map Prod.fst <+: accepted (c.log ++ [⟨m, c.hub⟩]) := by
  simp only [fanOuts, accepted, filterMap_concat, List.map_append]
  refine List.IsPrefix.trans ?_ (List.prefix_append _ _)
  cases hf : (⟨m, c.hub⟩ : Entry).fanOut? with
  | none =>
    rw [Option.toList_none, List.map_nil, List.append_nil]
    exact hc.fannedOut
  | some f =>
    obtain ⟨-, rest, hrest⟩ := Entry.results_of_fanOut? hf
    -- a hub at which results wait has not stopped
    have hrun : c.hub.isRunning := by
      cases hr : c.hub.isRunning with
      | true => rfl
      | false => rw [hc.sound.stopped hr] at hrest; cases hrest
    have hflow := hc.flow hrun
    rw [show c.hub.results = f.1 :: rest from hrest] at hflow
    exact ⟨rest, by simpa [fanOuts, accepted] using hflow.symm⟩

theorem numbers_step (hc : Books c) (hs : Step c.hub m h) :
    (numbers (c.log ++ [⟨m, c.hub⟩])).Pairwise (· < ·) ∧
      ∀ n ∈ numbers (c.log ++ [⟨m, c.hub⟩]), n < h.nextId := by
  simp only [numbers, filterMap_concat]
  have hold (n : Nat) (hn : n ∈ numbers c.log) : n < h.nextId :=
    Nat.lt_of_lt_of_le (hc.number_lt n hn) hs.nextId_le
  cases hn : (⟨m, c.hub⟩ : Entry).number? with
  | none =>
    rw [Option.toList_none, List.append_nil]
    exact ⟨hc.increasing, hold⟩
  | some k =>
    obtain ⟨rfl, hnext⟩ := hs.number_eq hn
    constructor
    · refine List.pairwise_append.mpr ⟨hc.increasing, List.pairwise_singleton .., fun n hmem k hk => ?_⟩
      cases Option.mem_toList.mp hk
      exact hc.number_lt n hmem
    · intro n hmem
      rcases List.mem_append.mp hmem with hmem | hmem
      · exact hold n hmem
      · rw [hnext]
        cases Option.mem_toList.mp hmem
        exact Nat.lt_succ_self _

theorem hungUp_step (hc : Books c) (hs : Step c.hub m h) {s' : Subscriber} (hs' : h.subscribers.get? id = some s')
    (hread : s'.isReading = false) : ∃ e ∈ c.log ++ [⟨m, c.hub⟩], e.move = .hangUp id := by
  by_cases hm : m = .hangUp id
  · exact ⟨_, List.mem_append_right _ (List.mem_singleton_self _), hm⟩
  · rcases hs.isReading hc.sound hm hs' with ⟨s, hget, heq⟩ | ⟨-, htrue⟩
    · obtain ⟨e, he, hmove⟩ := hc.hungUp id s hget (heq ▸ hread)
      exact ⟨e, List.mem_append_left _ he, hmove⟩
    · rw [hread] at htrue
      cases htrue

theorem left_step (hc : Books c) (hs : Step c.hub m h)
    (hread : ∀ s, h.subscribers.get? id = some s → s.isReading) : left id (c.log ++ [⟨m, c.hub⟩]) = [] := by
  have hm : m ≠ .hangUp id := by
    rintro rfl
    cases hs with
    | hangUp _ s => exact absurd (hread s.hangUp (Dict.get?_insert_self ..)) Bool.false_ne_true
  have hentry : (⟨m, c.hub⟩ : Entry).left id = [] := by
    unfold Entry.left
    split
    · next hk => exact absurd (Entry.move_of_hungUp hk) hm
    · rfl
  have hlog : left id c.log = [] := by
    refine hc.left_eq id fun s hget => ?_
    have hsome : (h.subscribers.get? id).isSome := hs.isSome_get? (by rw [hget]; rfl)
    obtain ⟨s', hget'⟩ := Option.isSome_iff_exists.mp hsome
    rcases hs.isReading hc.sound hm hget' with ⟨t, ht, heq⟩ | ⟨hnone, -⟩
    · rw [hget] at ht
      cases ht
      exact heq ▸ hread s' hget'
    · rw [hget] at hnone
      cases hnone
  rw [left, List.flatMap_append, ← left, hlog, List.flatMap_singleton, hentry]
  rfl

theorem sequence_step (hc : Books c) (hs : Step c.hub m h) (id : Nat) :
    received id (c.log ++ [⟨m, c.hub⟩]) ++ (left id (c.log ++ [⟨m, c.hub⟩]) ++ h.waiting id) =
      (queued id (c.log ++ [⟨m, c.hub⟩])).map payload := by
  have hseq := hc.sequence id
  have hwait := hs.waiting_eq hc.sound id
  simp only [received, queued, left, filterMap_concat, List.flatMap_append, List.flatMap_singleton,
    List.map_append, List.append_assoc] at hseq ⊢
  by_cases hk : (⟨m, c.hub⟩ : Entry).concern? id = some .read ∨ (⟨m, c.hub⟩ : Entry).concern? id = some .hungUp
  · -- the reader is there, so that nothing has been left behind
    obtain ⟨s, hget, hread⟩ := hs.of_reader hk
    have hleft : c.log.flatMap (Entry.left id) = [] := hc.left_eq_nil hget hread
    rw [hleft, List.nil_append] at hseq ⊢
    rw [hwait, ← hseq, List.append_assoc]
  · rw [not_or] at hk
    obtain ⟨hgiven, hleft⟩ := Entry.eq_nil_of_not_reader (e := ⟨m, c.hub⟩) hk.1 hk.2
    simp only [hgiven, hleft, Option.toList_none, List.nil_append] at hwait ⊢
    rw [hwait, ← hseq, List.append_assoc, List.append_assoc]

theorem step (hc : Books c) (hs : Step c.hub m h) : Books ⟨h, c.log ++ [⟨m, c.hub⟩]⟩ where
  sound := hc.sound.step hs
  met := by
    intro e he
    rcases List.mem_append.mp he with he | he
    · exact hc.met e he
    · rw [List.mem_singleton.mp he]
      exact hc.sound
  flow := by
    intro hr
    obtain ⟨hrun, hflow⟩ := hs.flow hr
    simp only [fanOuts, accepted, filterMap_concat, List.map_append]
    rw [← accepted, hc.flow hrun, List.append_assoc, hflow]
    simp [fanOuts, Option.toList_map]
  fannedOut := hc.fannedOut_step m
  increasing := (hc.numbers_step hs).1
  number_lt := (hc.numbers_step hs).2
  hungUp _ _ := hc.hungUp_step hs
  left_eq _ := hc.left_step hs
  sequence := hc.sequence_step hs

end Books

theorem Books.of_run {ms : List Move} (hc : Course.start.moves? ms = some c) : Books c := by
  have hstep (c : Course) (m : Move) (c' : Course) (hb : Books c) (hm : c.move? m = some c') : Books c' := by
    obtain ⟨h, hs, rfl⟩ := Course.move?_eq_some hm
    exact hb.step hs
  exact keeps_of_run hstep ms .start hc

/-! ### What is owed to a subscriber -/

/-- That a hub keeps what it promises, in a course so far and with its next move. -/
structure Delivers (c : Course) : Prop where
  /-- What a subscriber has read and what waits for it are results that were let in, in their order and each once. -/
  inOrder : ∀ id s, c.hub.subscribers.get? id = some s →
    ∃ rs : List CheckResult, rs.Sublist (accepted c.log) ∧ received id c.log ++ s.unread = rs.map payload
  /-- A result is not let in only if as many wait as can, or the hub has stopped. -/
  refused : ∀ e ∈ c.log, ∀ r, e.refused? = some r → e.met.results.length = capacity ∨ e.met.isRunning = false
  /-- Results are fanned out in the order in which they were let in. -/
  fannedOut : (fanOuts c.log).map Prod.fst <+: accepted c.log
  /-- What has come into the queue of a subscriber are the results with the numbers `ns`, in the order in which they were
  let in. If one was fanned out while the subscriber was on the register and stayed there, and is not among them, then
  the queue was full. -/
  missed : ∀ id s, c.hub.subscribers.get? id = some s → ∃ ns : List Nat, ns.Pairwise (· < ·) ∧
    (received id c.log ++ (left id c.log ++ s.unread)).map some = ns.map (fun n => (accepted c.log)[n]?.map payload) ∧
    (s.isReading → left id c.log = []) ∧
    ∀ n r h t, (fanOuts c.log)[n]? = some (r, h) → h.subscribers.get? id = some t → t.isRegistered →
      (t.offer (payload r)).isRegistered → n ∉ ns → t.unread.length = Subscriber.capacity
  /-- A subscriber leaves the register because it is asked to be taken off, with a fan-out after its reader has hung up,
  or because the hub stops. -/
  leaves : ∀ m c', c.move? m = some c' → ∀ id ∈ c.hub.registered, id ∉ c'.hub.registered →
    (m = .takeRequest ∧ c.hub.requests.head? = some (.unsubscribe id)) ∨
    ((∃ order, m = .takeResult order) ∧ ∃ e ∈ c.log, e.move = .hangUp id) ∨ c'.hub.isRunning = false
  /-- Every subscriber gets a larger number than those before it. -/
  numbers : (numbers c.log).Pairwise (· < ·)
  /-- When the hub stops because nobody holds it any more, all that was let in has been fanned out. -/
  drained : ∀ c', c.move? .expire = some c' → (fanOuts c.log).map Prod.fst = accepted c.log

theorem Books.refused (hc : Books c) {e : Entry} (he : e ∈ c.log) {r : CheckResult} (hr : e.refused? = some r) :
    e.met.results.length = capacity ∨ e.met.isRunning = false := by
  unfold Entry.refused? at hr
  split at hr
  · rw [Option.ite_none_left_eq_some, hasRoom, Bool.and_eq_true, decide_eq_true_eq] at hr
    have hle := (hc.met e he).results_le
    cases hrun : e.met.isRunning with
    | false => exact .inr rfl
    | true =>
      refine .inl (Nat.le_antisymm hle (Nat.le_of_not_lt fun hlt => hr.1 ⟨hrun, hlt⟩))
  · cases hr

theorem Books.inOrder (hc : Books c) {s : Subscriber} (hs : c.hub.subscribers.get? id = some s) :
    ∃ rs : List CheckResult, rs.Sublist (accepted c.log) ∧ received id c.log ++ s.unread = rs.map payload := by
  have hsub : (queued id c.log).Sublist (accepted c.log) := by
    rw [queued_eq]
    exact (List.filter_sublist.map Prod.fst).trans hc.fannedOut.sublist
  have hseq := hc.sequence id
  rw [Hub.waiting, hs, Option.map_some, Option.getD_some] at hseq
  cases hr : s.isReading with
  | true =>
    rw [hc.left_eq_nil hs hr, List.nil_append] at hseq
    exact ⟨_, hsub, hseq⟩
  | false =>
    -- nothing waits for a reader that has hung up, and what it had read before is the first part
    refine ⟨(queued id c.log).take (received id c.log).length, (List.take_sublist ..).trans hsub, ?_⟩
    rw [(hc.sound.subscriber id s hs).unread_eq hr, List.append_nil, List.map_take, ← hseq, List.take_left]

theorem Books.missed (hc : Books c) {s : Subscriber} (hs : c.hub.subscribers.get? id = some s) :
    ∃ ns : List Nat, ns.Pairwise (· < ·) ∧
      (received id c.log ++ (left id c.log ++ s.unread)).map some =
        ns.map (fun n => (accepted c.log)[n]?.map payload) ∧
      (s.isReading → left id c.log = []) ∧
      ∀ n r h t, (fanOuts c.log)[n]? = some (r, h) → h.subscribers.get? id = some t → t.isRegistered →
        (t.offer (payload r)).isRegistered → n ∉ ns → t.unread.length = Subscriber.capacity := by
  let taken := (fanOuts c.log).zipIdx.filter fun x => takenBy id x.1
  have hmem (n : Nat) (f : CheckResult × Hub) : (f, n) ∈ taken ↔ (fanOuts c.log)[n]? = some f ∧ takenBy id f := by
    rw [List.mem_filter, List.mem_zipIdx_iff_getElem?]
  have htaken : taken.map Prod.fst = (fanOuts c.log).filter (takenBy id) := by
    show ((fanOuts c.log).zipIdx.filter (takenBy id ∘ Prod.fst)).map Prod.fst = _
    rw [← List.filter_map, List.zipIdx_map_fst]
  refine ⟨taken.map Prod.snd, ?_, ?_, hc.left_eq_nil hs, ?_⟩
  · have hall : ((fanOuts c.log).zipIdx.map Prod.snd).Pairwise (· < ·) := by
      rw [List.zipIdx_map_snd]
      exact List.pairwise_lt_range' ..
    exact hall.sublist (List.filter_sublist.map Prod.snd)
  · have hseq := hc.sequence id
    rw [Hub.waiting, hs, Option.map_some, Option.getD_some] at hseq
    rw [hseq, queued_eq, ← htaken]
    simp only [List.map_map]
    refine List.map_congr_left fun x hx => ?_
    -- what was fanned out as number `n` was let in as number `n`
    have hn : ((fanOuts c.log).map Prod.fst)[x.2]? = some x.1.1 := by
      rw [List.getElem?_map, ((hmem x.2 x.1).mp hx).1]
      rfl
    have hacc : (accepted c.log)[x.2]? = some x.1.1 := by
      obtain ⟨rest, hrest⟩ := hc.fannedOut
      rw [← hrest]
      exact List.getElem?_append_left (List.getElem?_eq_some_iff.mp hn).1 ▸ hn
    simp [hacc]
  · intro n r h t hn ht hreg hstay hnot
    rw [Subscriber.isRegistered_offer, hreg, Bool.true_and] at hstay
    have hfull : ¬ t.unread.length < Subscriber.capacity := fun hlt => by
      refine hnot (List.mem_map.mpr ⟨((r, h), n), (hmem n (r, h)).mpr ⟨hn, ?_⟩, rfl⟩)
      simp [takenBy, ht, Subscriber.takes, hreg, hstay, hlt]
    obtain ⟨e, he, hf⟩ := List.mem_filterMap.mp (List.mem_of_getElem? hn)
    have hle := ((hc.met e he).subscriber id t ((Entry.results_of_fanOut? hf).1 ▸ ht)).unread_le
    omega

theorem delivers_of_run {ms : List Move} (hc : Course.start.moves? ms = some c) : Delivers c := by
  have hb := Books.of_run hc
  refine ⟨fun _ _ => hb.inOrder, fun _ he _ => hb.refused he, hb.fannedOut, fun _ _ => hb.missed, ?_, hb.increasing, ?_⟩
  · intro m c' hm id hid hid'
    obtain ⟨h, hs, rfl⟩ := Course.move?_eq_some hm
    rcases hs.leaves hid hid' with hask | ⟨order, s, horder, hget, hread⟩ | hstop
    · exact .inl hask
    · exact .inr (.inl ⟨⟨order, horder⟩, hb.hungUp id s hget hread⟩)
    · exact .inr (.inr hstop)
  · intro c' hm
    obtain ⟨h, hs, rfl⟩ := Course.move?_eq_some hm
    cases hs with
    | expire hrun _ hresults =>
      rw [hb.flow hrun, hresults, List.append_nil]

/-- Of three subscribers one hangs up with a text unread, and one is taken off the register between two results. Nobody
holds the hub after that, and it stops. -/
theorem delivers_of_farewell :
    let r (t : UInt64) : CheckResult := ⟨7, t, some 200, none, .epoch⟩
    let ms : List Move := [.request (.subscribe true), .request (.subscribe true), .broadcast (r 1), .takeRequest,
      .takeRequest, .request (.subscribe true), .takeRequest, .takeResult [2, 3, 1], .broadcast (r 2), .receive 1,
      .hangUp 2, .request (.unsubscribe 3), .broadcast (r 3), .takeResult [1, 2, 3], .takeRequest, .release,
      .takeResult [1], .expire]
    ∃ c, Course.start.moves? ms = some c ∧ Delivers c ∧ accepted c.log = [r 1, r 2, r 3] ∧ numbers c.log = [1, 2, 3] ∧
      received 1 c.log ++ c.hub.waiting 1 = [payload (r 1), payload (r 2), payload (r 3)] ∧
      received 2 c.log ++ c.hub.waiting 2 = [] ∧ left 2 c.log = [payload (r 1)] ∧
      received 3 c.log ++ c.hub.waiting 3 = [payload (r 1), payload (r 2)] := by
  intro r ms
  have hrun : (Course.start.moves? ms).isSome := by decide +kernel
  obtain ⟨c, hc⟩ := Option.isSome_iff_exists.mp hrun
  have hend : (Course.start.moves? ms).all fun c => accepted c.log = [r 1, r 2, r 3] ∧ numbers c.log = [1, 2, 3] ∧
      received 1 c.log ++ c.hub.waiting 1 = [payload (r 1), payload (r 2), payload (r 3)] ∧
      received 2 c.log ++ c.hub.waiting 2 = [] ∧ left 2 c.log = [payload (r 1)] ∧
      received 3 c.log ++ c.hub.waiting 3 = [payload (r 1), payload (r 2)] := by decide +kernel
  rw [hc, Option.all_some, decide_eq_true_eq] at hend
  exact ⟨c, hc, delivers_of_run hc, hend⟩

end EndpointWatch.Hub
