import EndpointWatch.Hub.Basic
import EndpointWatch.Proofs.Dict
import EndpointWatch.Proofs.Run

/-!
# The course of a hub

A `Course` is a hub in use together with all the moves that were made and the hubs that they met. `Step` says what one
move does; that a fan-out does the same to every subscriber, in whatever order it goes through them, is
`fanOut_of_perm`. What a move means for one subscriber is its `Concern`, and `Step.get?` that nothing else changes it.
-/

namespace EndpointWatch.Hub

variable {h h' : Hub} {m : Move} {id j : Nat} {order : List Nat} {text : String} {r : CheckResult}

/-! ### Fan-outs -/

theorem update_eq (f : Subscriber → Subscriber) (id : Nat) (h : Hub) :
    ∃ d, h.update f id = { h with subscribers := d } ∧
      ∀ j, d.get? j = if j = id then (h.subscribers.get? j).map f else h.subscribers.get? j := by
  unfold update
  split
  · next s hs =>
    refine ⟨_, rfl, fun j => ?_⟩
    split
    · next hj => rw [hj, Dict.get?_insert_self, hs]; rfl
    · next hj => exact Dict.get?_insert_of_ne hj
  · next hs =>
    refine ⟨_, rfl, fun j => ?_⟩
    split
    · next hj => rw [hj, hs]; rfl
    · rfl

theorem foldl_update_eq (f : Subscriber → Subscriber) {ids : List Nat} (hn : ids.Nodup) (h : Hub) :
    ∃ d, ids.foldl (fun h id => h.update f id) h = { h with subscribers := d } ∧
      ∀ j, d.get? j = if j ∈ ids then (h.subscribers.get? j).map f else h.subscribers.get? j := by
  induction ids generalizing h with
  | nil => exact ⟨_, rfl, fun j => by simp⟩
  | cons id ids ih =>
    obtain ⟨hid, hn⟩ := List.nodup_cons.mp hn
    obtain ⟨d, hd, hget⟩ := update_eq f id h
    obtain ⟨d', hd', hget'⟩ := ih hn (h.update f id)
    rw [List.foldl_cons, hd']
    refine ⟨d', by rw [hd], fun j => ?_⟩
    rw [hget', hd]
    simp only [hget, List.mem_cons]
    by_cases hj : j = id
    · subst hj
      simp [hid]
    · simp [hj]

theorem sendAll_eq (text : String) {order : List Nat} (hn : order.Nodup) (h : Hub) :
    ∃ d, sendAll text order h =
        ({ h with subscribers := d }, order.filter fun id => (h.subscribers.get? id).any fun s => !s.isReading) ∧
      ∀ j, d.get? j =
        if j ∈ order then (h.subscribers.get? j).map fun s => (s.send text).2 else h.subscribers.get? j := by
  induction order generalizing h with
  | nil => exact ⟨_, rfl, fun j => by simp⟩
  | cons id order ih =>
    obtain ⟨hid, hn⟩ := List.nodup_cons.mp hn
    simp only [sendAll]
    split
    · next s hs =>
      have hne (j : Nat) (hj : j ∈ order) : j ≠ id := fun e => hid (e ▸ hj)
      obtain ⟨d, hd, hget⟩ := ih hn { h with subscribers := h.subscribers.insert id (s.send text).2 }
      have hgone : (order.filter fun j =>
          ((h.subscribers.insert id (s.send text).2).get? j).any fun s => !s.isReading) =
          order.filter fun j => (h.subscribers.get? j).any fun s => !s.isReading := by
        refine List.filter_congr fun j hj => ?_
        rw [Dict.get?_insert_of_ne (hne j hj)]
      refine ⟨d, ?_, fun j => ?_⟩
      · rw [hd]
        simp only [hgone, Subscriber.send_eq_closed_iff]
        cases hr : s.isReading <;> simp [hs, hr]
      · rw [hget]
        by_cases hj : j = id
        · subst hj
          simp [hid, hs]
        · simp [hj, Dict.get?_insert_of_ne hj]
    · next hs =>
      obtain ⟨d, hd, hget⟩ := ih hn h
      refine ⟨d, by simp [hd, hs], fun j => ?_⟩
      rw [hget]
      by_cases hj : j = id
      · subst hj
        simp [hid, hs]
      · simp [hj]

theorem mem_registered_iff : id ∈ h.registered ↔ (h.subscribers.get? id).any Subscriber.isRegistered := by
  rw [registered, Dict.mem_keys_iff, Dict.get?_filter]
  cases hs : h.subscribers.get? id with
  | none => simp
  | some s => cases hr : s.isRegistered <;> simp [hr]

theorem nodup_registered (h : Hub) : h.registered.Nodup := Dict.nodup_keys _

/-- A fan-out offers the text of the result to every subscriber, in whatever order it goes through them. -/
theorem fanOut_of_perm (hp : order.Perm h.registered) (r : CheckResult) :
    h.fanOut order r = { h with subscribers := h.subscribers.mapValues (.offer (payload r)) } := by
  have hn : order.Nodup := hp.nodup_iff.mpr h.nodup_registered
  obtain ⟨d, hd, hget⟩ := sendAll_eq (payload r) hn h
  obtain ⟨d', hd', hget'⟩ := foldl_update_eq .unregister
    (hn.filter fun id => (h.subscribers.get? id).any fun s => !s.isReading) { h with subscribers := d }
  have hdict : d' = h.subscribers.mapValues (.offer (payload r)) := by
    refine Dict.ext_get? fun j => ?_
    rw [hget', Dict.get?_mapValues]
    simp only [hget, List.mem_filter, hp.mem_iff, mem_registered_iff]
    cases hs : h.subscribers.get? j with
    | none => simp
    | some s =>
      cases hreg : s.isRegistered with
      | false => simp [hreg]
      | true => cases hread : s.isReading <;> simp [Subscriber.offer_of_isRegistered, hreg, hread]
  rw [fanOut, hd]
  simp only [hd', hdict]

/-! ### Moves -/

/-- What each move does to the hub that it meets. -/
inductive Step (h : Hub) : Move → Hub → Prop where
  | accept (r : CheckResult) (room : h.hasRoom) : Step h (.broadcast r) { h with results := h.results ++ [r] }
  | refuse (r : CheckResult) (room : h.hasRoom = false) : Step h (.broadcast r) h
  | request (q : HubRequest) (isRunning : h.isRunning) :
    Step h (.request q) { h with requests := h.requests ++ [q] }
  | fanOut (order : List Nat) (r : CheckResult) (rest : List CheckResult) (results : h.results = r :: rest) :
    Step h (.takeResult order)
      { h with results := rest, subscribers := h.subscribers.mapValues (.offer (payload r)) }
  | subscribe (rest : List HubRequest) (requests : h.requests = .subscribe true :: rest) :
    Step h .takeRequest
      { h with requests := rest, nextId := h.nextId + 1, subscribers := h.subscribers.insert h.nextId .fresh }
  | subscribeUnawaited (rest : List HubRequest) (requests : h.requests = .subscribe false :: rest) :
    Step h .takeRequest { h with requests := rest, nextId := h.nextId + 1 }
  | unsubscribe (id : Nat) (rest : List HubRequest) (d : Dict Nat Subscriber)
      (requests : h.requests = .unsubscribe id :: rest)
      (subscribers : ∀ j, d.get? j =
        if j = id then (h.subscribers.get? j).map .unregister else h.subscribers.get? j) :
    Step h .takeRequest { h with requests := rest, subscribers := d }
  | count (rest : List HubRequest) (requests : h.requests = .count :: rest) :
    Step h .takeRequest { h with requests := rest }
  | shutdown (rest : List HubRequest) (requests : h.requests = .shutdown :: rest) : Step h .takeRequest h.stop
  | receive (id : Nat) (s : Subscriber) (subscriber : h.subscribers.get? id = some s) (isReading : s.isReading) :
    Step h (.receive id) { h with subscribers := h.subscribers.insert id s.receive.2 }
  | hangUp (id : Nat) (s : Subscriber) (subscriber : h.subscribers.get? id = some s) (isReading : s.isReading) :
    Step h (.hangUp id) { h with subscribers := h.subscribers.insert id s.hangUp }
  | release : Step h .release { h with isHeld := false }
  | expire (isRunning : h.isRunning) (released : h.isHeld = false) (results : h.results = [])
      (requests : h.requests = []) : Step h .expire h.stop

theorem step_of_move? (hm : h.move? m = some h') : Step h m h' := by
  cases m with
  | broadcast r =>
    simp only [move?, Option.ite_none_right_eq_some, Option.some.injEq] at hm
    obtain ⟨-, rfl⟩ := hm
    unfold broadcast
    split
    · next hc => exact .accept r hc
    · next hc => exact .refuse r (Bool.not_eq_true _ ▸ hc)
  | request q =>
    simp only [move?, request?, Option.ite_none_right_eq_some, Bool.and_eq_true, Option.some.injEq] at hm
    obtain ⟨-, ⟨hr, -⟩, rfl⟩ := hm
    exact .request q hr
  | takeResult order =>
    simp only [move?, takeResult?] at hm
    split at hm
    · next r rest hr =>
      rw [Option.ite_none_right_eq_some, Option.some.injEq] at hm
      obtain ⟨hp, rfl⟩ := hm
      rw [fanOut_of_perm (h := { h with results := rest }) hp]
      exact .fanOut order r rest hr
    · cases hm
  | takeRequest =>
    simp only [move?, Option.ite_none_left_eq_some, Option.some.injEq] at hm
    obtain ⟨hne, rfl⟩ := hm
    unfold takeRequest
    split
    · next q rest hq =>
      cases q with
      | subscribe isAwaited =>
        cases isAwaited with
        | true => exact .subscribe rest hq
        | false => exact .subscribeUnawaited rest hq
      | unsubscribe id =>
        obtain ⟨d, hd, hget⟩ := update_eq .unregister id { h with requests := rest }
        have hstep := Step.unsubscribe id rest d hq hget
        rw [← hd] at hstep
        exact hstep
      | count => exact .count rest hq
      | shutdown => exact .shutdown rest hq
    · next hq => exact absurd (List.isEmpty_iff.mpr hq) hne
  | receive id =>
    simp only [move?, receive?] at hm
    split at hm
    · next s hs =>
      simp only [Option.map_eq_some_iff, Option.ite_none_right_eq_some, Option.some.injEq] at hm
      obtain ⟨_, ⟨hr, rfl⟩, rfl⟩ := hm
      exact .receive id s hs hr
    · cases hm
  | hangUp id =>
    simp only [move?, hangUp?] at hm
    split at hm
    · next s hs =>
      rw [Option.ite_none_right_eq_some, Option.some.injEq] at hm
      obtain ⟨hr, rfl⟩ := hm
      exact .hangUp id s hs hr
    · cases hm
  | release =>
    simp only [move?, Option.ite_none_right_eq_some, Option.some.injEq] at hm
    obtain ⟨-, rfl⟩ := hm
    exact .release
  | expire =>
    simp only [move?, Option.ite_none_right_eq_some, Bool.and_eq_true, Bool.not_eq_true', List.isEmpty_iff,
      Option.some.injEq] at hm
    obtain ⟨⟨⟨⟨hr, hheld⟩, hres⟩, hreq⟩, rfl⟩ := hm
    exact .expire hr hheld hres hreq

/-! ### Courses -/

structure Entry where
  move : Move
  met : Hub

/-- A hub in use, and all the moves so far, the oldest first. -/
structure Course where
  hub : Hub
  log : List Entry

/-- What a move can mean for one subscriber. -/
inductive Concern where
  | subscribed
  | fannedOut (r : CheckResult)
  | unsubscribed
  | read
  | hungUp
  | stopped
  deriving DecidableEq, Repr

/-- What becomes of a subscriber, if there is one. -/
def Concern.effect : Concern → Option Subscriber → Option Subscriber
  | subscribed, _ => some .fresh
  | fannedOut r, s? => s?.map (.offer (payload r))
  | unsubscribed, s? | stopped, s? => s?.map .unregister
  | read, s? => s?.map fun s => s.receive.2
  | hungUp, s? => s?.map .hangUp

/-- What the move means for a subscriber. -/
def Entry.concern? (id : Nat) (e : Entry) : Option Concern :=
  match e.move with
  | .broadcast _ | .request _ | .release => none
  | .takeResult _ => e.met.results.head?.map .fannedOut
  | .takeRequest =>
    match e.met.requests.head? with
    | some (.subscribe true) => if e.met.nextId = id then some .subscribed else none
    | some (.unsubscribe id') => if id' = id then some .unsubscribed else none
    | some .shutdown => some .stopped
    | some (.subscribe false) | some .count | none => none
  | .receive id' => if id' = id then some .read else none
  | .hangUp id' => if id' = id then some .hungUp else none
  | .expire => some .stopped

/-- A move does nothing to a subscriber whom it does not concern. -/
theorem Step.get? (hs : Step h m h') (id : Nat) :
    h'.subscribers.get? id =
      ((⟨m, h⟩ : Entry).concern? id).elim (h.subscribers.get? id) (·.effect (h.subscribers.get? id)) := by
  have hinsert {k : Nat} {s : Subscriber} {c : Concern} (heq : k = id → some s = c.effect (h.subscribers.get? id)) :
      (h.subscribers.insert k s).get? id =
        (if k = id then some c else none).elim (h.subscribers.get? id) (·.effect (h.subscribers.get? id)) := by
    split
    · next hk =>
      subst hk
      rw [Dict.get?_insert_self]
      exact heq rfl
    · next hk => exact Dict.get?_insert_of_ne (Ne.symm hk)
  cases hs with
  | accept | refuse | request | release => rfl
  | fanOut order r rest hr =>
    simp only [Entry.concern?, hr, List.head?_cons, Option.map_some, Option.elim_some]
    exact Dict.get?_mapValues ..
  | subscribe rest hr =>
    simp only [Entry.concern?, hr, List.head?_cons]
    exact hinsert fun _ => rfl
  | subscribeUnawaited rest hr | count rest hr => simp [Entry.concern?, hr]
  | unsubscribe k rest d hr hget =>
    simp only [Entry.concern?, hr, List.head?_cons, hget]
    by_cases hk : k = id
    · simp [hk, Concern.effect]
    · simp [hk, Ne.symm hk]
  | shutdown rest hr =>
    simp only [Entry.concern?, hr, List.head?_cons, Option.elim_some]
    exact Dict.get?_mapValues ..
  | receive k s hk =>
    refine hinsert fun he => ?_
    rw [← he, hk]
    rfl
  | hangUp k s hk =>
    refine hinsert fun he => ?_
    rw [← he, hk]
    rfl
  | expire => exact Dict.get?_mapValues ..

/-! ### What a course has brought a subscriber -/

namespace Concern

def given? : Concern → Option Subscriber → Option String
  | read, s? => s?.bind fun s => s.receive.1.text?
  | _, _ => none

def queued? : Concern → Option Subscriber → Option CheckResult
  | fannedOut r, s? => if s?.any Subscriber.takes then some r else none
  | _, _ => none

/-- The result that it misses although it is registered. -/
def missed? : Concern → Option Subscriber → Option CheckResult
  | fannedOut r, s? => if s?.any fun s => s.isRegistered && !s.takes then some r else none
  | _, _ => none

end Concern

def received (id : Nat) (log : List Entry) : List String :=
  log.filterMap fun e => (e.concern? id).bind (·.given? (e.met.subscribers.get? id))

def queued (id : Nat) (log : List Entry) : List CheckResult :=
  log.filterMap fun e => (e.concern? id).bind (·.queued? (e.met.subscribers.get? id))

def missed (id : Nat) (log : List Entry) : List CheckResult :=
  log.filterMap fun e => (e.concern? id).bind (·.missed? (e.met.subscribers.get? id))

namespace Course

def start : Course := ⟨.fresh, []⟩

def move? (c : Course) (m : Move) : Option Course := (c.hub.move? m).map fun h => ⟨h, c.log ++ [⟨m, c.hub⟩]⟩

def moves? (c : Course) (ms : List Move) : Option Course := ms.foldlM move? c

theorem move?_eq_some {c c' : Course} {m : Move} (hm : c.move? m = some c') :
    ∃ h, Step c.hub m h ∧ c' = ⟨h, c.log ++ [⟨m, c.hub⟩]⟩ := by
  obtain ⟨h, hh, rfl⟩ := Option.map_eq_some_iff.mp hm
  exact ⟨h, step_of_move? hh, rfl⟩

end Course

end EndpointWatch.Hub
