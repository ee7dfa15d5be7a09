import EndpointWatch.Proofs.Hub.Course

/-!
# The queues and the register of a hub

No queue ever holds more than it can, subscribers get ever larger numbers (`Sound`), and a subscriber leaves the register
only for a reason of its own, or with all others when the hub stops (`Step.leaves`).
-/

namespace EndpointWatch

/-- Its queue has no more than it can hold, and nothing waits for a reader that hung up. -/
structure Subscriber.Sound (s : Subscriber) : Prop where
  unread_le : s.unread.length ≤ capacity
  unread_eq : s.isReading = false → s.unread = []

namespace Subscriber.Sound

variable {s : Subscriber}

theorem fresh : Sound .fresh := ⟨Nat.zero_le _, nofun⟩

theorem offer (hs : Sound s) (text : String) : Sound (s.offer text) := by
  refine ⟨?_, fun hr => ?_⟩
  · rw [unread_offer]
    split
    · next ht =>
      simp only [takes, Bool.and_eq_true, decide_eq_true_eq] at ht
      rw [List.length_append, List.length_singleton]
      exact ht.2
    · exact hs.unread_le
  · rw [isReading_offer] at hr
    have ht : s.takes = false := by simp [takes, hr]
    rw [unread_offer, ht, if_neg Bool.false_ne_true]
    exact hs.unread_eq hr

theorem unregister (hs : Sound s) : Sound s.unregister := ⟨hs.unread_le, hs.unread_eq⟩

theorem receive (hs : Sound s) : Sound s.receive.2 := by
  have happ := s.receive_append_unread
  refine ⟨?_, fun hr => ?_⟩
  · have hle := hs.unread_le
    rw [← happ, List.length_append] at hle
    omega
  · rw [isReading_receive] at hr
    rw [hs.unread_eq hr, List.append_eq_nil_iff] at happ
    exact happ.2

theorem hangUp : Sound s.hangUp := ⟨Nat.zero_le _, fun _ => rfl⟩

end Subscriber.Sound

namespace Hub

variable {h h' : Hub} {m : Move} {id : Nat}

structure Sound (h : Hub) : Prop where
  results_le : h.results.length ≤ capacity
  stopped : h.isRunning = false → h.results = []
  id_lt : ∀ id s, h.subscribers.get? id = some s → id < h.nextId
  subscriber : ∀ id s, h.subscribers.get? id = some s → s.Sound

theorem Sound.get?_nextId (hh : h.Sound) : h.subscribers.get? h.nextId = none := by
  cases hs : h.subscribers.get? h.nextId with
  | none => rfl
  | some s => exact absurd (hh.id_lt _ s hs) (Nat.lt_irrefl _)

theorem Concern.effect_sound {k : Concern} {s? : Option Subscriber} (hs : ∀ s, s? = some s → s.Sound) :
    ∀ s, k.effect s? = some s → s.Sound := by
  intro s' hk
  cases k with
  | subscribed => cases hk; exact .fresh
  | fannedOut r =>
    obtain ⟨s, h, rfl⟩ := Option.map_eq_some_iff.mp hk
    exact (hs s h).offer _
  | unsubscribed | stopped =>
    obtain ⟨s, h, rfl⟩ := Option.map_eq_some_iff.mp hk
    exact (hs s h).unregister
  | read =>
    obtain ⟨s, h, rfl⟩ := Option.map_eq_some_iff.mp hk
    exact (hs s h).receive
  | hungUp =>
    obtain ⟨s, h, rfl⟩ := Option.map_eq_some_iff.mp hk
    exact .hangUp

theorem Concern.isSome_effect {k : Concern} (hk : k ≠ .subscribed) (s? : Option Subscriber) :
    (k.effect s?).isSome = s?.isSome := by
  cases k with
  | subscribed => exact absurd rfl hk
  | _ => exact Option.isSome_map

theorem Step.isSome_get? (hs : Step h m h') (hsome : (h.subscribers.get? id).isSome) :
    (h'.subscribers.get? id).isSome := by
  rw [hs.get? id]
  cases (⟨m, h⟩ : Entry).concern? id with
  | none => exact hsome
  | some k =>
    by_cases hsub : k = .subscribed
    · rw [hsub]
      rfl
    · exact (Concern.isSome_effect hsub _).trans hsome

/-- Only the next number is ever given to a subscriber. -/
theorem Step.of_subscribed (hs : Step h m h') (hk : (⟨m, h⟩ : Entry).concern? id = some .subscribed) :
    id = h.nextId ∧ h'.nextId = h.nextId + 1 := by
  cases hs <;> simp_all [Entry.concern?]

/-- Only a reader that is still there looks into its queue and hangs up. -/
theorem Step.of_reader (hs : Step h m h')
    (hk : (⟨m, h⟩ : Entry).concern? id = some .read ∨ (⟨m, h⟩ : Entry).concern? id = some .hungUp) :
    ∃ s, h.subscribers.get? id = some s ∧ s.isReading := by
  cases hs <;> simp_all [Entry.concern?]

theorem Step.nextId_le (hs : Step h m h') : h.nextId ≤ h'.nextId := by
  cases hs with
  | subscribe | subscribeUnawaited => exact Nat.le_succ _
  | _ => exact Nat.le_refl _

theorem Step.id_lt (hs : Step h m h') (hid : ∀ id s, h.subscribers.get? id = some s → id < h.nextId) (s' : Subscriber)
    (hs' : h'.subscribers.get? id = some s') : id < h'.nextId := by
  rw [hs.get? id] at hs'
  cases hk : (⟨m, h⟩ : Entry).concern? id with
  | none =>
    rw [hk] at hs'
    exact Nat.lt_of_lt_of_le (hid id s' hs') hs.nextId_le
  | some k =>
    rw [hk, Option.elim_some] at hs'
    by_cases hsub : k = .subscribed
    · subst hsub
      obtain ⟨rfl, hnext⟩ := hs.of_subscribed hk
      rw [hnext]
      exact Nat.lt_succ_self _
    · have hsome := Concern.isSome_effect hsub (h.subscribers.get? id)
      rw [hs', Option.isSome_some] at hsome
      obtain ⟨s, hget⟩ := Option.isSome_iff_exists.mp hsome.symm
      exact Nat.lt_of_lt_of_le (hid id s hget) hs.nextId_le

theorem Sound.step (hh : h.Sound) (hs : Step h m h') : h'.Sound where
  results_le := by
    cases hs with
    | accept r hroom =>
      simp only [hasRoom, Bool.and_eq_true, decide_eq_true_eq] at hroom
      rw [List.length_append, List.length_singleton]
      exact hroom.2
    | fanOut order r rest hr =>
      have := hh.results_le
      rw [hr, List.length_cons] at this
      exact Nat.le_of_succ_le this
    | shutdown | expire => exact Nat.zero_le _
    | _ => exact hh.results_le
  stopped := by
    intro hr
    cases hs with
    | accept r hroom =>
      simp only [hasRoom, Bool.and_eq_true] at hroom
      rw [hroom.1] at hr
      cases hr
    | fanOut order r rest hr' =>
      rw [hh.stopped hr] at hr'
      cases hr'
    | shutdown | expire => rfl
    | _ => exact hh.stopped hr
  id_lt := fun _ => hs.id_lt hh.id_lt
  subscriber := by
    intro id
    rw [hs.get? id]
    cases (⟨m, h⟩ : Entry).concern? id with
    | none => exact hh.subscriber id
    | some k => exact Concern.effect_sound (hh.subscriber id)

theorem Concern.isReading_effect {k : Concern} {s? : Option Subscriber} {s' : Subscriber} (hk : k ≠ .hungUp)
    (hsub : k ≠ .subscribed) (h' : k.effect s? = some s') : ∃ s, s? = some s ∧ s'.isReading = s.isReading := by
  cases k with
  | subscribed => exact absurd rfl hsub
  | hungUp => exact absurd rfl hk
  | fannedOut | unsubscribed | stopped | read =>
    obtain ⟨s, hs, rfl⟩ := Option.map_eq_some_iff.mp h'
    exact ⟨s, hs, by simp [Subscriber.unregister]⟩

theorem Entry.move_of_hungUp {e : Entry} (hk : e.concern? id = some .hungUp) : e.move = .hangUp id := by
  cases hm : e.move with
  | hangUp id' =>
    simp only [concern?, hm, Option.ite_none_right_eq_some] at hk
    rw [hk.1]
  | takeRequest =>
    simp only [concern?, hm] at hk
    split at hk <;> simp at hk
  | broadcast | request | takeResult | receive | release | expire => simp [concern?, hm] at hk

/-- A reader is there after a move if it was before, unless it has just hung up, and a new reader is there. -/
theorem Step.isReading (hs : Step h m h') (hh : h.Sound) (hm : m ≠ .hangUp id) {s' : Subscriber}
    (hs' : h'.subscribers.get? id = some s') :
    (∃ s, h.subscribers.get? id = some s ∧ s'.isReading = s.isReading) ∨
      h.subscribers.get? id = none ∧ s'.isReading := by
  rw [hs.get? id] at hs'
  cases hk : (⟨m, h⟩ : Entry).concern? id with
  | none =>
    rw [hk] at hs'
    exact .inl ⟨s', hs', rfl⟩
  | some k =>
    rw [hk, Option.elim_some] at hs'
    by_cases hsub : k = .subscribed
    · subst hsub
      obtain ⟨rfl, -⟩ := hs.of_subscribed hk
      cases hs'
      exact .inr ⟨hh.get?_nextId, rfl⟩
    · refine .inl (Concern.isReading_effect (fun hh => hm ?_) hsub hs')
      subst hh
      exact Entry.move_of_hungUp hk

/-- Who is on the register stays there unless it is asked to be taken off, or its reader has hung up, or the hub
stops. -/
theorem Step.leaves (hs : Step h m h') (hid : id ∈ h.registered) (hid' : id ∉ h'.registered) :
    (m = .takeRequest ∧ h.requests.head? = some (.unsubscribe id)) ∨
      (∃ order s, m = .takeResult order ∧ h.subscribers.get? id = some s ∧ s.isReading = false) ∨
      h'.isRunning = false := by
  obtain ⟨s, hget, hreg⟩ := (Option.any_eq_true ..).mp (mem_registered_iff.mp hid)
  rw [mem_registered_iff] at hid'
  have hinsert {k : Nat} {t : Subscriber} (ht : k = id → t.isRegistered) :
      ((h.subscribers.insert k t).get? id).any Subscriber.isRegistered := by
    by_cases hk : k = id
    · subst hk
      rw [Dict.get?_insert_self]
      exact ht rfl
    · rw [Dict.get?_insert_of_ne (Ne.symm hk), hget]
      exact hreg
  cases hs with
  | accept | refuse | request | release | count | subscribeUnawaited => exact absurd (mem_registered_iff.mp hid) hid'
  | fanOut order r rest hr =>
    refine .inr (.inl ⟨order, s, rfl, hget, ?_⟩)
    simpa [Dict.get?_mapValues, hget, Subscriber.isRegistered_offer, hreg] using hid'
  | subscribe rest hr => exact absurd (hinsert fun _ => rfl) hid'
  | unsubscribe k rest d hr hd =>
    refine .inl ⟨rfl, ?_⟩
    by_cases hk : id = k
    · rw [hr, hk, List.head?_cons]
    · simp [hd, hk, hget, hreg] at hid'
  | shutdown | expire => exact .inr (.inr rfl)
  | receive k t hk =>
    refine absurd (hinsert fun he => ?_) hid'
    rw [he, hget] at hk
    cases hk
    rw [Subscriber.isRegistered_receive, hreg]
  | hangUp k t hk =>
    refine absurd (hinsert fun he => ?_) hid'
    rw [he, hget] at hk
    cases hk
    exact hreg

end Hub

end EndpointWatch
