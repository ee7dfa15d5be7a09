import EndpointWatch.Proofs.Breaker.Course

/-!
# When a breaker turns calls away

A breaker keeps a single time, and `Remembers` says which one: that of the latest failure recorded since the last
reset, in whatever phase it was recorded. So a call is turned away exactly while the breaker is open and the reset
interval has not passed since that failure (`turnedAway_iff`).
-/

namespace EndpointWatch.Breaker

/-! ### The failures of a log -/

/-- The time of an entry that records a failure. -/
def Entry.failure? (e : Entry) : Option Nat :=
  match e.event with
  | .recorded _ false => some e.time
  | _ => none

/-- The times of the failures recorded since the last reset, the newest first. -/
def failureTimes (log : List Entry) : List Nat := (log.takeWhile (·.event ≠ .reset)).filterMap Entry.failure?

theorem failureTimes_recorded {log : List Entry} {t : Nat} {p : Phase} (n : Nat) (ok : Bool) :
    failureTimes (⟨.recorded n ok, t, p⟩ :: log) = if ok then failureTimes log else t :: failureTimes log := by
  cases ok <;> rfl

theorem max?_eq_head?_of_falling {l : List Nat} (h : l.Pairwise (· ≥ ·)) : l.max? = l.head? := by
  cases l with
  | nil => rfl
  | cons a l =>
    rw [List.head?_cons, List.max?_eq_some_iff]
    exact ⟨List.mem_cons_self .., fun b hb => (List.mem_cons.mp hb).elim Nat.le_of_eq ((List.pairwise_cons.mp h).1 b)⟩

/-! ### What a breaker remembers -/

variable {s : Settings} {now : Nat} {b b' : Breaker}

theorem admit?_eq_none_iff :
    b.admit? s now = none ↔ b.phase = .opened ∧ ∃ t, b.lastFailure? = some t ∧ now - t < s.resetInterval := by
  rcases hp : b.phase with _ | _ | _ <;> rcases hl : b.lastFailure? with _ | t <;>
    simp [admit?, cooledDown, hp, hl]

theorem lastFailure?_of_admit? (h : b.admit? s now = some b') : b'.lastFailure? = b.lastFailure? := by
  rcases admit?_eq_some_iff.mp h with ⟨-, rfl⟩ | ⟨-, -, rfl⟩
  · rfl
  · rfl

theorem lastFailure?_record (ok : Bool) :
    (b.record s now ok).lastFailure? = if ok then b.lastFailure? else some now := by
  cases ok with
  | false => rfl
  | true =>
    show b.recordSuccess.lastFailure? = b.lastFailure?
    unfold recordSuccess
    split
    · split <;> rfl
    · rfl
    · rfl

/-- The breaker's last failure is the newest of its log, the log is in order of time, and no operation began in an
open breaker before the reset interval had passed since every failure. -/
structure Course.Remembers (limits : Settings) (c : Course) : Prop where
  settings_eq : c.session.settings = limits.effective
  last : c.session.breaker.lastFailure? = (failureTimes c.log).head?
  falling : (failureTimes c.log).Pairwise (· ≥ ·)
  past : ∀ t ∈ failureTimes c.log, t ≤ c.session.now
  began : ∀ later n t earlier, c.log = later ++ ⟨.began n, t, .opened⟩ :: earlier →
    ∀ u ∈ failureTimes earlier, u + limits.effective.resetInterval ≤ t

namespace Course.Remembers

variable {limits : Settings} {c c' : Course} {m : Move}

theorem start (limits : Settings) : (Course.start limits).Remembers limits where
  settings_eq := rfl
  last := rfl
  falling := .nil
  past t ht := absurd ht List.not_mem_nil
  began later n t earlier h := by simp [Course.start] at h

theorem max?_eq (h : c.Remembers limits) : (failureTimes c.log).max? = c.session.breaker.lastFailure? := by
  rw [max?_eq_head?_of_falling h.falling, h.last]

/-- The log after one more entry still tells of no operation that began too early, if the new one does not. -/
theorem began_cons (h : c.Remembers limits) {e : Entry}
    (he : ∀ n, e.event = .began n → e.phase = .opened →
      ∀ u ∈ failureTimes c.log, u + limits.effective.resetInterval ≤ e.time) :
    ∀ later n t earlier, e :: c.log = later ++ ⟨.began n, t, .opened⟩ :: earlier →
      ∀ u ∈ failureTimes earlier, u + limits.effective.resetInterval ≤ t := by
  intro later n t earlier hl
  rcases later with _ | ⟨e', later⟩
  · obtain ⟨rfl, rfl⟩ := List.cons_eq_cons.mp hl
    exact he n rfl rfl
  · exact h.began later n t earlier (List.cons_eq_cons.mp hl).2

theorem le_now_of_admit? (h : c.Remembers limits) (hp : c.session.breaker.phase = .opened)
    (ha : c.session.breaker.admit? c.session.settings c.session.now ≠ none) :
    ∀ u ∈ failureTimes c.log, u + limits.effective.resetInterval ≤ c.session.now := by
  intro u hu
  obtain ⟨t, ht⟩ : ∃ t, (failureTimes c.log).max? = some t :=
    Option.ne_none_iff_exists'.mp fun hn => by
      rw [List.max?_eq_none_iff] at hn
      rw [hn] at hu
      exact List.not_mem_nil hu
  have hut : u ≤ t := (List.max?_eq_some_iff.mp ht).2 u hu
  have htn : t ≤ c.session.now := h.past t (List.max?_eq_some_iff.mp ht).1
  rw [h.max?_eq] at ht
  have hlong : ¬ c.session.now - t < c.session.settings.resetInterval := fun hlt =>
    ha (admit?_eq_none_iff.mpr ⟨hp, t, ht, hlt⟩)
  rw [h.settings_eq] at hlong
  omega

theorem move (h : c.Remembers limits) (hm : c.move? m = some c') : c'.Remembers limits := by
  have other {e : Event} (he : ∀ n, e ≠ .began n) : ∀ n, e = .began n → c.session.breaker.phase = .opened →
      ∀ u ∈ failureTimes c.log, u + limits.effective.resetInterval ≤ c.session.now :=
    fun n hn => absurd hn (he n)
  rcases Course.move_cases hm with ⟨ms, -, rfl⟩ | ⟨n, s, -, hs, rfl⟩ | ⟨n, -, -, rfl⟩ | ⟨n, ok, s, -, hs, rfl⟩ |
    ⟨n, s, -, hs, rfl⟩ | ⟨-, rfl⟩
  · exact ⟨h.settings_eq, h.last, h.falling, fun t ht => Nat.le_trans (h.past t ht) (Nat.le_add_right ..), h.began⟩
  · obtain ⟨b, hb, rfl⟩ := Session.arrive?_eq_some hs
    refine ⟨h.settings_eq, (lastFailure?_of_admit? hb).trans h.last, h.falling, h.past, h.began_cons ?_⟩
    intro _ _ hp
    exact h.le_now_of_admit? hp (by rw [hb]; exact nofun)
  · exact ⟨h.settings_eq, h.last, h.falling, h.past, h.began_cons (other nofun)⟩
  · obtain ⟨-, rfl⟩ := Session.finish?_eq_some hs
    -- a failure is now the newest of all, since no earlier one lies in the future
    have hlast : (c.session.breaker.record c.session.settings c.session.now ok).lastFailure? = _ :=
      lastFailure?_record ok
    refine ⟨h.settings_eq, hlast.trans ?_, ?_, ?_, h.began_cons (other nofun)⟩ <;>
      simp only [Course.tell, failureTimes_recorded]
    · cases ok
      · rfl
      · exact h.last
    · cases ok
      · exact List.pairwise_cons.mpr ⟨h.past, h.falling⟩
      · exact h.falling
    · cases ok
      · exact fun t ht => (List.mem_cons.mp ht).elim Nat.le_of_eq (h.past t)
      · exact h.past
  · obtain ⟨-, rfl⟩ := Session.abandon?_eq_some hs
    exact ⟨h.settings_eq, h.last, h.falling, h.past, h.began_cons (other nofun)⟩
  · exact ⟨h.settings_eq, rfl, .nil, fun t ht => absurd ht List.not_mem_nil,
      h.began_cons (other nofun)⟩

theorem of_run {ms : List Move} (h : (Course.start limits).moves? ms = some c) : c.Remembers limits :=
  keeps_of_run (P := Remembers limits) (fun _ _ _ hc => hc.move) ms (start limits) h

end Course.Remembers

/-- At any point of any run a call is turned away, without being run and without a change of anything but the log,
exactly if the breaker is open and less than the reset interval has passed since the latest failure recorded since the
last reset. Hence no operation ever began in an open breaker within the reset interval of such a failure. -/
theorem turnedAway_iff {ε τ : Type} {limits : Settings} {ms : List Move} {c : Course}
    (h : (Course.start limits).moves? ms = some c) (n : Nat) :
    (c.move? (.arrive n) = some (c.tell (.turnedAway n) c.session) ↔
      c.session.breaker.phase = .opened ∧
        ∃ t, (failureTimes c.log).max? = some t ∧ c.session.now - t < limits.effective.resetInterval) ∧
    (∀ e : Session.Ending ε τ, e ≠ .cancelledBefore →
      (c.session.call e = ((.error .turnedAway, false), c.session) ↔
        c.move? (.arrive n) = some (c.tell (.turnedAway n) c.session))) ∧
    ∀ later k t earlier, c.log = later ++ ⟨.began k, t, .opened⟩ :: earlier →
      ∀ u ∈ failureTimes earlier, u + limits.effective.resetInterval ≤ t := by
  have hr := Course.Remembers.of_run h
  have hnone : c.move? (.arrive n) = some (c.tell (.turnedAway n) c.session) ↔ c.session.arrive? n = none := by
    simp only [Course.move?]
    split <;> simp_all [Course.tell]
  refine ⟨?_, fun e he => (Session.call_eq_turnedAway_iff he).trans hnone.symm, hr.began⟩
  rw [hnone, Session.arrive?_eq_none_iff, admit?_eq_none_iff, hr.max?_eq, hr.settings_eq]

/-- A failure at 8, recorded while the breaker is open since a failure at 0, keeps it from letting a call in at 13,
although the interval of 10 has passed since the first one. -/
theorem turnedAway_of_late_failure :
    let c : Course := ⟨⟨⟨"w", 1, 10⟩, ⟨.opened, 2, 0, some 8⟩, 13, []⟩,
      [⟨.recorded 2 false, 8, .opened⟩, ⟨.recorded 1 false, 0, .closed⟩, ⟨.began 2, 0, .closed⟩,
        ⟨.began 1, 0, .closed⟩]⟩
    (Course.start ⟨"w", 1, 10⟩).moves?
      [.arrive 1, .arrive 2, .finish 1 false, .advance 8, .finish 2 false, .advance 5] = some c ∧
    failureTimes c.log = [8, 0] ∧
    c.session.call (.cancelledDuring : Session.Ending Unit Unit) = ((.error .turnedAway, false), c.session) := by
  intro c
  have h : (Course.start ⟨"w", 1, 10⟩).moves?
      [.arrive 1, .arrive 2, .finish 1 false, .advance 8, .finish 2 false, .advance 5] = some c := by decide
  obtain ⟨hiff, hcall, -⟩ := @turnedAway_iff Unit Unit _ _ _ h 3
  have hc := hiff.mpr ⟨rfl, 8, by decide, by decide⟩
  exact ⟨h, rfl, (hcall .cancelledDuring nofun).mpr hc⟩

end EndpointWatch.Breaker
