import EndpointWatch.Proofs.Breaker.Course
import Mathlib.Algebra.GroupWithZero.Nat

/-!
# What the counts of a breaker say

`Breaker.Sound`: a breaker is closed as long as it has counted fewer failures than it takes to open it, it counts
successes only while it is half-open and no more than one of them, and unless it is closed it knows when the last
failure was. A call that is let in, an outcome, a reset and the clock keep it so, in whatever order they come and
whichever phase the call of an outcome was let in in.
-/

namespace EndpointWatch

namespace Breaker

/-- What the phase of a breaker says of its counts, under limits `s` and at the time `now`. -/
structure Sound (s : Settings) (now : Nat) (b : Breaker) : Prop where
  closed_iff : b.phase = .closed ↔ b.failures < s.maxFailures
  successes_eq : b.phase ≠ .halfOpen → b.successes = 0
  successes_le : b.successes ≤ 1
  lastFailure : b.phase ≠ .closed → ∃ t, b.lastFailure? = some t ∧ t ≤ now

theorem Settings.maxFailures_effective_pos (s : Settings) : 0 < s.effective.maxFailures := by
  simp only [effective]
  split
  · decide
  · exact UInt32.pos_iff_ne_zero.mpr ‹_›

/-- Counting a failure adds one up to the largest number of 32 bits, and stays there. -/
theorem toNat_bump (n : UInt32) : (bump n).toNat = min (n.toNat + 1) (2 ^ 32 - 1) := by
  have hn := n.toNat_lt
  unfold bump
  split
  · next h => rw [h]; rfl
  · next h =>
    have h' : n.toNat ≠ 2 ^ 32 - 1 := fun e => h (UInt32.toNat_inj.mp e)
    rw [UInt32.toNat_add]
    show (n.toNat + 1) % 2 ^ 32 = _
    omega

theorem le_bump (n : UInt32) : n ≤ bump n := by
  rw [UInt32.le_iff_toNat_le, toNat_bump]
  have := n.toNat_lt
  omega

namespace Sound

variable {s : Settings} {now : Nat} {b b' : Breaker}

theorem fresh (h : 0 < s.maxFailures) : Sound s now .fresh where
  closed_iff := iff_of_true rfl h
  successes_eq _ := rfl
  successes_le := by decide
  lastFailure h := absurd rfl h

theorem later {now' : Nat} (hle : now ≤ now') (h : Sound s now b) : Sound s now' b :=
  ⟨h.closed_iff, h.successes_eq, h.successes_le, fun hp =>
    let ⟨t, ht, htn⟩ := h.lastFailure hp
    ⟨t, ht, Nat.le_trans htn hle⟩⟩

theorem max_le_failures (h : Sound s now b) (hp : b.phase ≠ .closed) : s.maxFailures ≤ b.failures :=
  UInt32.not_lt.mp fun hlt => hp (h.closed_iff.mpr hlt)

theorem successes_eq_zero_or_one (h : Sound s now b) : b.successes = 0 ∨ b.successes = 1 := by
  have hle := UInt32.le_iff_toNat_le.mp h.successes_le
  rw [← UInt32.toNat_inj, ← UInt32.toNat_inj]
  show b.successes.toNat = 0 ∨ b.successes.toNat = 1
  have : b.successes.toNat ≤ 1 := hle
  omega

theorem letIn (h : Sound s now b) (ha : b.admit? s now = some b') : Sound s now b' := by
  rcases admit?_eq_some_iff.mp ha with ⟨-, rfl⟩ | ⟨hp, -, rfl⟩
  · exact h
  · have hc : b.phase ≠ .closed := by rw [hp]; decide
    have hmax := h.max_le_failures hc
    exact ⟨iff_of_false nofun (UInt32.not_lt.mpr hmax), fun _ => rfl, (by decide : (0 : UInt32) ≤ 1),
      fun _ => h.lastFailure hc⟩

theorem recordSuccess (hs : 0 < s.maxFailures) (h : Sound s now b) : Sound s now b.recordSuccess := by
  rcases hp : b.phase with _ | _ | _
  · have hne : b.phase ≠ .halfOpen := by rw [hp]; decide
    rw [recordSuccess_of_closed hp]
    exact ⟨iff_of_true hp hs, fun _ => h.successes_eq hne, h.successes_le, fun hc => absurd hp hc⟩
  · rw [recordSuccess_of_opened hp]
    exact h
  · have hc : b.phase ≠ .closed := by rw [hp]; decide
    rcases h.successes_eq_zero_or_one with h0 | h1
    · rw [recordSuccess_of_first hp h0]
      exact ⟨h.closed_iff, fun hp' => absurd hp hp', UInt32.le_refl 1, fun _ => h.lastFailure hc⟩
    · rw [recordSuccess_of_second hp h1]
      exact ⟨iff_of_true rfl hs, fun _ => rfl, (by decide : (0 : UInt32) ≤ 1), fun hc => absurd rfl hc⟩

theorem recordFailure (h : Sound s now b) : Sound s now (b.recordFailure s now) := by
  refine ⟨?_, fun _ => rfl, (by decide : (0 : UInt32) ≤ 1), fun _ => ⟨now, rfl, Nat.le_refl _⟩⟩
  unfold Breaker.recordFailure
  have past (hc : b.phase ≠ .closed) : ¬ bump b.failures < s.maxFailures :=
    UInt32.not_lt.mpr (UInt32.le_trans (h.max_le_failures hc) (le_bump _))
  rcases hp : b.phase with _ | _ | _
  · show (if s.maxFailures ≤ bump b.failures then Phase.opened else .closed) = .closed ↔ _
    split
    · next hle => exact iff_of_false (by decide) (UInt32.not_lt.mpr hle)
    · next hlt => exact iff_of_true rfl (UInt32.not_le.mp hlt)
  · exact iff_of_false nofun (past (by rw [hp]; decide))
  · exact iff_of_false nofun (past (by rw [hp]; decide))

theorem record (hs : 0 < s.maxFailures) (ok : Bool) (h : Sound s now b) : Sound s now (b.record s now ok) := by
  cases ok
  · exact h.recordFailure
  · exact h.recordSuccess hs

end Sound

/-! ### Along a course -/

/-- A session that keeps the limits it was given, with a sound breaker. -/
structure Session.Sound (limits : Settings) (s : Session) : Prop where
  settings_eq : s.settings = limits.effective
  breaker : s.breaker.Sound s.settings s.now

theorem Session.Sound.move {limits : Settings} {c c' : Course} {m : Move} (h : c.session.Sound limits)
    (hm : c.move? m = some c') : c'.session.Sound limits := by
  have hpos : 0 < c.session.settings.maxFailures := h.settings_eq ▸ limits.maxFailures_effective_pos
  rcases Course.move_cases hm with ⟨ms, -, rfl⟩ | ⟨n, s, -, hs, rfl⟩ | ⟨n, -, -, rfl⟩ | ⟨n, ok, s, -, hs, rfl⟩ |
    ⟨n, s, -, hs, rfl⟩ | ⟨-, rfl⟩
  · exact ⟨h.settings_eq, h.breaker.later (Nat.le_add_right ..)⟩
  · obtain ⟨b, hb, rfl⟩ := Session.arrive?_eq_some hs
    exact ⟨h.settings_eq, h.breaker.letIn hb⟩
  · exact h
  · obtain ⟨-, rfl⟩ := Session.finish?_eq_some hs
    exact ⟨h.settings_eq, h.breaker.record hpos ok⟩
  · obtain ⟨-, rfl⟩ := Session.abandon?_eq_some hs
    exact ⟨h.settings_eq, h.breaker⟩
  · exact ⟨h.settings_eq, .fresh hpos⟩

theorem Session.Sound.moves {limits : Settings} {c c' : Course} {ms : List Move} (h : c.session.Sound limits)
    (hms : c.moves? ms = some c') : c'.session.Sound limits :=
  keeps_of_run (P := fun c : Course => c.session.Sound limits) (fun _ _ _ hc => hc.move) ms h hms

theorem Session.Sound.start (limits : Settings) : (Session.start limits).Sound limits :=
  ⟨rfl, .fresh limits.maxFailures_effective_pos⟩

theorem Session.sound_of_run {limits : Settings} {ms : List Move} {c : Course}
    (h : (Course.start limits).moves? ms = some c) : c.session.Sound limits :=
  (Session.Sound.start limits).moves h

/-- In every run of a breaker, whatever its limits: it is closed exactly as long as it has counted fewer failures
than it takes to open it, successes are only counted while it is half-open and no more than one of them, unless it
is closed it knows a last failure that is not in the future, and no counter ever wraps around. -/
theorem counts_of_run {limits : Settings} {ms : List Move} {c : Course}
    (h : (Course.start limits).moves? ms = some c) :
    let s := c.session
    let b := s.breaker
    (b.phase = .closed ↔ b.failures < limits.effective.maxFailures) ∧
    (b.phase = .closed ∨ b.phase = .opened → b.successes = 0) ∧ (b.phase = .halfOpen → b.successes ≤ 1) ∧
    (b.phase = .opened ∨ b.phase = .halfOpen → ∃ t, b.lastFailure? = some t ∧ t ≤ s.now) ∧
    ((b.successes + 1).toNat = b.successes.toNat + 1 ∧
      (bump b.failures).toNat = min (b.failures.toNat + 1) (2 ^ 32 - 1)) := by
  intro s b
  have hs : s.Sound limits := Session.sound_of_run h
  have hb : b.Sound s.settings s.now := hs.breaker
  refine ⟨hs.settings_eq ▸ hb.closed_iff, fun hp => hb.successes_eq ?_, fun _ => hb.successes_le,
    fun hp => hb.lastFailure ?_, ?_, toNat_bump b.failures⟩
  · rcases hp with hp | hp <;> rw [hp] <;> decide
  · rcases hp with hp | hp <;> rw [hp] <;> decide
  · have hle := hb.successes_le
    rw [UInt32.le_iff_toNat_le] at hle
    rw [UInt32.toNat_add]
    show (b.successes.toNat + 1) % 2 ^ 32 = _
    have : b.successes.toNat ≤ 1 := hle
    omega

/-- Of two calls let in while the breaker was closed the first opens it; a third call turns it half-open, and the
second, let in long before, is counted as a success on trial. -/
theorem counts_of_late_success :
    let c : Course := ⟨⟨⟨"w", 1, 10⟩, ⟨.halfOpen, 1, 1, some 5⟩, 15, [3]⟩,
      [⟨.recorded 2 true, 15, .halfOpen⟩, ⟨.began 3, 15, .opened⟩, ⟨.recorded 1 false, 5, .closed⟩,
        ⟨.began 2, 0, .closed⟩, ⟨.began 1, 0, .closed⟩]⟩
    (Course.start ⟨"w", 1, 10⟩).moves?
      [.arrive 1, .arrive 2, .advance 5, .finish 1 false, .advance 10, .arrive 3, .finish 2 true] = some c ∧
    c.session.breaker.successes ≤ 1 ∧ ∃ t, c.session.breaker.lastFailure? = some t ∧ t ≤ c.session.now := by
  intro c
  have h : (Course.start ⟨"w", 1, 10⟩).moves?
      [.arrive 1, .arrive 2, .advance 5, .finish 1 false, .advance 10, .arrive 3, .finish 2 true] = some c := by
    decide
  obtain ⟨-, -, htrial, hlast, -⟩ := counts_of_run h
  exact ⟨h, htrial rfl, hlast (.inr rfl)⟩

end Breaker

end EndpointWatch
