import EndpointWatch.Proofs.Breaker.Trial

/-!
# A breaker always recovers

Whatever a breaker has been through, a call that comes the reset interval after the latest failure is let in, and with
two successes from then on and no failure the breaker is at rest: closed, with nothing counted (`Recovering`). A breaker
at rest stays closed for as many failures in a row as it takes to open it, less one (`Strained`, `recovers_of_run`).
-/

namespace EndpointWatch.Breaker

/-- Closed, with nothing counted. -/
structure Rested (b : Breaker) : Prop where
  phase : b.phase = .closed
  failures : b.failures = 0
  successes : b.successes = 0

/-- How far a breaker has come with `k` successes since it let a call in, and no failure. -/
def Recovering (b : Breaker) : Nat → Prop
  | 0 => b.phase ≠ .opened
  | 1 => b.phase = .halfOpen ∧ b.successes = 1 ∨ b.Rested
  | _ + 2 => b.Rested

/-- What `k` failures in a row have made of a breaker that was at rest. -/
def Strained (s : Settings) (b : Breaker) (k : Nat) : Prop :=
  b.phase = .closed ∧ b.failures.toNat = k ∧ k < s.maxFailures.toNat ∨ b.phase ≠ .closed ∧ s.maxFailures.toNat ≤ k

variable {s : Settings} {now k : Nat} {b b' : Breaker}

theorem rested_fresh : fresh.Rested := ⟨rfl, rfl, rfl⟩

theorem Rested.recovering (h : b.Rested) : b.Recovering k := by
  match k with
  | 0 =>
    show b.phase ≠ .opened
    rw [h.phase]
    decide
  | 1 => exact .inr h
  | _ + 2 => exact h

namespace Recovering

theorem ne_opened (h : b.Recovering k) : b.phase ≠ .opened := by
  match k with
  | 0 => exact h
  | 1 =>
    rcases h with ⟨hp, -⟩ | h
    · rw [hp]; decide
    · rw [h.phase]; decide
  | _ + 2 => rw [Rested.phase h]; decide

theorem admit?_eq (h : b.Recovering k) : b.admit? s now = some b := admit?_eq_some_iff.mpr (.inl ⟨h.ne_opened, rfl⟩)

end Recovering

theorem Rested.recordSuccess (h : b.Rested) : b.recordSuccess.Rested := by
  rw [recordSuccess_of_closed h.phase]
  exact ⟨h.phase, rfl, h.successes⟩

/-- One more success. -/
theorem Recovering.recordSuccess (hs : Sound s now b) (h : b.Recovering k) : b.recordSuccess.Recovering (k + 1) := by
  match k with
  | 0 =>
    rcases hp : b.phase with _ | _ | _
    · refine .inr ?_
      rw [recordSuccess_of_closed hp]
      exact ⟨hp, rfl, hs.successes_eq (by rw [hp]; decide)⟩
    · exact absurd hp h
    · rcases hs.successes_eq_zero_or_one with h0 | h1
      · rw [recordSuccess_of_first hp h0]
        exact .inl ⟨hp, rfl⟩
      · rw [recordSuccess_of_second hp h1]
        exact .inr ⟨rfl, rfl, rfl⟩
  | 1 =>
    rcases h with ⟨hp, h1⟩ | h
    · rw [recordSuccess_of_second hp h1]
      exact ⟨rfl, rfl, rfl⟩
    · exact h.recordSuccess
  | _ + 2 => exact Rested.recordSuccess h

namespace Strained

theorem closed_iff (h : Strained s b k) : b.phase = .closed ↔ k < s.maxFailures.toNat := by
  rcases h with ⟨hp, -, hlt⟩ | ⟨hp, hle⟩
  · exact iff_of_true hp hlt
  · exact iff_of_false hp (Nat.not_lt.mpr hle)

theorem letIn (h : Strained s b k) (ha : b.admit? s now = some b') : Strained s b' k := by
  rcases admit?_eq_some_iff.mp ha with ⟨-, rfl⟩ | ⟨hp, -, rfl⟩
  · exact h
  · rcases h with ⟨hc, -⟩ | ⟨-, hle⟩
    · cases hp.symm.trans hc
    · exact .inr ⟨nofun, hle⟩

/-- One more failure. -/
theorem recordFailure (hs : Sound s now b) (h : Strained s b k) : Strained s (b.recordFailure s now) (k + 1) := by
  have hphase := hs.phase_recordFailure
  rcases h with ⟨hp, hk, hlt⟩ | ⟨hp, hle⟩
  · by_cases hmax : k + 1 < s.maxFailures.toNat
    · rw [if_pos ⟨hp, hk ▸ hmax⟩] at hphase
      exact .inl ⟨hphase, by rw [hs.toNat_failures_recordFailure hp, hk], hmax⟩
    · rw [if_neg fun h => hmax (hk ▸ h.2)] at hphase
      refine .inr ⟨?_, Nat.not_lt.mp hmax⟩
      rw [hphase]
      decide
  · rw [if_neg fun h => hp h.1] at hphase
    refine .inr ⟨?_, Nat.le_succ_of_le hle⟩
    rw [hphase]
    decide

end Strained

theorem Rested.strained (h : b.Rested) (hs : 0 < s.maxFailures) : Strained s b 0 := by
  refine .inl ⟨h.phase, ?_, UInt32.lt_iff_toNat_lt.mp hs⟩
  rw [h.failures]
  rfl

namespace Course

variable {limits : Settings} {c c' : Course} {m : Move} {ms : List Move} {n : Nat}

theorem recovering_move (hs : c.session.Sound limits) (h : c.session.breaker.Recovering k) (hm : c.move? m = some c')
    (hok : ∀ o ∈ m.outcome?, o.2 = true) : c'.session.breaker.Recovering (k + m.outcome?.toList.length) := by
  rcases Course.move_cases hm with ⟨ms, rfl, rfl⟩ | ⟨n, s, rfl, ha, rfl⟩ | ⟨n, rfl, -, rfl⟩ | ⟨n, ok, s, rfl, ha, rfl⟩ |
    ⟨n, s, rfl, ha, rfl⟩ | ⟨rfl, rfl⟩
  · exact h
  · obtain ⟨b, hb, rfl⟩ := Session.arrive?_eq_some ha
    obtain rfl : c.session.breaker = b := Option.some.inj (h.admit?_eq.symm.trans hb)
    exact h
  · exact h
  · obtain ⟨-, rfl⟩ := Session.finish?_eq_some ha
    obtain rfl : ok = true := hok _ rfl
    exact h.recordSuccess hs.breaker
  · obtain ⟨-, rfl⟩ := Session.abandon?_eq_some ha
    exact h
  · exact rested_fresh.recovering

theorem strained_move (hs : c.session.Sound limits) (h : Strained limits.effective c.session.breaker k)
    (hm : c.move? m = some c') (hreset : m ≠ .reset) (hfail : ∀ o ∈ m.outcome?, o.2 = false) :
    Strained limits.effective c'.session.breaker (k + m.outcome?.toList.length) := by
  rcases Course.move_cases hm with ⟨ms, rfl, rfl⟩ | ⟨n, s, rfl, ha, rfl⟩ | ⟨n, rfl, -, rfl⟩ | ⟨n, ok, s, rfl, ha, rfl⟩ |
    ⟨n, s, rfl, ha, rfl⟩ | ⟨rfl, rfl⟩
  · exact h
  · obtain ⟨b, hb, rfl⟩ := Session.arrive?_eq_some ha
    rw [← hs.settings_eq] at h ⊢
    exact h.letIn hb
  · exact h
  · obtain ⟨-, rfl⟩ := Session.finish?_eq_some ha
    obtain rfl : ok = false := hfail _ rfl
    rw [← hs.settings_eq] at h ⊢
    exact h.recordFailure hs.breaker
  · obtain ⟨-, rfl⟩ := Session.abandon?_eq_some ha
    exact h
  · exact absurd rfl hreset

/-- After successes and no failure. -/
theorem recovering_moves (hs : c.session.Sound limits) (h : c.session.breaker.Recovering 0)
    (hms : c.moves? ms = some c') (hok : ∀ o ∈ outcomes ms, o.2 = true) :
    c'.session.breaker.Recovering (outcomes ms).length := by
  refine (holds_of_run (Q := fun ms c' => c'.session.Sound limits ∧
    ((∀ o ∈ outcomes ms, o.2 = true) → c'.session.breaker.Recovering (outcomes ms).length))
    ⟨hs, fun _ => h⟩ ?_ ms hms).2 hok
  intro ms t m t' ⟨ht, hrec⟩ hm
  refine ⟨ht.move hm, fun hall => ?_⟩
  rw [outcomes_concat] at hall ⊢
  rw [List.length_append]
  exact recovering_move ht (hrec fun o ho => hall o (List.mem_append_left _ ho)) hm
    fun o ho => hall o (List.mem_append_right _ (Option.mem_toList.mpr ho))

/-- After failures and no success. -/
theorem strained_moves (hs : c.session.Sound limits) (h : Strained limits.effective c.session.breaker 0)
    (hms : c.moves? ms = some c') (hreset : .reset ∉ ms) (hfail : ∀ o ∈ outcomes ms, o.2 = false) :
    Strained limits.effective c'.session.breaker (outcomes ms).length := by
  refine (holds_of_run (Q := fun ms c' => c'.session.Sound limits ∧ (.reset ∉ ms → (∀ o ∈ outcomes ms, o.2 = false) →
    Strained limits.effective c'.session.breaker (outcomes ms).length)) ⟨hs, fun _ _ => h⟩ ?_ ms hms).2 hreset hfail
  intro ms t m t' ⟨ht, hstr⟩ hm
  refine ⟨ht.move hm, fun hreset hall => ?_⟩
  rw [outcomes_concat] at hall ⊢
  rw [List.length_append]
  refine strained_move ht (hstr (fun hr => hreset (List.mem_append_left _ hr)) fun o ho =>
    hall o (List.mem_append_left _ ho)) hm ?_ fun o ho => hall o (List.mem_append_right _ (Option.mem_toList.mpr ho))
  rintro rfl
  exact hreset (List.mem_append_right _ (List.mem_singleton_self _))

/-- That a breaker stays closed for as many failures in a row as it takes to open it, less one, and opens with the
next. -/
structure Tolerant (limits : Settings) (c : Course) : Prop where
  closed_iff : ∀ ms c', c.moves? ms = some c' → .reset ∉ ms → (∀ o ∈ outcomes ms, o.2 = false) →
    (c'.phase = .closed ↔ (outcomes ms).length ≤ limits.effective.maxFailures.toNat - 1)
  opens : ∀ ms n c', c.moves? (ms ++ [.finish n false]) = some c' → .reset ∉ ms →
    (∀ o ∈ outcomes ms, o.2 = false) → (outcomes ms).length = limits.effective.maxFailures.toNat - 1 →
      c'.phase = .opened

theorem tolerant_of_rested (hs : c.session.Sound limits) (h : c.session.breaker.Rested) : c.Tolerant limits := by
  have hmax := UInt32.lt_iff_toNat_lt.mp limits.maxFailures_effective_pos
  rw [UInt32.toNat_zero] at hmax
  have hstrained := h.strained limits.maxFailures_effective_pos
  refine ⟨fun ms c' hms hreset hfail => ?_, fun ms n c' hms hreset hfail hlen => ?_⟩
  · have hiff : c'.phase = .closed ↔ _ := (strained_moves hs hstrained hms hreset hfail).closed_iff
    rw [hiff]
    omega
  · obtain ⟨t, ht, hm⟩ := run_append.mp hms
    obtain ⟨u, hm, hu⟩ := run_cons hm
    cases hu
    have hst := hs.moves ht
    have hlast := strained_move hst (strained_moves hs hstrained ht hreset hfail) hm nofun fun o ho => by
      obtain rfl := Option.some.inj ho
      rfl
    have hne : c'.phase ≠ .closed := fun hp => by
      have hlt := hlast.closed_iff.mp hp
      have : (outcomes ms).length + 1 < limits.effective.maxFailures.toNat := hlt
      omega
    obtain ⟨-, rfl⟩ := move?_finish_eq_some_iff.mp hm
    have hphase : (t.session.breaker.recordFailure t.session.settings t.session.now).phase = _ :=
      hst.breaker.phase_recordFailure
    split at hphase
    · exact absurd hphase hne
    · exact hphase

theorem exists_admit?_of_elapsed (hr : c.Remembers limits) (hs : c.session.Sound limits)
    (h : ∀ t ∈ failureTimes c.log, t + limits.effective.resetInterval ≤ c.session.now) :
    ∃ b, c.session.breaker.admit? c.session.settings c.session.now = some b ∧ b.phase ≠ .opened := by
  by_cases hp : c.phase = .opened
  · refine ⟨_, admit?_eq_some_iff.mpr (.inr ⟨hp, ?_, rfl⟩), nofun⟩
    rw [hr.cooledDown_iff hp hs.breaker, Option.all_eq_true]
    intro t ht
    exact decide_eq_true (h t (List.max?_eq_some_iff.mp ht).1)
  · exact ⟨_, admit?_eq_some_iff.mpr (.inl ⟨hp, rfl⟩), hp⟩

/-- In every state that a run can reach a call is let in once the reset interval has passed since the latest failure.
From then on every call is let in as long as no failure is recorded, and after two successes the breaker is at rest and
tolerates as many failures in a row as it takes to open it, less one. -/
theorem recovers_of_run {ms : List Move} (h : (Course.start limits).moves? ms = some c)
    (helapsed : ∀ t ∈ failureTimes c.log, t + limits.effective.resetInterval ≤ c.session.now) (n : Nat) :
    ∃ s, c.move? (.arrive n) = some (c.tell (.began n) s) ∧
      ∀ ms' c', (c.tell (.began n) s).moves? ms' = some c' → (∀ o ∈ outcomes ms', o.2 = true) →
        (∀ k, ∃ s', c'.move? (.arrive k) = some (c'.tell (.began k) s')) ∧
        (2 ≤ (outcomes ms').length → c'.session.breaker.Rested ∧ c'.Tolerant limits) := by
  have hsound := Session.sound_of_run h
  obtain ⟨b, hb, hp⟩ := exists_admit?_of_elapsed (Remembers.of_run h) hsound helapsed
  refine ⟨_, move?_arrive hb n, fun ms' c' hms hok => ?_⟩
  have hin : (c.tell (.began n) { c.session with
      breaker := b
      inFlight := n :: c.session.inFlight }).session.Sound limits :=
    ⟨hsound.settings_eq, hsound.breaker.letIn hb⟩
  have hrec := recovering_moves hin hp hms hok
  refine ⟨fun k => ⟨_, move?_arrive hrec.admit?_eq k⟩, fun htwo => ?_⟩
  obtain ⟨i, hi⟩ := Nat.exists_eq_add_of_le' htwo
  rw [hi] at hrec
  exact ⟨hrec, tolerant_of_rested (hin.moves hms) hrec⟩

/-- A breaker that became half-open with a call that was then given up: with the next two calls it comes to rest. -/
theorem recovers_of_abandoned_trial :
    let c : Course := ⟨⟨⟨"w", 2, 10⟩, ⟨.halfOpen, 2, 0, some 0⟩, 10, []⟩,
      [⟨.abandoned 3, 10, .halfOpen⟩, ⟨.began 3, 10, .opened⟩, ⟨.recorded 2 false, 0, .closed⟩,
        ⟨.recorded 1 false, 0, .closed⟩, ⟨.began 2, 0, .closed⟩, ⟨.began 1, 0, .closed⟩]⟩
    let c₁ := c.tell (.began 4) ⟨⟨"w", 2, 10⟩, ⟨.halfOpen, 2, 0, some 0⟩, 10, [4]⟩
    (Course.start ⟨"w", 2, 10⟩).moves? [.arrive 1, .arrive 2, .finish 1 false, .finish 2 false, .advance 10, .arrive 3,
      .abandon 3] = some c ∧
    c.move? (.arrive 4) = some c₁ ∧
    ∃ c', c₁.moves? [.finish 4 true, .arrive 5, .finish 5 true] = some c' ∧ c'.session.breaker.Rested ∧
      c'.Tolerant ⟨"w", 2, 10⟩ := by
  intro c c₁
  have h : (Course.start ⟨"w", 2, 10⟩).moves? [.arrive 1, .arrive 2, .finish 1 false, .finish 2 false, .advance 10,
      .arrive 3, .abandon 3] = some c := by decide
  have hm : c.move? (.arrive 4) = some c₁ := by decide
  obtain ⟨s, hs, hall⟩ := recovers_of_run h (by decide) 4
  rw [← show c₁ = c.tell (.began 4) s from Option.some.inj (hm.symm.trans hs)] at hall
  obtain ⟨-, hrest⟩ := hall [.finish 4 true, .arrive 5, .finish 5 true] _ rfl (by decide)
  exact ⟨h, hm, _, rfl, hrest (by decide)⟩

end Course

end EndpointWatch.Breaker
