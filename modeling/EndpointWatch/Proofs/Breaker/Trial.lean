import EndpointWatch.Proofs.Breaker.Phases

/-!
# Which calls close a breaker

An outcome counts in the phase that it meets, whenever its call was let in. So a half-open breaker is closed by the
successes of calls let in since it became half-open, and of calls that were in flight when it did (`OnTrial`). It is
closed by those on trial alone, whatever happens, exactly if no call was in flight when it became half-open
(`closesByTrial_iff`).
-/

namespace EndpointWatch.Breaker

namespace Move

/-- The call that comes with a move. -/
def arrival? : Move → Option Nat
  | .arrive n => some n
  | _ => none

/-- The outcome that a move records, and its call. -/
def outcome? : Move → Option (Nat × Bool)
  | .finish n ok => some (n, ok)
  | _ => none

end Move

def arrivals (ms : List Move) : List Nat := ms.filterMap Move.arrival?

def outcomes (ms : List Move) : List (Nat × Bool) := ms.filterMap Move.outcome?

theorem outcomes_concat (ms : List Move) (m : Move) : outcomes (ms ++ [m]) = outcomes ms ++ m.outcome?.toList :=
  filterMap_concat _ ms m

theorem mem_arrivals_concat {ms : List Move} {n : Nat} (m : Move) (h : n ∈ arrivals ms) : n ∈ arrivals (ms ++ [m]) := by
  rw [arrivals, filterMap_concat]
  exact List.mem_append_left _ h

namespace Course

/-- The course after a move that leaves the breaker half-open. -/
def trialMove? (c : Course) (m : Move) : Option Course := (c.move? m).filter (·.phase = .halfOpen)

theorem trialMove?_eq_some {c c' : Course} {m : Move} (h : c.trialMove? m = some c') :
    c.move? m = some c' ∧ c'.phase = .halfOpen := by
  obtain ⟨hm, hp⟩ := Option.filter_eq_some_iff.mp h
  exact ⟨hm, of_decide_eq_true hp⟩

/-- What is known of a breaker that became half-open with the call `n`, while the calls `earlier` were in flight, and
has been half-open during the moves `ms` since then. -/
structure OnTrial (limits : Settings) (n : Nat) (earlier : List Nat) (ms : List Move) (c : Course) : Prop where
  sound : c.session.Sound limits
  phase : c.phase = .halfOpen
  successes : ∀ o ∈ outcomes ms, o.2 = true
  counted : c.session.breaker.successes.toNat = (outcomes ms).length
  inFlight : ∀ k ∈ c.session.inFlight, k ∈ n :: arrivals ms ∨ k ∈ earlier
  known : ∀ o ∈ outcomes ms, o.1 ∈ n :: arrivals ms ∨ o.1 ∈ earlier

namespace OnTrial

variable {limits : Settings} {c c' : Course} {k n : Nat} {earlier : List Nat} {ms : List Move} {m : Move}

theorem widen (h : k ∈ n :: arrivals ms ∨ k ∈ earlier) (m : Move) : k ∈ n :: arrivals (ms ++ [m]) ∨ k ∈ earlier := by
  rcases h with h | h
  · rcases List.mem_cons.mp h with rfl | h
    · exact .inl (List.mem_cons_self ..)
    · exact .inl (List.mem_cons_of_mem _ (mem_arrivals_concat m h))
  · exact .inr h

/-- A move that records nothing and starts no call. -/
theorem silent (h : OnTrial limits n earlier ms c) (hsound : c'.session.Sound limits) (hphase : c'.phase = .halfOpen)
    (ho : m.outcome? = none) (hb : c'.session.breaker = c.session.breaker)
    (hin : ∀ k ∈ c'.session.inFlight, k ∈ c.session.inFlight ∨ m.arrival? = some k) :
    OnTrial limits n earlier (ms ++ [m]) c' := by
  have hsame : outcomes (ms ++ [m]) = outcomes ms := by
    rw [outcomes_concat, ho]
    exact List.append_nil _
  refine ⟨hsound, hphase, hsame ▸ h.successes, ?_, fun k hk => ?_, fun o ho => widen (h.known o (hsame ▸ ho)) m⟩
  · rw [hb, hsame, h.counted]
  · rcases hin k hk with hk | hk
    · exact widen (h.inFlight k hk) m
    · refine .inl (List.mem_cons_of_mem _ ?_)
      rw [arrivals, filterMap_concat, hk]
      exact List.mem_append_right _ (List.mem_singleton_self k)

/-- The only outcome that leaves a breaker half-open is the first success. -/
theorem finish (h : OnTrial limits n earlier ms c) {ok : Bool} {s : Session}
    (hs : c.session.finish? k ok = some s) (hsound : s.Sound limits) (hphase : s.breaker.phase = .halfOpen) :
    OnTrial limits n earlier (ms ++ [.finish k ok]) (c.tell (.recorded k ok) s) := by
  obtain ⟨hk, rfl⟩ := Session.finish?_eq_some hs
  have hp : c.session.breaker.phase = .halfOpen := h.phase
  cases ok with
  | false =>
    have hopen : (c.session.breaker.recordFailure c.session.settings c.session.now).phase = .opened := by
      rw [h.sound.breaker.phase_recordFailure, hp]
      rfl
    cases hphase.symm.trans hopen
  | true =>
    rcases h.sound.breaker.successes_eq_zero_or_one with h0 | h1
    · have hone : (c.session.breaker.recordSuccess).successes.toNat = 1 := by
        rw [recordSuccess_of_first hp h0]
        rfl
      have hnone : outcomes ms = [] := by
        rw [← List.length_eq_zero_iff, ← h.counted, h0]
        rfl
      have hall : outcomes (ms ++ [.finish k true]) = [(k, true)] := by
        rw [outcomes_concat, hnone]
        rfl
      refine ⟨hsound, hphase, fun o ho => ?_, ?_, fun j hj => ?_, fun o ho => ?_⟩
      · obtain rfl := List.mem_singleton.mp (hall ▸ ho)
        rfl
      · rw [hall]
        exact hone
      · exact widen (h.inFlight j (List.mem_of_mem_erase hj)) _
      · obtain rfl := List.mem_singleton.mp (hall ▸ ho)
        exact widen (h.inFlight k hk) _
    · have hclosed : (c.session.breaker.recordSuccess).phase = .closed := by rw [recordSuccess_of_second hp h1]
      cases hphase.symm.trans hclosed

theorem move (h : OnTrial limits n earlier ms c) (hm : c.trialMove? m = some c') :
    OnTrial limits n earlier (ms ++ [m]) c' := by
  obtain ⟨hm, hphase⟩ := trialMove?_eq_some hm
  have hsound := h.sound.move hm
  have hopen : c.session.breaker.phase ≠ .opened := by
    rw [show c.session.breaker.phase = .halfOpen from h.phase]
    decide
  rcases Course.move_cases hm with ⟨ms', rfl, rfl⟩ | ⟨k, s, rfl, hs, rfl⟩ | ⟨k, rfl, -, rfl⟩ |
    ⟨k, ok, s, rfl, hs, rfl⟩ | ⟨k, s, rfl, hs, rfl⟩ | ⟨rfl, rfl⟩
  · exact h.silent hsound hphase rfl rfl fun k hk => .inl hk
  · obtain ⟨b, hb, rfl⟩ := Session.arrive?_eq_some hs
    rcases admit?_eq_some_iff.mp hb with ⟨-, rfl⟩ | ⟨hp, -⟩
    · refine h.silent hsound hphase rfl rfl fun j hj => ?_
      rcases List.mem_cons.mp hj with rfl | hj
      · exact .inr rfl
      · exact .inl hj
    · exact absurd hp hopen
  · exact h.silent hsound hphase rfl rfl fun j hj => .inl hj
  · exact h.finish hs hsound hphase
  · obtain ⟨-, rfl⟩ := Session.abandon?_eq_some hs
    exact h.silent hsound hphase rfl rfl fun j hj => .inl (List.mem_of_mem_erase hj)
  · cases hphase

/-- What a call that turns the breaker half-open begins. -/
theorem start (hsound : c.session.Sound limits) (hp : c.phase = .opened) (hm : c.move? (.arrive n) = some c')
    (hp' : c'.phase = .halfOpen) :
    OnTrial limits n c.session.inFlight [] c' ∧ c'.session.inFlight = n :: c.session.inFlight := by
  have hsound' := hsound.move hm
  rcases arrive_cases hm with ⟨b, hb, rfl⟩ | ⟨-, rfl⟩
  · rcases admit?_eq_some_iff.mp hb with ⟨hne, -⟩ | ⟨-, -, rfl⟩
    · exact absurd hp hne
    · refine ⟨⟨hsound', rfl, nofun, rfl, fun j hj => ?_, nofun⟩, rfl⟩
      rcases List.mem_cons.mp hj with rfl | hj
      · exact .inl (List.mem_cons_self ..)
      · exact .inr hj
  · cases hp.symm.trans hp'

theorem of_run (h : OnTrial limits n earlier [] c) (hms : ms.foldlM trialMove? c = some c') :
    OnTrial limits n earlier ms c' :=
  holds_of_run h (fun _ _ _ _ ht hm => ht.move hm) ms hms

end OnTrial

/-- That a breaker that has become half-open with the call `n` is closed by the successes of two calls that were let in
since then, whatever happens as long as it is half-open. -/
def ClosesByTrial (n : Nat) (c : Course) : Prop :=
  ∀ ms c₁ k c₂, ms.foldlM trialMove? c = some c₁ → c₁.move? (.finish k true) = some c₂ → c₂.phase = .closed →
    ∃ j, outcomes ms = [(j, true)] ∧ j ∈ n :: arrivals ms ∧ k ∈ n :: arrivals ms

theorem closesByTrial_of_inFlight_eq_nil {limits : Settings} {c : Course} {n : Nat}
    (h : OnTrial limits n [] [] c) : ClosesByTrial n c := by
  intro ms c₁ k c₂ hms hm hp
  have ht := h.of_run hms
  obtain ⟨hk, rfl⟩ := move?_finish_eq_some_iff.mp hm
  have hk := (ht.inFlight k hk).resolve_right List.not_mem_nil
  -- had it counted no success before, this one would leave it half-open
  have h1 : c₁.session.breaker.successes = 1 := by
    refine ht.sound.breaker.successes_eq_zero_or_one.resolve_left fun h0 => ?_
    have hfirst : c₁.session.breaker.recordSuccess.phase = .halfOpen := by
      rw [recordSuccess_of_first ht.phase h0]
      exact ht.phase
    cases hfirst.symm.trans hp
  have hlen : (outcomes ms).length = 1 := by
    rw [← ht.counted, h1]
    rfl
  obtain ⟨⟨j, ok⟩, hj⟩ := List.length_eq_one_iff.mp hlen
  have hmem : (j, ok) ∈ outcomes ms := by
    rw [hj]
    exact List.mem_singleton_self _
  obtain rfl : ok = true := ht.successes _ hmem
  exact ⟨j, hj, (ht.known _ hmem).resolve_right List.not_mem_nil, hk⟩

/-- A call that was in flight when the breaker became half-open closes it together with the call that made it so. -/
theorem not_closesByTrial {limits : Settings} {c : Course} {k n : Nat} {earlier : List Nat}
    (h : OnTrial limits n earlier [] c) (hin : c.session.inFlight = n :: earlier) (hk : k ∈ earlier)
    (hn : n ∉ earlier) : ¬ClosesByTrial n c := by
  intro hcloses
  have h0 : c.session.breaker.successes = 0 := UInt32.toNat_inj.mp h.counted
  have hfirst := recordSuccess_of_first h.phase h0
  have hne : n ≠ k := fun he => hn (he ▸ hk)
  -- first the call from before succeeds, and the breaker stays half-open
  have hin₁ : k ∈ c.session.inFlight := hin ▸ List.mem_cons_of_mem n hk
  set c₁ := c.tell (.recorded k true) { c.session with
    breaker := c.session.breaker.recordSuccess
    inFlight := c.session.inFlight.erase k } with hc₁
  have hb : c₁.session.breaker = { c.session.breaker with successes := 1 } := hfirst
  have hphase : c₁.phase = .halfOpen := (congrArg Breaker.phase hb).trans h.phase
  have hrun : [.finish k true].foldlM trialMove? c = some c₁ := by
    have htrial : c.trialMove? (.finish k true) = some c₁ :=
      Option.filter_eq_some_iff.mpr ⟨move?_finish_eq_some_iff.mpr ⟨hin₁, rfl⟩, decide_eq_true hphase⟩
    rw [List.foldlM_cons, htrial]
    rfl
  -- then the call succeeds with which it became so
  have hn₁ : n ∈ c₁.session.inFlight := by
    show n ∈ c.session.inFlight.erase k
    rw [hin]
    exact (List.mem_erase_of_ne hne).mpr (List.mem_cons_self ..)
  have hclosed : (c₁.session.breaker.recordSuccess).phase = .closed := by
    rw [recordSuccess_of_second hphase (by rw [hb])]
  obtain ⟨j, hj, hmem, -⟩ := hcloses _ _ n _ hrun (move?_finish_eq_some_iff.mpr ⟨hn₁, rfl⟩) hclosed
  obtain ⟨rfl, -⟩ : k = j ∧ true = true := by simpa [outcomes, Move.outcome?] using hj
  have hk : k = n := by simpa [arrivals, Move.arrival?] using hmem
  exact hne hk.symm

/-- An open breaker becomes half-open with a call. It will be closed by the successes of calls let in since then, and of
no others, whatever happens, exactly if no call was in flight before. -/
theorem closesByTrial_iff {limits : Settings} {ms : List Move} {c c' : Course} {n : Nat}
    (h : (Course.start limits).moves? ms = some c) (hp : c.phase = .opened) (hn : n ∉ c.session.inFlight)
    (hm : c.move? (.arrive n) = some c') (hp' : c'.phase = .halfOpen) :
    ClosesByTrial n c' ↔ c.session.inFlight = [] := by
  obtain ⟨ht, hin⟩ := OnTrial.start (Session.sound_of_run h) hp hm hp'
  constructor
  · intro hcloses
    by_contra hne
    obtain ⟨k, hk⟩ := List.exists_mem_of_ne_nil _ hne
    exact not_closesByTrial ht hin hk hn hcloses
  · intro hnil
    exact closesByTrial_of_inFlight_eq_nil (hnil ▸ ht)

/-- One call opens the breaker and another is given up, so that none is in flight when it becomes half-open. -/
theorem closesByTrial_of_abandoned :
    let c : Course := ⟨⟨⟨"w", 1, 10⟩, ⟨.opened, 1, 0, some 0⟩, 10, []⟩,
      [⟨.abandoned 2, 0, .opened⟩, ⟨.recorded 1 false, 0, .closed⟩, ⟨.began 2, 0, .closed⟩, ⟨.began 1, 0, .closed⟩]⟩
    let c' := c.tell (.began 3) ⟨⟨"w", 1, 10⟩, ⟨.halfOpen, 1, 0, some 0⟩, 10, [3]⟩
    (Course.start ⟨"w", 1, 10⟩).moves? [.arrive 1, .arrive 2, .finish 1 false, .abandon 2, .advance 10] = some c ∧
    c.move? (.arrive 3) = some c' ∧ ClosesByTrial 3 c' := by
  intro c c'
  have h : (Course.start ⟨"w", 1, 10⟩).moves? [.arrive 1, .arrive 2, .finish 1 false, .abandon 2, .advance 10] =
      some c := by decide
  have hm : c.move? (.arrive 3) = some c' := by decide
  exact ⟨h, hm, (closesByTrial_iff h rfl List.not_mem_nil hm rfl).mpr rfl⟩

/-- Two calls that were let in before a third one opened the breaker close it again, while the only call on trial is
still in flight. -/
theorem closed_during_trial :
    let c : Course := ⟨⟨⟨"w", 1, 10⟩, ⟨.opened, 1, 0, some 0⟩, 10, [2, 1]⟩,
      [⟨.recorded 3 false, 0, .closed⟩, ⟨.began 3, 0, .closed⟩, ⟨.began 2, 0, .closed⟩, ⟨.began 1, 0, .closed⟩]⟩
    let c' := c.tell (.began 4) ⟨⟨"w", 1, 10⟩, ⟨.halfOpen, 1, 0, some 0⟩, 10, [4, 2, 1]⟩
    (Course.start ⟨"w", 1, 10⟩).moves? [.arrive 1, .arrive 2, .arrive 3, .finish 3 false, .advance 10] = some c ∧
    c.move? (.arrive 4) = some c' ∧
    (∃ c₂, c'.moves? [.finish 1 true, .finish 2 true] = some c₂ ∧ c₂.phase = .closed ∧ c₂.session.inFlight = [4]) ∧
    ¬ClosesByTrial 4 c' := by
  intro c c'
  have h : (Course.start ⟨"w", 1, 10⟩).moves? [.arrive 1, .arrive 2, .arrive 3, .finish 3 false, .advance 10] =
      some c := by decide
  refine ⟨h, by decide, ⟨_, rfl, by decide, by decide⟩, fun hcloses => ?_⟩
  have hrun : [.finish 1 true].foldlM trialMove? c' =
      some (c'.tell (.recorded 1 true) ⟨⟨"w", 1, 10⟩, ⟨.halfOpen, 1, 1, some 0⟩, 10, [4, 2]⟩) := by decide
  obtain ⟨j, hj, hmem, -⟩ := hcloses _ _ 2 _ hrun rfl (by decide)
  obtain rfl : j = 1 := by simpa [outcomes, Move.outcome?] using hj.symm
  exact absurd hmem (by decide)

end Course

end EndpointWatch.Breaker
