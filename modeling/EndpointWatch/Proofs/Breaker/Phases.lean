import EndpointWatch.Proofs.Breaker.Counts
import EndpointWatch.Proofs.Breaker.Rejection

/-!
# How a breaker changes its phase

What a breaker has counted is what its log tells of the phase it is in (`Course.Tallies`): while it is closed, how many
failures in a row were the newest outcomes since it closed; while it is half-open, how many successes came since it
became so; while it is open, every call since the latest failure came too early. So the phase after a move follows from
the log (`phase_of_move`), and every change of phase is lawful (`lawful_of_run`).
-/

namespace EndpointWatch.Breaker

/-! ### What a call and an outcome do to a breaker -/

section

variable {s : Settings} {now : Nat} {b : Breaker}

namespace Sound

/-- A closed breaker has room for one more failure in its count. -/
theorem toNat_failures_recordFailure (h : Sound s now b) (hp : b.phase = .closed) :
    (b.recordFailure s now).failures.toNat = b.failures.toNat + 1 := by
  have hlt := UInt32.lt_iff_toNat_lt.mp (h.closed_iff.mp hp)
  have hmax := s.maxFailures.toNat_lt
  show (bump b.failures).toNat = _
  rw [toNat_bump]
  omega

theorem phase_recordFailure (h : Sound s now b) : (b.recordFailure s now).phase =
    if b.phase = .closed ∧ b.failures.toNat + 1 < s.maxFailures.toNat then .closed else .opened := by
  rcases hp : b.phase with _ | _ | _
  · have hbump : (bump b.failures).toNat = _ := h.toNat_failures_recordFailure hp
    simp only [Breaker.recordFailure, hp, UInt32.le_iff_toNat_le, hbump, true_and]
    split
    · rw [if_neg (by omega)]
    · rw [if_pos (by omega)]
  · simp [Breaker.recordFailure, hp]
  · simp [Breaker.recordFailure, hp]

end Sound

end

/-! ### What a log tells of the phase that a breaker is in -/

/-- The outcome that an entry records. -/
def Entry.outcome? (e : Entry) : Option Bool :=
  match e.event with
  | .recorded _ ok => some ok
  | _ => none

/-- Whether an entry tells that a call came. -/
def Entry.isArrival (e : Entry) : Bool :=
  match e.event with
  | .began _ | .turnedAway _ => true
  | _ => false

/-- The outcomes recorded since a breaker that is in phase `p` came to it, the newest first. A reset begins anew. -/
def outcomesIn (p : Phase) (log : List Entry) : List Bool :=
  (log.takeWhile fun e => e.event ≠ .reset ∧ e.phase = p).filterMap Entry.outcome?

/-- How many of the newest outcomes are failures in a row, in the closed phase. -/
def failuresInARow (log : List Entry) : Nat := ((outcomesIn .closed log).takeWhile (!·)).length

/-- What came after the latest failure. -/
def sinceFailure (log : List Entry) : List Entry := log.takeWhile (·.failure?.isNone)

variable {p : Phase} {e : Entry} {log : List Entry}

theorem outcomesIn_cons (he : e.event ≠ .reset) (hp : e.phase = p) :
    outcomesIn p (e :: log) = e.outcome?.toList ++ outcomesIn p log := by
  rw [outcomesIn, List.takeWhile_cons_of_pos (by simp [he, hp])]
  cases ho : e.outcome? <;> simp [outcomesIn, ho]

theorem outcomesIn_cons_recorded {n t : Nat} {ok : Bool} {q : Phase} (hq : q = p) :
    outcomesIn p (⟨.recorded n ok, t, q⟩ :: log) = ok :: outcomesIn p log :=
  outcomesIn_cons nofun hq

theorem outcomesIn_cons_of_ne (hp : e.phase ≠ p) : outcomesIn p (e :: log) = [] := by
  rw [outcomesIn, List.takeWhile_cons_of_neg (by simp [hp]), List.filterMap_nil]

theorem outcomesIn_cons_reset {t : Nat} {q : Phase} : outcomesIn p (⟨.reset, t, q⟩ :: log) = [] := by
  rw [outcomesIn, List.takeWhile_cons_of_neg (by simp), List.filterMap_nil]

theorem sinceFailure_cons (he : e.failure? = none) : sinceFailure (e :: log) = e :: sinceFailure log :=
  List.takeWhile_cons_of_pos (by simp [he])

theorem sinceFailure_cons_failure {n t : Nat} {q : Phase} : sinceFailure (⟨.recorded n false, t, q⟩ :: log) = [] :=
  List.takeWhile_cons_of_neg (by simp [Entry.failure?])

namespace Course

def phase (c : Course) : Phase := c.session.breaker.phase

@[simp] theorem tell_session (e : Event) (s : Session) (c : Course) : (c.tell e s).session = s := rfl

/-- What a breaker has counted is what its log tells of the phase that it is in. -/
structure Tallies (c : Course) : Prop where
  failures : c.phase = .closed → c.session.breaker.failures.toNat = failuresInARow c.log
  successes : c.phase = .halfOpen →
    outcomesIn .halfOpen c.log = List.replicate c.session.breaker.successes.toNat true
  early : c.phase = .opened → ∀ e ∈ sinceFailure c.log, e.isArrival →
    ∀ t ∈ c.session.breaker.lastFailure?, e.time < t + c.session.settings.resetInterval

namespace Tallies

variable {limits : Settings} {c c' : Course} {m : Move}

theorem of_closed (hp : c.phase = .closed) (h : c.session.breaker.failures.toNat = failuresInARow c.log) : c.Tallies :=
  ⟨fun _ => h, fun hp' => Phase.noConfusion (hp.symm.trans hp'), fun hp' => Phase.noConfusion (hp.symm.trans hp')⟩

theorem of_halfOpen (hp : c.phase = .halfOpen)
    (h : outcomesIn .halfOpen c.log = List.replicate c.session.breaker.successes.toNat true) : c.Tallies :=
  ⟨fun hp' => Phase.noConfusion (hp.symm.trans hp'), fun _ => h, fun hp' => Phase.noConfusion (hp.symm.trans hp')⟩

theorem of_opened (hp : c.phase = .opened) (h : ∀ e ∈ sinceFailure c.log, e.isArrival →
    ∀ t ∈ c.session.breaker.lastFailure?, e.time < t + c.session.settings.resetInterval) : c.Tallies :=
  ⟨fun hp' => Phase.noConfusion (hp.symm.trans hp'), fun hp' => Phase.noConfusion (hp.symm.trans hp'), fun _ => h⟩

theorem start (limits : Settings) : (Course.start limits).Tallies := of_closed rfl rfl

/-- An entry that records nothing, while the breaker stays as it is. A call that it tells of must have come too early
if the breaker is open. -/
theorem silent (h : c.Tallies) {e : Event} {s : Session} (hb : s.breaker = c.session.breaker)
    (hset : s.settings = c.session.settings) (he : e ≠ .reset) (hr : ∀ n ok, e ≠ .recorded n ok)
    (hearly : c.phase = .opened → Entry.isArrival ⟨e, c.session.now, c.phase⟩ →
      ∀ t ∈ c.session.breaker.lastFailure?, c.session.now < t + c.session.settings.resetInterval) :
    (c.tell e s).Tallies := by
  have hnone : Entry.outcome? ⟨e, c.session.now, c.phase⟩ = none ∧
      Entry.failure? ⟨e, c.session.now, c.phase⟩ = none := by
    cases e with
    | recorded n ok => exact absurd rfl (hr n ok)
    | _ => exact And.intro rfl rfl
  have hsame {q : Phase} (hq : c.phase = q) : outcomesIn q (c.tell e s).log = outcomesIn q c.log := by
    show outcomesIn q (⟨e, c.session.now, c.phase⟩ :: c.log) = _
    rw [outcomesIn_cons he hq, hnone.1]
    rfl
  have hphase : (c.tell e s).phase = c.phase := congrArg Breaker.phase hb
  refine ⟨fun hp => ?_, fun hp => ?_, fun hp => ?_⟩ <;> rw [hphase] at hp <;> simp only [tell_session, hb, hset]
  · rw [failuresInARow, hsame hp, h.failures hp]
    rfl
  · rw [hsame hp, h.successes hp]
  · intro y hy harr t ht
    have hy : y ∈ sinceFailure (⟨e, c.session.now, c.phase⟩ :: c.log) := hy
    rw [sinceFailure_cons hnone.2] at hy
    rcases List.mem_cons.mp hy with rfl | hy
    · exact hearly hp harr t ht
    · exact h.early hp y hy harr t ht

theorem advance (h : c.Tallies) (ms : Nat) : Tallies { c with session := c.session.advance ms } :=
  ⟨h.failures, h.successes, h.early⟩

theorem reset (c : Course) : (c.tell .reset c.session.reset).Tallies := by
  refine of_closed rfl ?_
  show 0 = failuresInARow (⟨.reset, c.session.now, c.phase⟩ :: c.log)
  rw [failuresInARow, outcomesIn_cons_reset]
  rfl

/-- A call that comes to an open breaker late enough begins a new half-open phase. -/
theorem halfOpen {e : Event} {s : Session} (hp : c.phase = .opened)
    (hs : s.breaker = { c.session.breaker with phase := .halfOpen, successes := 0 }) : (c.tell e s).Tallies := by
  have hne : c.phase ≠ .halfOpen := by rw [hp]; decide
  refine of_halfOpen (congrArg Breaker.phase hs) ?_
  show outcomesIn .halfOpen (⟨e, c.session.now, c.phase⟩ :: c.log) = _
  rw [outcomesIn_cons_of_ne hne, tell_session, hs]
  rfl

theorem success (h : c.Tallies) (hsound : c.session.breaker.Sound c.session.settings c.session.now) {s : Session}
    (n : Nat) (hset : s.settings = c.session.settings) (hs : s.breaker = c.session.breaker.recordSuccess) :
    (c.tell (.recorded n true) s).Tallies := by
  have hphase : (c.tell (.recorded n true) s).phase = c.session.breaker.recordSuccess.phase := congrArg Breaker.phase hs
  have hlog : (c.tell (.recorded n true) s).log = ⟨.recorded n true, c.session.now, c.phase⟩ :: c.log := rfl
  rcases hp : c.phase with _ | _ | _
  · rw [recordSuccess_of_closed hp] at hs hphase
    refine of_closed (hphase.trans hp) ?_
    rw [tell_session, hs, hlog, failuresInARow, outcomesIn_cons_recorded hp]
    rfl
  · rw [recordSuccess_of_opened hp] at hs hphase
    refine of_opened (hphase.trans hp) fun y hy harr t ht => ?_
    rw [hlog, sinceFailure_cons rfl] at hy
    simp only [tell_session, hs, hset] at ht ⊢
    rcases List.mem_cons.mp hy with rfl | hy
    · cases harr
    · exact h.early hp y hy harr t ht
  · rcases hsound.successes_eq_zero_or_one with h0 | h1
    · rw [recordSuccess_of_first hp h0] at hs hphase
      refine of_halfOpen (hphase.trans hp) ?_
      rw [tell_session, hs, hlog, outcomesIn_cons_recorded hp, h.successes hp, h0]
      rfl
    · rw [recordSuccess_of_second hp h1] at hs hphase
      have hne : c.phase ≠ .closed := by rw [hp]; decide
      refine of_closed hphase ?_
      rw [tell_session, hs, hlog, failuresInARow, outcomesIn_cons_of_ne hne]
      rfl

theorem failure (h : c.Tallies) (hsound : c.session.breaker.Sound c.session.settings c.session.now) {s : Session}
    (n : Nat) (hs : s.breaker = c.session.breaker.recordFailure c.session.settings c.session.now) :
    (c.tell (.recorded n false) s).Tallies := by
  have hphase := (congrArg Breaker.phase hs).trans hsound.phase_recordFailure
  split at hphase
  · next hstays =>
      -- the failure is one more in a row
      have hclosed : c.phase = .closed := hstays.1
      refine of_closed hphase ?_
      rw [tell_session, hs, hsound.toNat_failures_recordFailure hclosed, h.failures hclosed]
      show _ = failuresInARow (⟨.recorded n false, c.session.now, c.phase⟩ :: c.log)
      rw [failuresInARow, failuresInARow, outcomesIn_cons_recorded hclosed]
      rfl
  · refine of_opened hphase fun y hy => ?_
    have hy : y ∈ sinceFailure (⟨.recorded n false, c.session.now, c.phase⟩ :: c.log) := hy
    rw [sinceFailure_cons_failure] at hy
    cases hy

theorem move (h : c.Tallies) (hsound : c.session.Sound limits) (hm : c.move? m = some c') : c'.Tallies := by
  rcases Course.move_cases hm with ⟨ms, -, rfl⟩ | ⟨n, s, -, hs, rfl⟩ | ⟨n, -, hs, rfl⟩ | ⟨n, ok, s, -, hs, rfl⟩ |
    ⟨n, s, -, hs, rfl⟩ | ⟨-, rfl⟩
  · exact h.advance ms
  · obtain ⟨b, hb, rfl⟩ := Session.arrive?_eq_some hs
    rcases admit?_eq_some_iff.mp hb with ⟨hp, rfl⟩ | ⟨hp, -, rfl⟩
    · exact h.silent rfl rfl nofun nofun fun hp' => absurd hp' hp
    · exact halfOpen hp rfl
  · refine h.silent rfl rfl nofun nofun fun _ _ t ht => ?_
    obtain ⟨-, u, hu, hlt⟩ := admit?_eq_none_iff.mp (Session.arrive?_eq_none_iff.mp hs)
    obtain rfl : u = t := Option.some.inj (hu.symm.trans ht)
    omega
  · obtain ⟨-, rfl⟩ := Session.finish?_eq_some hs
    cases ok with
    | true => exact h.success hsound.breaker n rfl rfl
    | false => exact h.failure hsound.breaker n rfl
  · obtain ⟨-, rfl⟩ := Session.abandon?_eq_some hs
    exact h.silent rfl rfl nofun nofun nofun
  · exact reset c

theorem of_run {ms : List Move} (h : (Course.start limits).moves? ms = some c) : c.Tallies :=
  (keeps_of_run (P := fun c : Course => c.session.Sound limits ∧ c.Tallies)
    (fun _ _ _ hc hm => ⟨hc.1.move hm, hc.2.move hc.1 hm⟩) ms
    ⟨.start limits, start limits⟩ h).2

end Tallies

/-! ### The phase after a move -/

variable {limits : Settings} {c c' : Course} {m : Move}

/-- The phase that a breaker comes to with a move, by what its log tells. -/
def nextPhase (limits : Settings) (c : Course) : Move → Phase
  | .arrive _ =>
    if c.phase = .opened ∧ (failureTimes c.log).max?.all (· + limits.effective.resetInterval ≤ c.session.now) then
      .halfOpen
    else c.phase
  | .finish _ true => if c.phase = .halfOpen ∧ outcomesIn .halfOpen c.log = [true] then .closed else c.phase
  | .finish _ false =>
    if c.phase = .closed ∧ failuresInARow c.log + 1 < limits.effective.maxFailures.toNat then .closed else .opened
  | .abandon _ | .advance _ => c.phase
  | .reset => .closed

theorem Remembers.cooledDown_iff (h : c.Remembers limits) (hp : c.phase = .opened)
    (hsound : c.session.breaker.Sound c.session.settings c.session.now) :
    c.session.breaker.cooledDown c.session.settings c.session.now ↔
      (failureTimes c.log).max?.all (· + limits.effective.resetInterval ≤ c.session.now) := by
  have hne : c.session.breaker.phase ≠ .closed := fun hc => Phase.noConfusion (hp.symm.trans hc)
  obtain ⟨t, ht, hle⟩ := hsound.lastFailure hne
  rw [cooledDown, h.max?_eq, ht, h.settings_eq]
  simp only [Option.all_some, decide_eq_true_eq]
  omega

theorem phase_of_arrive (h : c.Remembers limits) (hsound : c.session.breaker.Sound c.session.settings c.session.now)
    {n : Nat} (hm : c.move? (.arrive n) = some c') : c'.phase = nextPhase limits c (.arrive n) := by
  rcases arrive_cases hm with ⟨b, hb, rfl⟩ | ⟨hnone, rfl⟩
  · rcases admit?_eq_some_iff.mp hb with ⟨hp, rfl⟩ | ⟨hp, hlong, rfl⟩
    · exact (if_neg fun h => hp h.1).symm
    · exact (if_pos ⟨hp, (h.cooledDown_iff hp hsound).mp hlong⟩).symm
  · obtain ⟨hp, t, ht, hlt⟩ := admit?_eq_none_iff.mp hnone
    refine (if_neg fun hlong => ?_).symm
    have hlong := (h.cooledDown_iff hp hsound).mpr hlong.2
    rw [cooledDown, ht, Option.all_some, decide_eq_true_eq] at hlong
    omega

theorem phase_of_success (h : c.Tallies) (hsound : c.session.breaker.Sound c.session.settings c.session.now) (n : Nat) :
    c.session.breaker.recordSuccess.phase = nextPhase limits c (.finish n true) := by
  rcases hp : c.phase with _ | _ | _
  · rw [recordSuccess_of_closed hp]
    simp only [nextPhase, hp]
    exact hp
  · rw [recordSuccess_of_opened hp]
    simp only [nextPhase, hp]
    exact hp
  · have htally := h.successes hp
    rcases hsound.successes_eq_zero_or_one with h0 | h1
    · rw [h0] at htally
      rw [recordSuccess_of_first hp h0]
      simp only [nextPhase, hp, htally]
      exact hp
    · rw [h1] at htally
      rw [recordSuccess_of_second hp h1]
      simp only [nextPhase, hp, htally]
      rfl

theorem phase_of_failure (h : c.Tallies) (hsound : c.session.breaker.Sound c.session.settings c.session.now)
    (hset : c.session.settings = limits.effective) (n : Nat) :
    (c.session.breaker.recordFailure c.session.settings c.session.now).phase =
      nextPhase limits c (.finish n false) := by
  rw [hsound.phase_recordFailure, hset]
  refine if_congr (and_congr_right fun hp => ?_) rfl rfl
  rw [h.failures hp]

/-- At any point of a run the phase that a move leads to follows from the log. -/
theorem phase_of_move {ms : List Move} (h : (Course.start limits).moves? ms = some c) (hm : c.move? m = some c') :
    c'.phase = nextPhase limits c m := by
  have hsound := Session.sound_of_run h
  have htallies := Tallies.of_run h
  cases m with
  | arrive n => exact phase_of_arrive (Remembers.of_run h) hsound.breaker hm
  | finish n ok =>
    obtain ⟨-, rfl⟩ := move?_finish_eq_some_iff.mp hm
    cases ok with
    | true => exact phase_of_success htallies hsound.breaker n
    | false => exact phase_of_failure htallies hsound.breaker hsound.settings_eq n
  | abandon n =>
    obtain ⟨s, hs, rfl⟩ := Option.map_eq_some_iff.mp hm
    obtain ⟨-, rfl⟩ := Session.abandon?_eq_some hs
    rfl
  | reset => cases hm; rfl
  | advance ms => cases hm; rfl

/-! ### Lawful changes of phase -/

/-- Which changes of phase a move may make, and when it makes them. -/
structure Lawful (limits : Settings) (c : Course) (m : Move) (c' : Course) : Prop where
  /-- A closed breaker opens with the last of as many failures in a row as it takes, and not otherwise. -/
  opens : c.phase = .closed → (c'.phase = .opened ↔
    (∃ n, m = .finish n false) ∧ failuresInARow c.log + 1 = limits.effective.maxFailures.toNat)
  closed_ne : c.phase = .closed → c'.phase ≠ .halfOpen
  /-- An open breaker becomes half-open when a call comes the reset interval after the latest failure, or later. -/
  onTrial : c.phase = .opened → (c'.phase = .halfOpen ↔ (∃ n, m = .arrive n) ∧
    ∃ t, (failureTimes c.log).max? = some t ∧ t + limits.effective.resetInterval ≤ c.session.now)
  /-- No call before had come so late. -/
  first : c.phase = .opened → ∀ e ∈ sinceFailure c.log, e.isArrival →
    ∃ t, (failureTimes c.log).max? = some t ∧ e.time < t + limits.effective.resetInterval
  ignores : c.phase = .opened → ∀ n ok, m = .finish n ok → c'.phase = .opened
  opened_reset : c.phase = .opened → (c'.phase = .closed ↔ m = .reset)
  /-- A half-open breaker closes with the second of two successes, if they are all that was recorded since it became
  half-open, and it closes on a reset. -/
  closes : c.phase = .halfOpen → (c'.phase = .closed ↔
    m = .reset ∨ (∃ n, m = .finish n true) ∧ outcomesIn .halfOpen c.log = [true])
  cleared : c.phase = .halfOpen → c'.phase = .closed →
    c'.session.breaker.failures = 0 ∧ c'.session.breaker.successes = 0
  reopens : c.phase = .halfOpen → (c'.phase = .opened ↔ ∃ n, m = .finish n false)
  reset : m = .reset → c'.phase = .closed

theorem nextPhase_of_closed (hp : c.phase = .closed)
    (hlt : failuresInARow c.log < limits.effective.maxFailures.toNat) :
    nextPhase limits c m ≠ .halfOpen ∧ (nextPhase limits c m = .opened ↔
      (∃ n, m = .finish n false) ∧ failuresInARow c.log + 1 = limits.effective.maxFailures.toNat) := by
  cases m with
  | finish n ok =>
    cases ok with
    | true => simp [nextPhase, hp]
    | false =>
      have hnext : nextPhase limits c (.finish n false) =
          if failuresInARow c.log + 1 < limits.effective.maxFailures.toNat then .closed else .opened :=
        if_congr (and_iff_right hp) rfl rfl
      rw [hnext]
      split
      · simp; omega
      · simp; omega
  | arrive | abandon | reset | advance => simp [nextPhase, hp]

theorem nextPhase_of_opened (hp : c.phase = .opened) {t : Nat} (ht : (failureTimes c.log).max? = some t) :
    (nextPhase limits c m = .halfOpen ↔
      (∃ n, m = .arrive n) ∧ t + limits.effective.resetInterval ≤ c.session.now) ∧
    (∀ n ok, m = .finish n ok → nextPhase limits c m = .opened) ∧ (nextPhase limits c m = .closed ↔ m = .reset) := by
  cases m with
  | finish n ok => cases ok <;> simp [nextPhase, hp]
  | arrive n =>
    simp only [nextPhase, hp, ht, Option.all_some, true_and, decide_eq_true_eq]
    split <;> simp_all
  | abandon | reset | advance => simp [nextPhase, hp]

theorem nextPhase_of_halfOpen (hp : c.phase = .halfOpen) :
    (nextPhase limits c m = .closed ↔ m = .reset ∨ (∃ n, m = .finish n true) ∧ outcomesIn .halfOpen c.log = [true]) ∧
    (nextPhase limits c m = .opened ↔ ∃ n, m = .finish n false) := by
  cases m with
  | finish n ok =>
    cases ok with
    | true =>
      simp only [nextPhase, hp, true_and]
      split <;> simp_all
    | false => simp [nextPhase, hp]
  | arrive | abandon | reset | advance => simp [nextPhase, hp]

/-- A half-open breaker that closes has forgotten its counts. -/
theorem cleared_of_move {ms : List Move} (h : (Course.start limits).moves? ms = some c) (hm : c.move? m = some c')
    (hp : c.phase = .halfOpen) (hp' : c'.phase = .closed) :
    c'.session.breaker.failures = 0 ∧ c'.session.breaker.successes = 0 := by
  rw [phase_of_move h hm] at hp'
  rcases (nextPhase_of_halfOpen hp).1.mp hp' with rfl | ⟨⟨n, rfl⟩, hone⟩
  · cases hm
    exact ⟨rfl, rfl⟩
  · obtain ⟨-, rfl⟩ := move?_finish_eq_some_iff.mp hm
    have hcount := congrArg List.length ((Tallies.of_run h).successes hp)
    rw [hone, List.length_replicate] at hcount
    have h1 : c.session.breaker.successes = 1 := UInt32.toNat_inj.mp hcount.symm
    show c.session.breaker.recordSuccess.failures = 0 ∧ c.session.breaker.recordSuccess.successes = 0
    rw [recordSuccess_of_second hp h1]
    exact ⟨rfl, rfl⟩

/-- Every move of every run changes the phase as the log demands, and in no other way. -/
theorem lawful_of_run {ms : List Move} (h : (Course.start limits).moves? ms = some c) (hm : c.move? m = some c') :
    Lawful limits c m c' := by
  have hphase := phase_of_move h hm
  have hsound := Session.sound_of_run h
  have hremembers := Remembers.of_run h
  have htallies := Tallies.of_run h
  have hlast (hp : c.phase = .opened) :
      ∃ t, c.session.breaker.lastFailure? = some t ∧ (failureTimes c.log).max? = some t := by
    obtain ⟨t, ht, -⟩ := hsound.breaker.lastFailure fun hc => Phase.noConfusion (hp.symm.trans hc)
    exact ⟨t, ht, hremembers.max?_eq.trans ht⟩
  have hlt (hp : c.phase = .closed) : failuresInARow c.log < limits.effective.maxFailures.toNat := by
    rw [← htallies.failures hp, ← hsound.settings_eq]
    exact UInt32.lt_iff_toNat_lt.mp (hsound.breaker.closed_iff.mp hp)
  refine ⟨fun hp => ?_, fun hp => ?_, fun hp => ?_, fun hp e he harr => ?_, fun hp => ?_, fun hp => ?_, fun hp => ?_,
    fun hp hp' => cleared_of_move h hm hp hp', fun hp => ?_, fun hr => ?_⟩
  · exact hphase ▸ (nextPhase_of_closed hp (hlt hp)).2
  · exact hphase ▸ (nextPhase_of_closed hp (hlt hp)).1
  · obtain ⟨t, -, ht⟩ := hlast hp
    rw [hphase, (nextPhase_of_opened hp ht).1, ht]
    simp
  · obtain ⟨t, ht, hmax⟩ := hlast hp
    refine ⟨t, hmax, ?_⟩
    rw [← hsound.settings_eq]
    exact htallies.early hp e he harr t ht
  · obtain ⟨t, -, ht⟩ := hlast hp
    exact hphase ▸ (nextPhase_of_opened hp ht).2.1
  · obtain ⟨t, -, ht⟩ := hlast hp
    exact hphase ▸ (nextPhase_of_opened hp ht).2.2
  · exact hphase ▸ (nextPhase_of_halfOpen hp).1
  · exact hphase ▸ (nextPhase_of_halfOpen hp).2
  · rw [hphase, hr]
    rfl

/-- Two failures in a row open a breaker. It becomes half-open with the next call, which succeeds, and closes with the
success of a third call that was let in before the failures. -/
theorem lawful_of_second_success :
    let c : Course := ⟨⟨⟨"w", 2, 10⟩, ⟨.halfOpen, 2, 1, some 4⟩, 14, [3]⟩,
      [⟨.recorded 4 true, 14, .halfOpen⟩, ⟨.began 4, 14, .opened⟩, ⟨.recorded 2 false, 4, .closed⟩,
        ⟨.recorded 1 false, 0, .closed⟩, ⟨.began 3, 0, .closed⟩, ⟨.began 2, 0, .closed⟩, ⟨.began 1, 0, .closed⟩]⟩
    let c' := c.tell (.recorded 3 true) ⟨⟨"w", 2, 10⟩, ⟨.closed, 0, 0, some 4⟩, 14, []⟩
    (Course.start ⟨"w", 2, 10⟩).moves? [.arrive 1, .arrive 2, .arrive 3, .finish 1 false, .advance 4, .finish 2 false,
      .advance 10, .arrive 4, .finish 4 true] = some c ∧
    c.move? (.finish 3 true) = some c' ∧ outcomesIn .halfOpen c.log = [true] ∧ c'.phase = .closed := by
  intro c c'
  have h : (Course.start ⟨"w", 2, 10⟩).moves? [.arrive 1, .arrive 2, .arrive 3, .finish 1 false, .advance 4,
      .finish 2 false, .advance 10, .arrive 4, .finish 4 true] = some c := by decide
  have hm : c.move? (.finish 3 true) = some c' := by decide
  exact ⟨h, hm, rfl, ((lawful_of_run h hm).closes rfl).mpr (.inr ⟨⟨3, rfl⟩, rfl⟩)⟩

end Course

end EndpointWatch.Breaker
