import EndpointWatch.Breaker.Session
import EndpointWatch.Proofs.Run

/-!
# The course of a breaker

A `Course` is a breaker in use together with the log of all that happened to it. Calls arrive, finish and are given
up in any order, any number of them in flight at a time, and between them the clock moves and the breaker is reset.
`move_cases` says what one move does, and `call_eq_of_outcome`, `call_eq_of_cancelledDuring` that a whole call is the
arrival of one and its end.
-/

namespace EndpointWatch.Breaker

/-- One thing that happens to a breaker in use. -/
inductive Move where
  | arrive (call : Nat)
  | finish (call : Nat) (success : Bool)
  | abandon (call : Nat)
  | reset
  | advance (ms : Nat)
  deriving DecidableEq, Repr

/-- What there is to tell: a call was let in and its operation began, or it was turned away; its outcome was
recorded, or it was given up; the breaker was reset. -/
inductive Event where
  | began (call : Nat)
  | turnedAway (call : Nat)
  | recorded (call : Nat) (success : Bool)
  | abandoned (call : Nat)
  | reset
  deriving DecidableEq, Repr

/-- An event, its time and the phase that it met. -/
structure Entry where
  event : Event
  time : Nat
  phase : Phase
  deriving DecidableEq, Repr

/-- A breaker in use, and its `log` with the newest entry first. -/
structure Course where
  session : Session
  log : List Entry
  deriving DecidableEq, Repr

namespace Course

/-- An unused breaker. -/
def start (s : Settings) : Course := ⟨.start s, []⟩

/-- The event goes into the log, and the session goes on as `s`. -/
def tell (e : Event) (s : Session) (c : Course) : Course :=
  ⟨s, ⟨e, c.session.now, c.session.breaker.phase⟩ :: c.log⟩

/-- The course after a move, if it is possible. Only a call in flight can finish or be given up. -/
def move? (c : Course) : Move → Option Course
  | .arrive n =>
    match c.session.arrive? n with
    | some s => some (c.tell (.began n) s)
    | none => some (c.tell (.turnedAway n) c.session)
  | .finish n success => (c.session.finish? n success).map (c.tell (.recorded n success))
  | .abandon n => (c.session.abandon? n).map (c.tell (.abandoned n))
  | .reset => some (c.tell .reset c.session.reset)
  | .advance ms => some { c with session := c.session.advance ms }

def moves? (c : Course) (ms : List Move) : Option Course := ms.foldlM move? c

/-- What a possible move does: the clock moves, or an event goes into the log and the breaker changes with it. -/
theorem move_cases {c c' : Course} {m : Move} (h : c.move? m = some c') :
    (∃ ms, m = .advance ms ∧ c' = { c with session := c.session.advance ms }) ∨
    (∃ n s, m = .arrive n ∧ c.session.arrive? n = some s ∧ c' = c.tell (.began n) s) ∨
    (∃ n, m = .arrive n ∧ c.session.arrive? n = none ∧ c' = c.tell (.turnedAway n) c.session) ∨
    (∃ n ok s, m = .finish n ok ∧ c.session.finish? n ok = some s ∧ c' = c.tell (.recorded n ok) s) ∨
    (∃ n s, m = .abandon n ∧ c.session.abandon? n = some s ∧ c' = c.tell (.abandoned n) s) ∨
    (m = .reset ∧ c' = c.tell .reset c.session.reset) := by
  cases m with
  | advance ms => cases h; exact .inl ⟨ms, rfl, rfl⟩
  | arrive n =>
    simp only [move?] at h
    split at h
    · rename_i s hs
      cases h; exact .inr (.inl ⟨n, s, rfl, hs, rfl⟩)
    · rename_i hs
      cases h; exact .inr (.inr (.inl ⟨n, rfl, hs, rfl⟩))
  | finish n ok =>
    obtain ⟨s, hs, rfl⟩ := Option.map_eq_some_iff.mp h
    exact .inr (.inr (.inr (.inl ⟨n, ok, s, rfl, hs, rfl⟩)))
  | abandon n =>
    obtain ⟨s, hs, rfl⟩ := Option.map_eq_some_iff.mp h
    exact .inr (.inr (.inr (.inr (.inl ⟨n, s, rfl, hs, rfl⟩))))
  | reset => cases h; exact .inr (.inr (.inr (.inr (.inr ⟨rfl, rfl⟩))))

end Course

theorem Settings.effective_effective (s : Settings) : s.effective.effective = s.effective := by
  rcases s with ⟨name, maxFailures, resetInterval⟩
  by_cases hf : maxFailures = 0 <;> by_cases hr : resetInterval = 0 <;> simp [effective, hf, hr, standard, named]

namespace Session

variable {s t : Session} {n : Nat}

theorem arrive?_eq_some (h : s.arrive? n = some t) :
    ∃ b, s.breaker.admit? s.settings s.now = some b ∧ t = { s with breaker := b, inFlight := n :: s.inFlight } := by
  obtain ⟨b, hb, rfl⟩ := Option.map_eq_some_iff.mp h
  exact ⟨b, hb, rfl⟩

theorem arrive?_eq_none_iff : s.arrive? n = none ↔ s.breaker.admit? s.settings s.now = none :=
  Option.map_eq_none_iff

theorem finish?_eq_some {ok : Bool} (h : s.finish? n ok = some t) :
    n ∈ s.inFlight ∧
      t = { s with breaker := s.breaker.record s.settings s.now ok, inFlight := s.inFlight.erase n } := by
  simp only [finish?, Option.ite_none_right_eq_some, Option.some.injEq] at h
  exact ⟨h.1, h.2.symm⟩

theorem abandon?_eq_some (h : s.abandon? n = some t) :
    n ∈ s.inFlight ∧ t = { s with inFlight := s.inFlight.erase n } := by
  simp only [abandon?, Option.ite_none_right_eq_some, Option.some.injEq] at h
  exact ⟨h.1, h.2.symm⟩

/-! ### Whole calls -/

variable {ε τ : Type}

theorem call_eq_of_outcome {r : Except ε τ} (h : s.arrive? n = some t) :
    t.finish? n r.isOk = some (s.call (.outcome r)).2 ∧ (s.call (.outcome r)).1 = (r.mapError .inner, true) := by
  obtain ⟨b, hb, rfl⟩ := arrive?_eq_some h
  simp [finish?, call, hb]

theorem call_eq_of_cancelledDuring (h : s.arrive? n = some t) :
    t.abandon? n = some (s.call (.cancelledDuring : Ending ε τ)).2 ∧
      (s.call (.cancelledDuring : Ending ε τ)).1 = (.error .cancelled, true) := by
  obtain ⟨b, hb, rfl⟩ := arrive?_eq_some h
  simp [abandon?, call, hb]

/-- A call that cannot arrive is turned away, does not run and changes nothing, and no other call is; only one that is
cancelled before it arrives is not even turned away. -/
theorem call_eq_turnedAway_iff {e : Ending ε τ} (he : e ≠ .cancelledBefore) :
    s.call e = ((.error .turnedAway, false), s) ↔ s.arrive? n = none := by
  rw [arrive?_eq_none_iff]
  rcases hb : s.breaker.admit? s.settings s.now with _ | b
  · refine iff_of_true ?_ rfl
    cases e with
    | outcome r => simp only [call, hb]
    | cancelledBefore => exact absurd rfl he
    | cancelledDuring => simp only [call, hb]
  · -- the operation of a call that is let in has begun
    refine iff_of_false (fun hc => ?_) nofun
    have hran : (s.call e).1.2 = true := by
      cases e with
      | outcome r => simp only [call, hb]
      | cancelledBefore => exact absurd rfl he
      | cancelledDuring => simp only [call, hb]
    rw [hc] at hran
    exact absurd hran Bool.false_ne_true

end Session

/-! ### What an arrival and an outcome do to a course -/

namespace Course

variable {c c' : Course} {n : Nat} {ok : Bool}

theorem move?_arrive {b : Breaker} (h : c.session.breaker.admit? c.session.settings c.session.now = some b) (n : Nat) :
    c.move? (.arrive n) =
      some (c.tell (.began n) { c.session with breaker := b, inFlight := n :: c.session.inFlight }) := by
  rw [move?, Session.arrive?, h]
  rfl

theorem move?_arrive_of_turnedAway (h : c.session.breaker.admit? c.session.settings c.session.now = none) (n : Nat) :
    c.move? (.arrive n) = some (c.tell (.turnedAway n) c.session) := by
  rw [move?, Session.arrive?, h]
  rfl

theorem arrive_cases (h : c.move? (.arrive n) = some c') :
    (∃ b, c.session.breaker.admit? c.session.settings c.session.now = some b ∧
      c' = c.tell (.began n) { c.session with breaker := b, inFlight := n :: c.session.inFlight }) ∨
    (c.session.breaker.admit? c.session.settings c.session.now = none ∧ c' = c.tell (.turnedAway n) c.session) := by
  simp only [move?] at h
  split at h
  · next s hs =>
    obtain ⟨b, hb, rfl⟩ := Session.arrive?_eq_some hs
    cases h
    exact .inl ⟨b, hb, rfl⟩
  · next hs =>
    cases h
    exact .inr ⟨Session.arrive?_eq_none_iff.mp hs, rfl⟩

theorem move?_finish_eq_some_iff : c.move? (.finish n ok) = some c' ↔ n ∈ c.session.inFlight ∧
    c' = c.tell (.recorded n ok) { c.session with
      breaker := c.session.breaker.record c.session.settings c.session.now ok
      inFlight := c.session.inFlight.erase n } := by
  simp [move?, Session.finish?, @eq_comm _ c']

end Course

end EndpointWatch.Breaker
