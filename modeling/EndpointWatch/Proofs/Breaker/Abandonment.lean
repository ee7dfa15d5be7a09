import EndpointWatch.Proofs.Breaker.Counts

/-!
# Calls that are given up

Calls come to a breaker one after the other, and some of them are cancelled before they begin or while they run. None
of these is counted, but by its arrival it can turn an open breaker half-open. That is all it can do: without the
cancelled calls every other call ends as before, and the breaker differs at most in that it is still open where it was
half-open, and would let the next call in (`Alike`, `alike_without_cancelled`).
-/

namespace EndpointWatch.Breaker

/-- What happens to a breaker from outside, between calls or while one runs. -/
inductive Incident where
  | advance (ms : Nat)
  | reset
  deriving DecidableEq, Repr

namespace Session

variable {ε τ : Type}

def pass (s : Session) : Incident → Session
  | .advance ms => s.advance ms
  | .reset => s.reset

def passAll (s : Session) (is : List Incident) : Session := is.foldl pass s

/-- A whole call, and what happens until its end. If it does not run, the same happens without it. -/
def callDuring (ending : Ending ε τ) (meanwhile : List Incident) (s : Session) :
    (Except (Failure ε) τ × Bool) × Session :=
  match ending with
  | .cancelledBefore => ((.error .cancelled, false), s.passAll meanwhile)
  | .cancelledDuring =>
    match s.breaker.admit? s.settings s.now with
    | none => ((.error .turnedAway, false), s.passAll meanwhile)
    | some b => ((.error .cancelled, true), { s with breaker := b }.passAll meanwhile)
  | .outcome r =>
    match s.breaker.admit? s.settings s.now with
    | none => ((.error .turnedAway, false), s.passAll meanwhile)
    | some b =>
      let s := { s with breaker := b }.passAll meanwhile
      ((r.mapError .inner, true), { s with breaker := s.breaker.record s.settings s.now r.isOk })

/-- A call during which nothing else happens is a call. -/
theorem callDuring_nil (e : Ending ε τ) (s : Session) : s.callDuring e [] = s.call e := by
  cases e <;> rfl

end Session

/-! ### Breakers that differ by cancelled calls -/

/-- A breaker that has met some cancelled calls, beside the one that has not. -/
structure Alike (s : Settings) (now : Nat) (b b' : Breaker) : Prop where
  failures : b.failures = b'.failures
  lastFailure : b.lastFailure? = b'.lastFailure?
  phase : b = b' ∨ b.phase = .halfOpen ∧ b.successes = 0 ∧ b'.phase = .opened ∧
    ∃ t, b'.lastFailure? = some t ∧ t + s.resetInterval ≤ now

namespace Alike

variable {s : Settings} {now : Nat} {a b b' : Breaker}

theorem refl (b : Breaker) : Alike s now b b := ⟨rfl, rfl, .inl rfl⟩

theorem later {now' : Nat} (hle : now ≤ now') (h : Alike s now b b') : Alike s now' b b' := by
  refine ⟨h.failures, h.lastFailure, h.phase.imp_right ?_⟩
  rintro ⟨hp, hs, hp', t, ht, hnow⟩
  exact ⟨hp, hs, hp', t, ht, Nat.le_trans hnow hle⟩

/-- Both breakers turn a call away, or both let it in and are the same from then on. -/
theorem admit? (h : Alike s now b b') :
    b = b' ∧ b.admit? s now = none ∧ b'.admit? s now = none ∨
      ∃ a, b.admit? s now = some a ∧ b'.admit? s now = some a := by
  rcases h.phase with rfl | ⟨hp, hs, hp', t, ht, hnow⟩
  · cases ha : b.admit? s now with
    | none => exact .inl ⟨rfl, rfl, rfl⟩
    | some a => exact .inr ⟨a, rfl, rfl⟩
  · have hcool : b'.cooledDown s now = true := by
      rw [cooledDown, ht, Option.all_some, decide_eq_true_eq]
      omega
    have hb : b.admit? s now = some b := by simp only [Breaker.admit?, hp]
    have hb' : b'.admit? s now = some { b' with phase := .halfOpen, successes := 0 } := by
      simp only [Breaker.admit?, hp', hcool, if_true]
    have heq : { b' with phase := .halfOpen, successes := 0 } = b := by
      obtain ⟨phase, failures, successes, lastFailure?⟩ := b
      obtain rfl : phase = .halfOpen := hp
      obtain rfl : successes = 0 := hs
      rw [← h.failures, ← h.lastFailure]
    exact .inr ⟨b, hb, heq ▸ hb'⟩

/-- A cancelled call is let in by the one breaker and does not come to the other. -/
theorem letIn (h : Alike s now b b') (hs : b'.Sound s now) (ha : b.admit? s now = some a) : Alike s now a b' := by
  rcases h.phase with rfl | ⟨hp, -⟩
  · rcases admit?_eq_some_iff.mp ha with ⟨-, rfl⟩ | ⟨hp, hcool, rfl⟩
    · exact refl _
    · obtain ⟨t, ht, hle⟩ := hs.lastFailure (by rw [hp]; decide)
      rw [cooledDown, ht, Option.all_some, decide_eq_true_eq] at hcool
      exact ⟨rfl, rfl, .inr ⟨rfl, rfl, hp, t, ht, by omega⟩⟩
  · simp only [Breaker.admit?, hp, Option.some.injEq] at ha
    exact ha ▸ h

end Alike

/-! ### Sessions that differ by cancelled calls -/

namespace Session

variable {ε τ : Type}

def Ending.isCancelled : Ending ε τ → Bool
  | .outcome _ => false
  | .cancelledBefore | .cancelledDuring => true

/-- Two sessions that differ in nothing but their breakers, which are alike. -/
structure Alike (limits : Settings) (s s' : Session) : Prop where
  frame : s = { s' with breaker := s.breaker }
  settings_eq : s'.settings = limits.effective
  breaker : Breaker.Alike s'.settings s'.now s.breaker s'.breaker
  sound : s'.breaker.Sound s'.settings s'.now

namespace Alike

variable {limits : Settings} {s s' : Session}

theorem refl (settings_eq : s.settings = limits.effective) (sound : s.breaker.Sound s.settings s.now) :
    s.Alike limits s :=
  ⟨rfl, settings_eq, .refl _, sound⟩

theorem maxFailures_pos (h : s.Alike limits s') : 0 < s'.settings.maxFailures :=
  h.settings_eq ▸ limits.maxFailures_effective_pos

theorem pass (h : s.Alike limits s') (i : Incident) : (s.pass i).Alike limits (s'.pass i) := by
  rw [h.frame]
  cases i with
  | advance ms =>
    have hle : s'.now ≤ s'.now + ms := Nat.le_add_right ..
    exact ⟨rfl, h.settings_eq, h.breaker.later hle, h.sound.later hle⟩
  | reset => exact .refl h.settings_eq (.fresh h.maxFailures_pos)

theorem passAll (h : s.Alike limits s') (is : List Incident) : (s.passAll is).Alike limits (s'.passAll is) := by
  induction is generalizing s s' with
  | nil => exact h
  | cons i is ih => exact ih (h.pass i)

/-- A call that is not cancelled ends the same in both sessions. -/
theorem outcome (h : s.Alike limits s') (r : Except ε τ) (is : List Incident) :
    (s.callDuring (.outcome r) is).1 = (s'.callDuring (.outcome r) is).1 ∧
      (s.callDuring (.outcome r) is).2.Alike limits (s'.callDuring (.outcome r) is).2 := by
  rcases h.breaker.admit? with ⟨-, hnone, hnone'⟩ | ⟨b, hb, hb'⟩
  · have hall := h.passAll is
    rw [h.frame] at hall ⊢
    simp only [callDuring, hnone, hnone', true_and]
    exact hall
  · -- once both let the call in there is no difference left
    have hin : { s' with breaker := b }.Alike limits { s' with breaker := b } :=
      .refl h.settings_eq (h.sound.letIn hb')
    have hend := hin.passAll is
    rw [h.frame]
    simp only [callDuring, hb, hb', true_and]
    exact .refl hend.settings_eq (hend.sound.record hend.maxFailures_pos r.isOk)

/-- A cancelled call leaves nothing behind but what happened while it ran. -/
theorem cancelled (h : s.Alike limits s') {e : Ending ε τ} (he : e.isCancelled) (is : List Incident) :
    (s.callDuring e is).2.Alike limits (s'.passAll is) := by
  cases e with
  | outcome r => cases he
  | cancelledBefore => exact h.passAll is
  | cancelledDuring =>
    simp only [callDuring]
    split
    · exact h.passAll is
    · next b hb =>
      have hin : { s with breaker := b }.Alike limits s' := by
        rw [h.frame] at hb ⊢
        exact ⟨rfl, h.settings_eq, h.breaker.letIn h.sound hb, h.sound⟩
      exact hin.passAll is

end Alike

end Session

/-! ### Sequences of calls -/

/-- One item of a sequence in which no two calls overlap. -/
inductive Item (ε τ : Type) where
  | incident (i : Incident)
  | call (ending : Session.Ending ε τ) (meanwhile : List Incident)

/-- What is left of an item without the cancelled calls. What happened while one of them ran happens all the same. -/
def Item.kept {ε τ : Type} : Item ε τ → List (Item ε τ)
  | .incident i => [.incident i]
  | .call e is => if e.isCancelled then is.map .incident else [.call e is]

/-- How the calls that were not cancelled ended and whether they ran, and what has become of the session. -/
structure Story (ε τ : Type) where
  endings : List (Except (Failure ε) τ × Bool)
  session : Session

namespace Story

variable {ε τ : Type}

def next (t : Story ε τ) : Item ε τ → Story ε τ
  | .incident i => { t with session := t.session.pass i }
  | .call e is =>
    let (ending, session) := t.session.callDuring e is
    ⟨if e.isCancelled then t.endings else t.endings ++ [ending], session⟩

def run (items : List (Item ε τ)) (t : Story ε τ) : Story ε τ := items.foldl next t

def start (limits : Settings) : Story ε τ := ⟨[], .start limits⟩

theorem run_incidents (is : List Incident) (t : Story ε τ) :
    t.run (is.map .incident) = { t with session := t.session.passAll is } := by
  induction is generalizing t with
  | nil => rfl
  | cons i is ih => exact ih _

theorem run_append (items items' : List (Item ε τ)) (t : Story ε τ) :
    t.run (items ++ items') = (t.run items).run items' :=
  List.foldl_append

/-- The same endings, in sessions that are alike. -/
structure Alike (limits : Settings) (t t' : Story ε τ) : Prop where
  endings : t.endings = t'.endings
  session : t.session.Alike limits t'.session

theorem Alike.next {limits : Settings} {t t' : Story ε τ} (h : t.Alike limits t') (i : Item ε τ) :
    (t.next i).Alike limits (t'.run i.kept) := by
  cases i with
  | incident i => exact ⟨h.endings, h.session.pass i⟩
  | call e is =>
    have hcancelled (he : e.isCancelled) := h.session.cancelled he is
    cases e with
    | outcome r =>
      obtain ⟨hending, hsession⟩ := h.session.outcome r is
      exact ⟨congrArg₂ (· ++ [·]) h.endings hending, hsession⟩
    | cancelledBefore | cancelledDuring =>
      show Alike limits _ (t'.run (is.map .incident))
      rw [run_incidents]
      exact ⟨h.endings, hcancelled rfl⟩

theorem Alike.run {limits : Settings} {t t' : Story ε τ} (h : t.Alike limits t') (items : List (Item ε τ)) :
    (t.run items).Alike limits (t'.run (items.flatMap Item.kept)) := by
  induction items generalizing t t' with
  | nil => exact h
  | cons i items ih =>
    rw [List.flatMap_cons, run_append]
    exact ih (h.next i)

end Story

/-- Leaving out all cancelled calls changes neither how any other call ends nor whether it runs, and leaves the clock and
the breaker alike. This holds after every sequence, and so after each item of a sequence. -/
theorem alike_without_cancelled {ε τ : Type} (limits : Settings) (items : List (Item ε τ)) :
    let t := (Story.start limits).run items
    let t' := (Story.start limits).run (items.flatMap Item.kept)
    t.endings = t'.endings ∧ t.session.now = t'.session.now ∧
      Alike limits.effective t'.session.now t.session.breaker t'.session.breaker := by
  intro t t'
  have hstart : (Story.start limits : Story ε τ).Alike limits (.start limits) :=
    ⟨rfl, .refl rfl (.fresh limits.maxFailures_effective_pos)⟩
  obtain ⟨hendings, hsession⟩ : t.Alike limits t' := hstart.run items
  refine ⟨hendings, ?_, hsession.settings_eq ▸ hsession.breaker⟩
  rw [hsession.frame]

/-- A call that fails opens the breaker for 10 ms, and one that is cancelled after them turns it half-open. -/
example :
    let items : List (Item String Unit) := [.call (.outcome (.error "refused")) [], .incident (.advance 4),
      .call .cancelledDuring [.advance 6], .call .cancelledDuring [.advance 1]]
    let story := (Story.start ⟨"w", 1, 10⟩).run
    (story items).session.breaker = ⟨.halfOpen, 1, 0, some 0⟩ ∧
      (story (items.flatMap Item.kept)).session.breaker = ⟨.opened, 1, 0, some 0⟩ := by
  decide

end EndpointWatch.Breaker
