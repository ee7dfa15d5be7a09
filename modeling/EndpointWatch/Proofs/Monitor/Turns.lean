import EndpointWatch.Monitor.Basic
import EndpointWatch.Proofs.Check.Pending
import EndpointWatch.Proofs.Check.Register
import EndpointWatch.Proofs.Monitor.Books

/-!
# What a monitor's moves do to its checks

Of all the moves of a monitor, few concern its checks and their breakers: time passes, a cycle puts its checks on their
way, or one check arrives, ends a probe or hands in (`turn_of_move?`).
-/

namespace EndpointWatch.Monitor

open Checker

variable {m m' : Monitor} {v : Move} {id : Int64}

/-- Whether a move leaves the checks and the breakers alone. -/
def Move.isApart : Move → Bool
  | .advance _ | .beginCycle false (.ok _) | .arrive _ | .probed .. | .handIn _ => false
  | _ => true

/-- What a move makes of the checks. -/
inductive Turn (m : Monitor) : Move → Checker.Session → Prop where
  | advance (ms : Nat) : Turn m (.advance ms) (m.session.advance ms)
  | beginCycle (es : List Endpoint) : Turn m (.beginCycle false (.ok es))
      ((m.session.retain (es.map Endpoint.id)).spawnAll m.nextCycle es)
  | arrive {n : Nat} {k : Check} (underWay : m.session.underWay.get? n = some k) (stage : k.stage = .spawned) :
      Turn m (.arrive n) ({ m.session with checker := (m.session.checker.arrive k.endpoint m.now).2 }.proceed n k
        (Session.stageOf m.now (m.session.checker.arrive k.endpoint m.now).1))
  | goOn {n serial made since : Nat} {k : Check} {r : Except ProbeError Answered}
      (underWay : m.session.underWay.get? n = some k) (stage : k.stage = .probing serial made since)
      (verdict : m.session.checker.verdict? made r = none) (ms : Nat) :
      Turn m (.probed n r) (m.session.proceed n k (.probing serial (made + 1) (m.now + ms)))
  | leave {n serial made since : Nat} {k : Check} {r : Except ProbeError Answered}
      {x : Except (Retry.Stop ProbeError) Answered} (underWay : m.session.underWay.get? n = some k)
      (stage : k.stage = .probing serial made since) (verdict : m.session.checker.verdict? made r = some x) :
      Turn m (.probed n r) ({ m.session with
        checker := m.session.checker.record k.endpoint.id serial m.now x.isOk }.proceed n k
        (.done (m.session.checker.outcome k.endpoint.id x) m.now))
  | handIn {n ended : Nat} {k : Check} {o : CheckOutcome} (underWay : m.session.underWay.get? n = some k)
      (stage : k.stage = .done o ended) :
      Turn m (.handIn n) { m.session with underWay := m.session.underWay.erase n }
  | apart {v : Move} (isApart : v.isApart) : Turn m v m.session

theorem session_beginCycle (m : Monitor) (es : List Endpoint) :
    (m.beginCycle false (.ok es)).session = (m.session.retain (es.map Endpoint.id)).spawnAll m.nextCycle es := by
  unfold Monitor.beginCycle
  cases es with
  | nil => rfl
  | cons e es => rfl

theorem session_handIn? {n : Nat} (hm : m.handIn? n = some m') : ∃ k o ended,
    m.session.handIn? n = some ((k, o, ended), m'.session) := by
  simp only [handIn?, Option.bind_eq_bind, Option.bind_eq_some_iff] at hm
  obtain ⟨⟨⟨k, o, ended⟩, s⟩, hs, hm⟩ := hm
  refine ⟨k, o, ended, ?_⟩
  split at hm
  · simp only [Option.bind_eq_some_iff, Option.some.injEq] at hm
    obtain ⟨c, -, rfl⟩ := hm
    exact hs
  · cases hm
    exact hs

theorem stage_of_handIn? {s t : Session} {n ended : Nat} {k : Check} {o : CheckOutcome}
    (h : s.handIn? n = some ((k, o, ended), t)) : k.stage = .done o ended := by
  unfold Session.handIn? at h
  split at h
  · split at h
    · next hstage => cases h; exact hstage
    · cases h
    · cases h
  · cases h

/-- The moves of cycles and of deliveries leave the checks alone. -/
theorem session_of_isApart (hv : v.isApart) (hm : m.move? v = some m') : m'.session = m.session := by
  cases v with
  | advance | arrive | probed | handIn => cases hv
  | beginCycle isCancelled fetched =>
    cases isCancelled with
    | true => cases hm; rfl
    | false =>
      cases fetched with
      | error => cases hm; rfl
      | ok => cases hv
  | abandonFetch => cases hm; rfl
  | take n =>
    simp only [move?, Option.bind_eq_bind, Option.bind_eq_some_iff, Option.some.injEq] at hm
    obtain ⟨c, -, c', -, rfl⟩ := hm
    rfl
  | saved n success =>
    simp only [move?, Option.bind_eq_bind, Option.bind_eq_some_iff, Option.some.injEq] at hm
    obtain ⟨c, -, ⟨r, c'⟩, -, rfl⟩ := hm
    exact (Books.afterSave_frame { m with cycles := m.cycles.insert n c' } n r success).2.1
  | complete n =>
    simp only [move?, Option.bind_eq_bind, Option.bind_eq_some_iff, Option.ite_none_right_eq_some,
      Option.some.injEq] at hm
    obtain ⟨c, -, -, rfl⟩ := hm
    rfl
  | stop n e =>
    obtain ⟨c, -, rfl⟩ := Option.map_eq_some_iff.mp hm
    rfl
  | call n =>
    simp only [move?, Option.bind_eq_bind] at hm
    split at hm
    · cases hm
    · simp only [Option.bind_eq_some_iff, Option.some.injEq] at hm
      obtain ⟨d, -, d', -, rfl⟩ := hm
      rfl
  | called n success =>
    simp only [move?, Option.bind_eq_bind, Option.bind_eq_some_iff] at hm
    obtain ⟨d, -, hm⟩ := hm
    split at hm
    · cases hm
    · split at hm
      · cases hm; rfl
      · split at hm
        · cases hm; rfl
        · cases hm; rfl
  | giveUp n wentThrough =>
    simp only [move?, Option.bind_eq_bind, Option.bind_eq_some_iff] at hm
    obtain ⟨d, -, hm⟩ := hm
    split at hm
    · cases hm
    · split at hm
      · cases hm
        split
        · rfl
        · rfl
      · cases hm
  | shutDown => cases hm; rfl

theorem turn_of_move? (hm : m.move? v = some m') : Turn m v m'.session := by
  cases hv : v.isApart with
  | true =>
    rw [session_of_isApart hv hm]
    exact .apart hv
  | false =>
    cases v with
    | advance ms => cases hm; exact .advance ms
    | beginCycle isCancelled fetched =>
      cases isCancelled with
      | true => cases hv
      | false =>
        cases fetched with
        | error => cases hv
        | ok es =>
          cases hm
          rw [session_beginCycle]
          exact .beginCycle es
    | arrive n =>
      obtain ⟨s, hs, rfl⟩ := Option.map_eq_some_iff.mp hm
      obtain ⟨k, hk, hstage, rfl⟩ := Session.arrive?_eq_some hs
      exact .arrive hk hstage
    | probed n r =>
      obtain ⟨s, hs, rfl⟩ := Option.map_eq_some_iff.mp hm
      obtain ⟨k, serial, made, since, hk, hstage⟩ := Session.probed?_eq_some hs
      cases hx : m.session.checker.verdict? made r with
      | some x =>
        obtain rfl := Session.probed?_of_verdict? hk hstage hx hs
        exact .leave hk hstage hx
      | none =>
        obtain ⟨ms, rfl⟩ := Session.probed?_of_verdict?_eq_none hk hstage hx hs
        exact .goOn hk hstage hx ms
    | handIn n =>
      obtain ⟨k, o, ended, hs⟩ := session_handIn? hm
      have hstage := stage_of_handIn? hs
      obtain ⟨hk, hsession⟩ := Session.handIn?_eq_some hs
      rw [hsession]
      exact .handIn hk hstage
    | abandonFetch | take | saved | complete | stop | call | called | giveUp | shutDown => cases hv

end EndpointWatch.Monitor
