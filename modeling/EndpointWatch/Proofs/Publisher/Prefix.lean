import EndpointWatch.Proofs.Publisher.Alone
import EndpointWatch.Proofs.Publisher.Handlers

/-!
# What a publisher publishes

A call adds a prefix of its batch and tells what stopped it, if it was stopped; handlers get whole batches only
(`publishes_of_run`).
-/

namespace EndpointWatch.Publisher.Session

variable {η : Type} {s : Session η} {ms : List (Move η)} {n : Nat} {c : Call}

/-- What a call has done, and what it returned if it is over. -/
structure Publishes (ms : List (Move η)) (s : Session η) (n : Nat) (c : Call) : Prop where
  added : ∃ added, added <+: c.batch ∧ s.entries n = added.map Metric.streamFields ∧ ∀ r, c.stage = .over r →
    (r = .ok () ↔ added = c.batch) ∧ ∀ e, r = .error e → e = .cancelled ∧ .cancel n ∈ ms ∨
      ∃ a rest cause, c.batch = added ++ a :: rest ∧ e = .append a.name cause ∧ .appended n (.error cause) ∈ ms
  cancelled : c.stage = .ready → s.entries n ≠ c.batch.map Metric.streamFields → .cancel n ∈ ms →
    s.move? (.look n) = some (s.setCall n { c with stage := .over (.error .cancelled) })
  given : c.stage = .over (.ok ()) → c.batch ≠ [] → HandedOut ms s n c.batch
  recipients : c.stage = .over (.ok ()) → c.batch ≠ [] →
    ∃ ms₁ ms₂, ms = ms₁ ++ .handOut n :: ms₂ ∧ Recipients ms₁ s n c.batch
  withheld : ¬ (c.stage = .over (.ok ()) ∧ c.batch ≠ []) → s.given n = []
  turns : ms.countP (Move.isTurnOf n) ≤ 2 * c.batch.length + 1
  goesOn : (∃ r, c.stage = .over r) ∨ (s.move? (.look n)).isSome ∨ (∀ r, (s.move? (.appended n r)).isSome) ∨
    (s.move? (.handOut n)).isSome

theorem isSome_move?_of_step {m : Move η} {s' : Session η} (h : Step s m s') : (s.move? m).isSome := by
  rw [move?_of_step h]
  rfl

theorem Stands.goesOn {st : Call.Stage} (h : Stands ms s n c st) (hst : c.stage = st) (hc : s.calls.get? n = some c) :
    (∃ r, st = .over r) ∨ (s.move? (.look n)).isSome ∨ (∀ r, (s.move? (.appended n r)).isSome) ∨
      (s.move? (.handOut n)).isSome := by
  cases h with
  | empty | done | cancelled | failed => exact .inl ⟨_, rfl⟩
  | ready =>
    cases ha : c.batch[c.sent]? with
    | none => exact .inr (.inr (.inr (isSome_move?_of_step (.handOut hc hst ha))))
    | some a =>
      refine .inr (.inl ?_)
      by_cases hcancel : c.isCancelled
      · exact isSome_move?_of_step (.stop hc hst ha hcancel)
      · exact isSome_move?_of_step (.look hc hst ha hcancel)
  | appending sent =>
    have ha : c.batch[c.sent]? = some c.batch[c.sent] := List.getElem?_eq_getElem sent
    refine .inr (.inr (.inl fun r => ?_))
    cases r with
    | ok => exact isSome_move?_of_step (.appended hc hst ha)
    | error => exact isSome_move?_of_step (.fail hc hst ha)

theorem take_ne_self {k : Nat} {batch : List Metric} (h : k < batch.length) : batch.take k ≠ batch := fun heq => by
  have hlen := congrArg List.length heq
  rw [List.length_take] at hlen
  omega

/-- A call that is over has sent its batch, or says which metric could not be sent. -/
theorem Stands.result {r : Except PublishError Unit} (h : Stands ms s n c (.over r)) :
    (r = .ok () ↔ c.batch.take c.sent = c.batch) ∧ ∀ e, r = .error e → e = .cancelled ∧ .cancel n ∈ ms ∨
      ∃ a rest cause, c.batch = c.batch.take c.sent ++ a :: rest ∧ e = .append a.name cause ∧
        .appended n (.error cause) ∈ ms := by
  cases h with
  | empty batch => exact ⟨iff_of_true rfl (by rw [batch, List.take_nil]), nofun⟩
  | done _ sent => exact ⟨iff_of_true rfl (by rw [sent, List.take_length]), nofun⟩
  | cancelled sent _ cancel =>
    refine ⟨iff_of_false nofun (take_ne_self sent), fun e he => .inl ⟨?_, cancel⟩⟩
    exact (Except.error.inj he).symm
  | @failed a cause next _ fails =>
    obtain ⟨hlt, rfl⟩ := List.getElem?_eq_some_iff.mp next
    refine ⟨iff_of_false nofun (take_ne_self hlt), fun e he => .inr ?_⟩
    refine ⟨c.batch[c.sent], c.batch.drop (c.sent + 1), cause, ?_, ?_, fails⟩
    · rw [← List.drop_eq_getElem_cons hlt, List.take_append_drop]
    · exact (Except.error.inj he).symm

theorem Stands.turns_le {st : Call.Stage} (h : Stands ms s n c st) :
    ms.countP (Move.isTurnOf n) ≤ 2 * c.batch.length + 1 := by
  cases h with
  | empty _ turns => omega
  | ready _ _ turns | appending _ turns | done _ _ turns | cancelled _ turns => omega
  | failed next turns =>
    have hlt := (List.getElem?_eq_some_iff.mp next).1
    omega

theorem Stands.given_eq_nil {st : Call.Stage} (h : Stands ms s n c st) (hst : ¬ (st = .over (.ok ()) ∧ c.batch ≠ [])) :
    s.given n = [] := by
  cases h with
  | ready | appending | empty | cancelled | failed => assumption
  | done batch => exact absurd ⟨rfl, batch⟩ hst

theorem Stands.handedOut (h : Stands ms s n c (.over (.ok ()))) (hb : c.batch ≠ []) : HandedOut ms s n c.batch := by
  cases h with
  | empty batch => exact absurd batch hb
  | done _ _ _ given => exact given

theorem Standing.publishes (h : Standing ms s n c) (hc : s.calls.get? n = some c) : Publishes ms s n c where
  added := ⟨c.batch.take c.sent, List.take_prefix .., h.entries, fun r hr => (hr ▸ h.stage).result⟩
  cancelled hst hentries hcancel := by
    have hend : c.sent < c.batch.length := Nat.lt_of_not_le fun hle => hentries <| by
      rw [h.entries, List.take_of_length_le hle]
    exact move?_of_step (.stop hc hst (List.getElem?_eq_getElem hend) (h.cancel.mpr hcancel))
  given hst hb := Stands.handedOut (hst ▸ h.stage) hb
  recipients hst hb := (Stands.handedOut (hst ▸ h.stage) hb).exists_recipients
  withheld := h.stage.given_eq_nil
  turns := h.stage.turns_le
  goesOn := h.stage.goesOn rfl hc

theorem Known.map_batch (h : Known ms s) (n : Nat) :
    (s.calls.get? n).map Call.batch = (ms.filterMap Move.batch?)[n]? := by
  cases hc : s.calls.get? n with
  | some c => exact (h.call n c hc).batch.symm
  | none =>
    have hused := (h.used n).not
    rw [hc] at hused
    exact (List.getElem?_eq_none (h.nextCall ▸ Nat.le_of_not_lt (hused.mp nofun))).symm

/-- Whatever calls run beside each other, and whoever subscribes or is taken off meanwhile: each call adds a prefix of its
batch, succeeds exactly if that is all of it and tells else what stopped it; those registered when a call has added its
batch get it, and nobody else does; handlers that fail change nothing but their own runs. A call that nothing comes
between is `publish`. -/
theorem publishes_of_run (h : start.moves? ms = some s) :
    (∀ n, (s.calls.get? n).map Call.batch = (ms.filterMap Move.batch?)[n]?) ∧
    (∀ n c, s.calls.get? n = some c → Publishes ms s n c) ∧
    (∀ id a, s.publisher.handlers.get? id = some a ↔ Registered ms id a) ∧
    start.moves? (ms.map Move.succeed) = some s.succeed ∧
    (∀ flags, flags.length = s.waiting.length → ∃ s', s.moves? (flags.map (.run 0)) = some s' ∧ s'.waiting = [] ∧
      s'.ran = s.ran ++ s.waiting.zip flags) ∧
    ∀ (σ : Type) (append : Dict String String → σ → Except StorageError Unit × σ) (isCancelled : Bool)
      (batch : List Metric) (st : σ), ∃ s' c, s.moves? (alone append isCancelled s.nextCall batch st) = some s' ∧
        s'.calls.get? s.nextCall = some c ∧
        c.stage = .over ((publish append isCancelled batch s.publisher st).1.map fun _ => ()) ∧
        s'.waiting.map Task.handler = s.waiting.map Task.handler ++
          (publish append isCancelled batch s.publisher st).1.toOption.getD [] ∧
        (publish append isCancelled batch s.publisher st).2 =
          (batch.take ((alone (η := η) append isCancelled s.nextCall batch st).countP Move.isAppended)).foldl
            (fun st a => (append a.streamFields st).2) st := by
  have hknown := Known.of_run h
  exact ⟨hknown.map_batch, fun n c hc => (hknown.call n c hc).publishes hc, (registers_of_run h).get?,
    moves?_succeed h, s.exists_runAll, fun σ append isCancelled batch st => exists_alone append isCancelled batch st s⟩

/-- Two calls take turns with a stream that fails once. Handlers come and go before the batch of one call is handed out,
and one of those that got it fails. -/
theorem publishes_of_two_calls :
    let metric (name : String) : Metric := { (default : Metric) with name }
    let ms : List (Move String) := [.subscribe "a", .publish [metric "x", metric "y"], .publish [metric "z"], .look 0,
      .appended 0 (.ok ()), .look 1, .appended 1 (.error (.query "down")), .subscribe "b", .unsubscribe 1, .look 0,
      .cancel 0, .appended 0 (.ok ()), .subscribe "c", .handOut 0, .subscribe "d", .run 0 false]
    ∃ s c₀ c₁, start.moves? ms = some s ∧ s.calls.get? 0 = some c₀ ∧ s.calls.get? 1 = some c₁ ∧
      c₀.stage = .over (.ok ()) ∧ c₁.stage = .over (.error (.append "z" (.query "down"))) ∧
      Publishes ms s 0 c₀ ∧ Publishes ms s 1 c₁ ∧ [true].length = s.waiting.length ∧
      ∃ s', s.moves? [.run 0 true] = some s' ∧
        (s'.ran.map fun t => (t.1.handler, t.2)) = [("b", false), ("c", true)] := by
  intro metric ms
  have hrun : ∃ s, start.moves? ms = some s ∧ s.waiting.length = 1 ∧
      (s.calls.get? 0).map Call.stage = some (.over (.ok ())) ∧
      (s.calls.get? 1).map Call.stage = some (.over (.error (.append "z" (.query "down")))) ∧
      (s.ran ++ s.waiting.zip [true]).map (fun t => (t.1.handler, t.2)) = [("b", false), ("c", true)] :=
    ⟨_, rfl, rfl, rfl, rfl, rfl⟩
  obtain ⟨s, hs, hwaiting, hfirst, hsecond, hran⟩ := hrun
  obtain ⟨c₀, hc₀, hstage₀⟩ := Option.map_eq_some_iff.mp hfirst
  obtain ⟨c₁, hc₁, hstage₁⟩ := Option.map_eq_some_iff.mp hsecond
  obtain ⟨-, hcalls, -, -, hall, -⟩ := publishes_of_run hs
  obtain ⟨s', hs', -, hran'⟩ := hall [true] hwaiting.symm
  exact ⟨s, c₀, c₁, hs, hc₀, hc₁, hstage₀, hstage₁, hcalls 0 c₀ hc₀, hcalls 1 c₁ hc₁, hwaiting.symm, s', hs', hran' ▸ hran⟩

end EndpointWatch.Publisher.Session
