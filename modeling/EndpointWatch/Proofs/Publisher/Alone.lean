import EndpointWatch.Proofs.Publisher.Calls

/-!
# A call with nothing beside it

`Publisher.publish` is a call whose turns come one after the other, each append with the outcome that the stream gives it
(`exists_alone`).
-/

namespace EndpointWatch.Publisher

variable {η σ : Type} {append : Dict String String → σ → Except StorageError Unit × σ} {isCancelled : Bool} {n : Nat}
  {a : Metric} {batch rest : List Metric} {st : σ}

theorem sendAll_cons_of_ok (h : (append a.streamFields st).1 = .ok ()) :
    sendAll append false (a :: rest) st = sendAll append false rest (append a.streamFields st).2 := by
  rw [sendAll, send, if_neg Bool.false_ne_true]
  simp only [h, Except.mapError]

theorem sendAll_cons_of_error {e : StorageError} (h : (append a.streamFields st).1 = .error e) :
    sendAll append false (a :: rest) st = (.error (.append a.name e), (append a.streamFields st).2) := by
  rw [sendAll, send, if_neg Bool.false_ne_true]
  simp only [h, Except.mapError]

theorem publish_cons (p : Publisher η) : publish append isCancelled (a :: rest) p st =
    ((sendAll append isCancelled (a :: rest) st).1.map fun _ => p.handlers.values,
      (sendAll append isCancelled (a :: rest) st).2) := rfl

namespace Session

/-- The turns of a call that has the given metrics left. -/
def turns (append : Dict String String → σ → Except StorageError Unit × σ) (isCancelled : Bool) (n : Nat) :
    List Metric → σ → List (Move η)
  | [], _ => [.handOut n]
  | a :: rest, st =>
    if isCancelled then [.look n]
    else
      let (r, st) := append a.streamFields st
      .look n :: .appended n r :: if r.isOk then turns append isCancelled n rest st else []

/-- A call from its beginning to its end. -/
def alone (append : Dict String String → σ → Except StorageError Unit × σ) (isCancelled : Bool) (n : Nat)
    (batch : List Metric) (st : σ) : List (Move η) :=
  .publish batch :: (if isCancelled then [.cancel n] else []) ++
    if batch.isEmpty then [] else turns append isCancelled n batch st

def Move.isAppended : Move η → Bool
  | appended .. => true
  | _ => false

/-- What a session, a stream and a result have come to by turns of one call that take the given metrics. -/
structure Ends (append : Dict String String → σ → Except StorageError Unit × σ) (n : Nat) (s : Session η) (c : Call)
    (rest : List Metric) (st : σ) (ms : List (Move η)) (res : Except PublishError Unit × σ) (s' : Session η) : Prop where
  run : s.moves? ms = some s'
  call : ∃ c', s'.calls.get? n = some c' ∧ c'.stage = .over res.1
  waiting : s'.waiting = s.waiting ++ if res.1.isOk then tasks n c.batch s.publisher else []
  stream : res.2 = (rest.take (ms.countP Move.isAppended)).foldl (fun st a => (append a.streamFields st).2) st

variable {s s₁ s' : Session η} {c : Call}

theorem get?_setCall : (s.setCall n c).calls.get? n = some c := Dict.get?_insert_self ..

theorem moves?_cons {m : Move η} {ms : List (Move η)} (hm : Step s m s₁) : s.moves? (m :: ms) = s₁.moves? ms := by
  rw [moves?, List.foldlM_cons, move?_of_step hm]
  rfl

/-- A metric that is looked at and appended. -/
theorem moves?_appended {ms : List (Move η)} (hc : s.calls.get? n = some c) (hst : c.stage = .ready)
    (ha : c.batch[c.sent]? = some a) (hcancel : ¬ c.isCancelled) :
    s.moves? (.look n :: .appended n (.ok ()) :: ms) = ({ s with stream := s.stream ++ [(n, a.streamFields)] }.setCall n
      { c with sent := c.sent + 1, stage := .ready }).moves? ms := by
  rw [moves?_cons (.look hc hst ha hcancel), moves?_cons (.appended (c := { c with stage := .appending }) get?_setCall rfl ha)]
  simp only [setCall, Dict.insert_insert]

/-- A metric that is looked at and whose append fails. -/
theorem moves?_fail {e : StorageError} (hc : s.calls.get? n = some c) (hst : c.stage = .ready)
    (ha : c.batch[c.sent]? = some a) (hcancel : ¬ c.isCancelled) :
    s.moves? [.look n, .appended n (.error e)] = some (s.setCall n { c with stage := .over (.error (.append a.name e)) }) := by
  rw [moves?_cons (.look hc hst ha hcancel), moves?_cons (.fail (c := { c with stage := .appending }) get?_setCall rfl ha)]
  simp only [setCall, Dict.insert_insert]
  rfl

theorem turns_cons_of_ok (h : (append a.streamFields st).1 = .ok ()) : turns append false n (a :: rest) st =
    .look (η := η) n :: .appended n (.ok ()) :: turns append false n rest (append a.streamFields st).2 := by
  rw [turns, if_neg Bool.false_ne_true]
  simp only [h]
  rfl

theorem turns_cons_of_error {e : StorageError} (h : (append a.streamFields st).1 = .error e) :
    turns append false n (a :: rest) st = [.look (η := η) n, .appended n (.error e)] := by
  rw [turns, if_neg Bool.false_ne_true]
  simp only [h]
  rfl

theorem exists_turns (hc : s.calls.get? n = some c) (hst : c.stage = .ready) (hcancel : c.isCancelled = isCancelled)
    (hrest : c.batch.drop c.sent = rest) :
    ∃ s', Ends append n s c rest st (turns append isCancelled n rest st) (sendAll append isCancelled rest st) s' := by
  induction rest generalizing s c st with
  | nil =>
    have hend := List.getElem?_eq_none_iff.mpr (List.drop_eq_nil_iff.mp hrest)
    exact ⟨_, (moves?_cons (.handOut hc hst hend)).trans rfl, ⟨_, get?_setCall, rfl⟩, rfl, rfl⟩
  | cons a rest ih =>
    have ha : c.batch[c.sent]? = some a := by rw [← List.head?_drop, hrest, List.head?_cons]
    cases isCancelled with
    | true =>
      exact ⟨_, (moves?_cons (.stop hc hst ha hcancel)).trans rfl, ⟨_, get?_setCall, rfl⟩, (List.append_nil _).symm, rfl⟩
    | false =>
      rw [← Bool.not_eq_true] at hcancel
      cases hr : (append a.streamFields st).1 with
      | ok =>
        have hc₂ := get?_setCall (s := { s with stream := s.stream ++ [(n, a.streamFields)] }) (n := n)
          (c := { c with sent := c.sent + 1, stage := .ready })
        have hdrop : c.batch.drop (c.sent + 1) = rest := by
          rw [← List.drop_drop, hrest]
          rfl
        obtain ⟨s', hrun, hcall, hwaiting, hstream⟩ :
            ∃ s', Ends append n _ _ rest (append a.streamFields st).2 (turns append false n rest _) _ s' :=
          ih hc₂ rfl (Bool.eq_false_iff.mpr hcancel) hdrop
        rw [turns_cons_of_ok hr, sendAll_cons_of_ok hr]
        refine ⟨s', (moves?_appended hc hst ha hcancel).trans hrun, hcall, hwaiting, ?_⟩
        rw [hstream, List.countP_cons_of_neg Bool.false_ne_true, List.countP_cons_of_pos rfl, List.take_succ_cons,
          List.foldl_cons]
      | error e =>
        rw [turns_cons_of_error hr, sendAll_cons_of_error hr]
        exact ⟨_, moves?_fail hc hst ha hcancel, ⟨_, get?_setCall, rfl⟩, (List.append_nil _).symm, rfl⟩

theorem step_publish (s : Session η) (batch : List Metric) : Step s (.publish batch) { s with
    calls := s.calls.insert s.nextCall ⟨batch, 0, false, if batch.isEmpty then .over (.ok ()) else .ready⟩,
    nextCall := s.nextCall + 1 } := by
  cases batch with
  | nil => exact .publishNone
  | cons a batch => exact .publish a batch

theorem exists_begin (isCancelled : Bool) (batch : List Metric) (s : Session η) :
    ∃ s₁, s.moves? (.publish batch :: if isCancelled then [.cancel s.nextCall] else []) = some s₁ ∧
      s₁.calls.get? s.nextCall = some ⟨batch, 0, isCancelled, if batch.isEmpty then .over (.ok ()) else .ready⟩ ∧
      s₁.publisher = s.publisher ∧ s₁.waiting = s.waiting := by
  cases isCancelled with
  | false => exact ⟨_, rfl, Dict.get?_insert_self .., rfl, rfl⟩
  | true =>
    refine ⟨_, (moves?_cons (step_publish s batch)).trans ((moves?_cons (.cancel (Dict.get?_insert_self ..))).trans rfl), ?_⟩
    exact ⟨Dict.get?_insert_self .., rfl, rfl⟩

theorem map_handler_tasks (n : Nat) (batch : List Metric) (p : Publisher η) :
    (tasks n batch p).map Task.handler = p.handlers.values := by
  rw [tasks, List.map_map]
  rfl

/-- A call that nothing comes between ends as `publish` does: with its result, for the same handlers, and after the same
appends. -/
theorem exists_alone (append : Dict String String → σ → Except StorageError Unit × σ) (isCancelled : Bool)
    (batch : List Metric) (st : σ) (s : Session η) :
    ∃ s' c, s.moves? (alone append isCancelled s.nextCall batch st) = some s' ∧
      s'.calls.get? s.nextCall = some c ∧
      c.stage = .over ((publish append isCancelled batch s.publisher st).1.map fun _ => ()) ∧
      s'.waiting.map Task.handler = s.waiting.map Task.handler ++
        (publish append isCancelled batch s.publisher st).1.toOption.getD [] ∧
      (publish append isCancelled batch s.publisher st).2 =
        (batch.take ((alone (η := η) append isCancelled s.nextCall batch st).countP Move.isAppended)).foldl
          (fun st a => (append a.streamFields st).2) st := by
  obtain ⟨s₁, hrun₁, hc, hpublisher, hwaiting₁⟩ := exists_begin isCancelled batch s
  cases batch with
  | nil =>
    refine ⟨s₁, _, ?_, hc, rfl, ?_, by rw [List.take_nil]; rfl⟩
    · rw [alone, if_pos List.isEmpty_nil, List.append_nil]
      exact hrun₁
    · rw [hwaiting₁]
      exact (List.append_nil _).symm
  | cons a batch =>
    obtain ⟨s', hrun, ⟨c, hcall, hstage⟩, hwaiting, hstream⟩ : ∃ s', Ends append s.nextCall s₁ _ (a :: batch) st
        (turns append isCancelled s.nextCall (a :: batch) st) (sendAll append isCancelled (a :: batch) st) s' :=
      exists_turns hc rfl rfl rfl
    have hbegun : (Move.publish (η := η) (a :: batch) :: if isCancelled then [.cancel s.nextCall] else []).countP
        Move.isAppended = 0 := by cases isCancelled <;> rfl
    rw [publish_cons]
    refine ⟨s', c, run_append.mpr ⟨s₁, hrun₁, hrun⟩, hcall, ?_, ?_, ?_⟩
    · rw [hstage]
      cases (sendAll append isCancelled (a :: batch) st).1 <;> rfl
    · rw [hwaiting, hwaiting₁, List.map_append, hpublisher]
      cases (sendAll append isCancelled (a :: batch) st).1 with
      | ok => exact congrArg _ (map_handler_tasks ..)
      | error => rfl
    · rw [alone, List.countP_append, hbegun, Nat.zero_add]
      exact hstream

end Session

end EndpointWatch.Publisher
