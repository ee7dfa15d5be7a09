import EndpointWatch.Proofs.Dict
import EndpointWatch.Proofs.Run
import EndpointWatch.Publisher.Session
import Mathlib.Data.List.Perm.Basic

/-!
# The calls of a publisher

What the entries in the stream and the handlers that got a batch tell of one call, however other calls and changes of
the register come between: `Standing` holds of every call after every run (`Known.of_run`).
-/

namespace EndpointWatch.Publisher.Session

variable {η : Type} {s s' : Session η} {m : Move η} {ms : List (Move η)} {n k : Nat} {c c' : Call}

/-! ### What a move does -/

inductive Step (s : Session η) : Move η → Session η → Prop where
  | subscribe (h : η) : Step s (.subscribe h) { s with publisher := (s.publisher.subscribe h).2 }
  | unsubscribe (id : Nat) : Step s (.unsubscribe id) { s with publisher := (s.publisher.unsubscribe id).2 }
  | publishNone : Step s (.publish [])
      { s with calls := s.calls.insert s.nextCall ⟨[], 0, false, .over (.ok ())⟩, nextCall := s.nextCall + 1 }
  | publish (a : Metric) (batch : List Metric) : Step s (.publish (a :: batch))
      { s with calls := s.calls.insert s.nextCall ⟨a :: batch, 0, false, .ready⟩, nextCall := s.nextCall + 1 }
  | cancel {n : Nat} {c : Call} (call : s.calls.get? n = some c) :
      Step s (.cancel n) (s.setCall n { c with isCancelled := true })
  | stop {n : Nat} {c : Call} {a : Metric} (call : s.calls.get? n = some c) (stage : c.stage = .ready)
      (next : c.batch[c.sent]? = some a) (cancelled : c.isCancelled) :
      Step s (.look n) (s.setCall n { c with stage := .over (.error .cancelled) })
  | look {n : Nat} {c : Call} {a : Metric} (call : s.calls.get? n = some c) (stage : c.stage = .ready)
      (next : c.batch[c.sent]? = some a) (goesOn : ¬ c.isCancelled) :
      Step s (.look n) (s.setCall n { c with stage := .appending })
  | appended {n : Nat} {c : Call} {a : Metric} (call : s.calls.get? n = some c) (stage : c.stage = .appending)
      (next : c.batch[c.sent]? = some a) : Step s (.appended n (.ok ()))
        ({ s with stream := s.stream ++ [(n, a.streamFields)] }.setCall n { c with sent := c.sent + 1, stage := .ready })
  | fail {n : Nat} {c : Call} {a : Metric} {e : StorageError} (call : s.calls.get? n = some c)
      (stage : c.stage = .appending) (next : c.batch[c.sent]? = some a) : Step s (.appended n (.error e))
        (s.setCall n { c with stage := .over (.error (.append a.name e)) })
  | handOut {n : Nat} {c : Call} (call : s.calls.get? n = some c) (stage : c.stage = .ready)
      (next : c.batch[c.sent]? = none) : Step s (.handOut n)
        ({ s with waiting := s.waiting ++ tasks n c.batch s.publisher }.setCall n { c with stage := .over (.ok ()) })
  | run {k : Nat} {t : Task η} {success : Bool} (task : s.waiting[k]? = some t) : Step s (.run k success)
      { s with waiting := s.waiting.eraseIdx k, ran := s.ran ++ [(t, success)] }

theorem step_of_move? (hm : s.move? m = some s') : Step s m s' := by
  cases m with
  | subscribe h => cases hm; exact .subscribe h
  | unsubscribe id => cases hm; exact .unsubscribe id
  | publish batch =>
    cases batch with
    | nil => cases hm; exact .publishNone
    | cons a batch => cases hm; exact .publish a batch
  | cancel n =>
    obtain ⟨c, hc, rfl⟩ := Option.map_eq_some_iff.mp hm
    exact .cancel hc
  | look n =>
    obtain ⟨c, hc, hm⟩ := Option.bind_eq_some_iff.mp hm
    split at hm
    case h_1 a hstage hnext =>
      cases hm
      split
      case isTrue hcancel => exact .stop hc hstage hnext hcancel
      case isFalse hcancel => exact .look hc hstage hnext hcancel
    case h_2 => cases hm
  | appended n r =>
    obtain ⟨c, hc, hm⟩ := Option.bind_eq_some_iff.mp hm
    split at hm
    case h_1 a hstage hnext =>
      cases r <;> cases hm
      case ok => exact .appended hc hstage hnext
      case error => exact .fail hc hstage hnext
    case h_2 => cases hm
  | handOut n =>
    obtain ⟨c, hc, hm⟩ := Option.bind_eq_some_iff.mp hm
    split at hm
    case h_1 hstage hnext => cases hm; exact .handOut hc hstage hnext
    case h_2 => cases hm
  | run k success =>
    obtain ⟨t, ht, rfl⟩ := Option.map_eq_some_iff.mp hm
    exact .run ht

theorem move?_of_step (h : Step s m s') : s.move? m = some s' := by
  cases h with
  | subscribe | unsubscribe | publishNone | publish => rfl
  | cancel hc => exact congrArg (Option.map _) hc
  | run ht => exact congrArg (Option.map _) ht
  | stop hc hstage hnext hcancel => simp only [move?, hc, hstage, hnext, Option.bind_eq_bind, Option.bind_some, if_pos hcancel]
  | look hc hstage hnext hcancel => simp only [move?, hc, hstage, hnext, Option.bind_eq_bind, Option.bind_some, if_neg hcancel]
  | appended hc hstage hnext | fail hc hstage hnext | handOut hc hstage hnext =>
    simp only [move?, hc, hstage, hnext, Option.bind_eq_bind, Option.bind_some]

/-! ### One call -/

/-- The entries that a call has added to the stream. -/
def entries (s : Session η) (n : Nat) : List (Dict String String) :=
  s.stream.filterMap fun e => if e.1 = n then some e.2 else none

/-- The handlers that got the batch of a call, whether they ran already or not. -/
def given (s : Session η) (n : Nat) : List (Task η) := (s.waiting ++ s.ran.map Prod.fst).filter (·.call == n)

def Move.batch? : Move η → Option (List Metric)
  | publish batch => some batch
  | _ => none

/-- Whether a call comes further by a move. -/
def Move.isTurnOf (n : Nat) : Move η → Bool
  | look k | appended k _ | handOut k => k == n
  | _ => false

theorem isTurnOf_appended (n : Nat) (r : Except StorageError Unit) : (Move.appended (η := η) n r).isTurnOf n :=
  beq_self_eq_true n

theorem isTurnOf_handOut (n : Nat) : (Move.handOut (η := η) n).isTurnOf n := beq_self_eq_true n

/-- That the batch of a call was handed out, to those that were registered then. -/
def HandedOut (ms : List (Move η)) (s : Session η) (n : Nat) (batch : List Metric) : Prop :=
  ∃ ms₁ ms₂ s₁, ms = ms₁ ++ .handOut n :: ms₂ ∧ start.moves? ms₁ = some s₁ ∧
    s₁.entries n = batch.map Metric.streamFields ∧ (s.given n).Perm (tasks n batch s₁.publisher)

/-- What is known of a call at each of its stages. -/
inductive Stands (ms : List (Move η)) (s : Session η) (n : Nat) (c : Call) : Call.Stage → Prop where
  | ready (batch : c.batch ≠ []) (sent : c.sent ≤ c.batch.length) (turns : ms.countP (Move.isTurnOf n) = 2 * c.sent)
      (given : s.given n = []) : Stands ms s n c .ready
  | appending (sent : c.sent < c.batch.length) (turns : ms.countP (Move.isTurnOf n) = 2 * c.sent + 1)
      (given : s.given n = []) : Stands ms s n c .appending
  | empty (batch : c.batch = []) (turns : ms.countP (Move.isTurnOf n) = 0) (given : s.given n = []) :
      Stands ms s n c (.over (.ok ()))
  | done (batch : c.batch ≠ []) (sent : c.sent = c.batch.length)
      (turns : ms.countP (Move.isTurnOf n) = 2 * c.sent + 1) (given : HandedOut ms s n c.batch) :
      Stands ms s n c (.over (.ok ()))
  | cancelled (sent : c.sent < c.batch.length) (turns : ms.countP (Move.isTurnOf n) = 2 * c.sent + 1)
      (cancel : .cancel n ∈ ms) (given : s.given n = []) : Stands ms s n c (.over (.error .cancelled))
  | failed {a : Metric} {e : StorageError} (next : c.batch[c.sent]? = some a)
      (turns : ms.countP (Move.isTurnOf n) = 2 * c.sent + 2) (fails : .appended n (.error e) ∈ ms)
      (given : s.given n = []) : Stands ms s n c (.over (.error (.append a.name e)))

/-- What is known of a call. -/
structure Standing (ms : List (Move η)) (s : Session η) (n : Nat) (c : Call) : Prop where
  batch : (ms.filterMap Move.batch?)[n]? = some c.batch
  entries : s.entries n = (c.batch.take c.sent).map Metric.streamFields
  cancel : c.isCancelled ↔ .cancel n ∈ ms
  stage : Stands ms s n c c.stage

/-- What is known of a number that no call has yet. -/
structure Unused (ms : List (Move η)) (s : Session η) (n : Nat) : Prop where
  entries : s.entries n = []
  given : s.given n = []
  turns : ms.countP (Move.isTurnOf n) = 0
  cancel : .cancel n ∉ ms

structure Known (ms : List (Move η)) (s : Session η) : Prop where
  run : start.moves? ms = some s
  nextCall : s.nextCall = (ms.filterMap Move.batch?).length
  call : ∀ n c, s.calls.get? n = some c → Standing ms s n c
  unused : ∀ n, s.calls.get? n = none → Unused ms s n
  used : ∀ n, (s.calls.get? n).isSome ↔ n < s.nextCall

/-! ### Moves that leave a call alone -/

/-- That a move leaves the entries of a call and the handlers that got its batch as they are. -/
structure Apart (s : Session η) (m : Move η) (s' : Session η) (n : Nat) : Prop where
  entries : s'.entries n = s.entries n
  given : (s'.given n).Perm (s.given n)
  turn : m.isTurnOf n = false

theorem Apart.given_eq_nil (h : Apart s m s' n) (hs : s.given n = []) : s'.given n = [] :=
  List.perm_nil.mp (hs ▸ h.given)

theorem Apart.turns (h : Apart s m s' n) : (ms ++ [m]).countP (Move.isTurnOf n) = ms.countP (Move.isTurnOf n) := by
  rw [List.countP_append, List.countP_singleton, h.turn]
  rfl

theorem Apart.of_eq (hstream : s'.stream = s.stream) (hwaiting : s'.waiting = s.waiting) (hran : s'.ran = s.ran)
    (hturn : m.isTurnOf n = false) : Apart s m s' n where
  entries := by rw [Session.entries, hstream, Session.entries]
  given := by rw [Session.given, hwaiting, hran, Session.given]
  turn := hturn

theorem Apart.handedOut {batch : List Metric} (h : Apart s m s' n) (hs : HandedOut ms s n batch) :
    HandedOut (ms ++ [m]) s' n batch := by
  obtain ⟨ms₁, ms₂, s₁, rfl, hrun, hentries, hgiven⟩ := hs
  exact ⟨ms₁, ms₂ ++ [m], s₁, by simp, hrun, hentries, h.given.trans hgiven⟩

theorem Apart.stands {st : Call.Stage} (h : Apart s m s' n) (hb : c'.batch = c.batch) (hsent : c'.sent = c.sent)
    (hs : Stands ms s n c st) : Stands (ms ++ [m]) s' n c' st := by
  cases hs with
  | ready batch sent turns given =>
    exact .ready (hb ▸ batch) (hb ▸ hsent ▸ sent) (by rw [h.turns, turns, hsent]) (h.given_eq_nil given)
  | appending sent turns given =>
    exact .appending (hb ▸ hsent ▸ sent) (by rw [h.turns, turns, hsent]) (h.given_eq_nil given)
  | empty batch turns given => exact .empty (hb ▸ batch) (by rw [h.turns, turns]) (h.given_eq_nil given)
  | done batch sent turns given =>
    exact .done (hb ▸ batch) (hb ▸ hsent ▸ sent) (by rw [h.turns, turns, hsent]) (hb ▸ h.handedOut given)
  | cancelled sent turns cancel given =>
    exact .cancelled (hb ▸ hsent ▸ sent) (by rw [h.turns, turns, hsent]) (List.mem_append_left _ cancel)
      (h.given_eq_nil given)
  | failed next turns fails given =>
    exact .failed (hb ▸ hsent ▸ next) (by rw [h.turns, turns, hsent]) (List.mem_append_left _ fails)
      (h.given_eq_nil given)

theorem getElem?_concat {l : List (List Metric)} {b : List Metric} (h : l[n]? = some b) (t : List (List Metric)) :
    (l ++ t)[n]? = some b := by
  rw [List.getElem?_append_left (List.getElem?_eq_some_iff.mp h).1, h]

theorem mem_concat_of_ne {m' : Move η} (hm : m ≠ m') : m' ∈ ms ++ [m] ↔ m' ∈ ms := by
  rw [List.mem_append, List.mem_singleton]
  exact or_iff_left hm.symm

theorem cancel_mem_concat (h : m.isTurnOf n) : .cancel n ∈ ms ++ [m] ↔ .cancel n ∈ ms :=
  mem_concat_of_ne fun hm => by
    rw [hm] at h
    cases h

theorem Apart.standing (h : Apart s m s' n) (hm : m ≠ .cancel n) (hs : Standing ms s n c) :
    Standing (ms ++ [m]) s' n c where
  batch := by
    rw [filterMap_concat]
    exact getElem?_concat hs.batch _
  entries := h.entries.trans hs.entries
  cancel := hs.cancel.trans (mem_concat_of_ne hm).symm
  stage := h.stands rfl rfl hs.stage

theorem Apart.unused (h : Apart s m s' n) (hm : m ≠ .cancel n) (hs : Unused ms s n) : Unused (ms ++ [m]) s' n where
  entries := h.entries.trans hs.entries
  given := h.given_eq_nil hs.given
  turns := h.turns.trans hs.turns
  cancel := (mem_concat_of_ne hm).not.mpr hs.cancel

theorem entries_append_of_ne {x : Dict String String} (hs : s'.stream = s.stream ++ [(k, x)]) (hn : n ≠ k) :
    s'.entries n = s.entries n := by
  rw [entries, hs, filterMap_concat, if_neg (Ne.symm hn)]
  exact List.append_nil _

theorem entries_append_self {x : Dict String String} (hs : s'.stream = s.stream ++ [(n, x)]) :
    s'.entries n = s.entries n ++ [x] := by
  rw [entries, hs, filterMap_concat, if_pos rfl]
  rfl

theorem filter_tasks_self (n : Nat) (batch : List Metric) (p : Publisher η) :
    (tasks n batch p).filter (·.call == n) = tasks n batch p :=
  List.filter_eq_self.mpr fun t ht => by
    obtain ⟨-, -, rfl⟩ := List.mem_map.mp ht
    exact beq_self_eq_true n

theorem filter_tasks_of_ne (hn : n ≠ k) (batch : List Metric) (p : Publisher η) :
    (tasks k batch p).filter (·.call == n) = [] :=
  List.filter_eq_nil_iff.mpr fun t ht => by
    obtain ⟨-, -, rfl⟩ := List.mem_map.mp ht
    exact fun h => hn (beq_iff_eq.mp h).symm

/-- A handler that runs leaves those that wait for those that ran. -/
theorem given_run {t : Task η} (success : Bool) (ht : s.waiting[k]? = some t) :
    ({ s with waiting := s.waiting.eraseIdx k, ran := s.ran ++ [(t, success)] }.given n).Perm (s.given n) := by
  obtain ⟨hk, rfl⟩ := List.getElem?_eq_some_iff.mp ht
  refine List.Perm.filter _ ?_
  simp only [List.map_append, List.map_cons, List.map_nil]
  rw [← List.append_assoc]
  refine List.perm_append_comm.trans ?_
  rw [List.singleton_append, ← List.cons_append]
  exact (List.getElem_cons_eraseIdx_perm hk).append_right _

theorem given_handOut_of_ne {batch : List Metric} {calls : Dict Nat Call} (hn : n ≠ k) :
    { s with waiting := s.waiting ++ tasks k batch s.publisher, calls := calls }.given n = s.given n := by
  rw [given, given, List.filter_append, List.filter_append, List.filter_append, filter_tasks_of_ne hn, List.append_nil]

theorem given_handOut {batch : List Metric} {calls : Dict Nat Call} (hs : s.given n = []) :
    { s with waiting := s.waiting ++ tasks n batch s.publisher, calls := calls }.given n =
      tasks n batch s.publisher := by
  rw [given, List.filter_append, List.append_eq_nil_iff] at hs
  rw [given, List.filter_append, List.filter_append, hs.1, hs.2, List.nil_append, List.append_nil, filter_tasks_self]

theorem turns_concat (h : m.isTurnOf n) :
    (ms ++ [m]).countP (Move.isTurnOf n) = ms.countP (Move.isTurnOf n) + 1 := by
  rw [List.countP_append, List.countP_singleton, if_pos h]

/-! ### From move to move -/

namespace Known

variable {batch : List Metric}

theorem run_concat (h : Known ms s) (hm : s.move? m = some s') : start.moves? (ms ++ [m]) = some s' :=
  run_append.mpr ⟨s, h.run, by rw [List.foldlM_cons, hm]; rfl⟩

/-- A move that changes no call. -/
theorem keep (h : Known ms s) (hm : s.move? m = some s') (hcalls : s'.calls = s.calls)
    (hnext : s'.nextCall = s.nextCall) (hbatch : m.batch? = none) (hcancel : ∀ n, m ≠ .cancel n)
    (hapart : ∀ n, Apart s m s' n) : Known (ms ++ [m]) s' where
  run := h.run_concat hm
  nextCall := by
    rw [filterMap_concat, hbatch, hnext, h.nextCall]
    exact congrArg _ (List.append_nil _).symm
  call n c hc := (hapart n).standing (hcancel n) (h.call n c (hcalls ▸ hc))
  unused n hn := (hapart n).unused (hcancel n) (h.unused n (hcalls ▸ hn))
  used n := by rw [hcalls, hnext, h.used]

/-- A move that changes one call. -/
theorem set (h : Known ms s) (hm : s.move? m = some s') (hcall : s.calls.get? n = some c)
    (hcalls : s'.calls = s.calls.insert n c') (hnext : s'.nextCall = s.nextCall) (hbatch : m.batch? = none)
    (hcancel : ∀ k, k ≠ n → m ≠ .cancel k) (hapart : ∀ k, k ≠ n → Apart s m s' k)
    (hn : Standing (ms ++ [m]) s' n c') : Known (ms ++ [m]) s' where
  run := h.run_concat hm
  nextCall := by
    rw [filterMap_concat, hbatch, hnext, h.nextCall]
    exact congrArg _ (List.append_nil _).symm
  call k c hc := by
    rcases Dict.eq_some_of_get?_insert (hcalls ▸ hc) with ⟨rfl, rfl⟩ | ⟨hk, hc⟩
    · exact hn
    · exact (hapart k hk).standing (hcancel k hk) (h.call k c hc)
  unused k hk := by
    rw [hcalls] at hk
    have hkn : k ≠ n := by
      rintro rfl
      rw [Dict.get?_insert_self] at hk
      cases hk
    rw [Dict.get?_insert_of_ne hkn] at hk
    exact (hapart k hkn).unused (hcancel k hkn) (h.unused k hk)
  used k := by
    rw [hcalls, hnext, ← h.used k]
    by_cases hk : k = n
    · rw [hk, Dict.get?_insert_self, hcall]
      rfl
    · rw [Dict.get?_insert_of_ne hk]

/-- A move that makes a call. -/
theorem make {st : Call.Stage} (h : Known ms s) (hm : s.move? (.publish batch) = some s')
    (hs : s' = { s with calls := s.calls.insert s.nextCall ⟨batch, 0, false, st⟩, nextCall := s.nextCall + 1 })
    (hst : Unused (ms ++ [.publish batch]) s' s.nextCall →
      Stands (ms ++ [.publish batch]) s' s.nextCall ⟨batch, 0, false, st⟩ st) :
    Known (ms ++ [.publish batch]) s' := by
  have hapart (n : Nat) : Apart s (.publish batch) s' n := by
    rw [hs]
    exact .of_eq rfl rfl rfl rfl
  have hcalls : s'.calls = s.calls.insert s.nextCall ⟨batch, 0, false, st⟩ := by rw [hs]
  have hnext : s'.nextCall = s.nextCall + 1 := by rw [hs]
  have hnone : s.calls.get? s.nextCall = none := by
    rw [← Option.not_isSome_iff_eq_none, h.used]
    exact Nat.lt_irrefl _
  have hunused := (hapart _).unused nofun (h.unused _ hnone)
  refine ⟨h.run_concat hm, ?_, fun n c hc => ?_, fun n hn => ?_, fun n => ?_⟩
  · rw [filterMap_concat, hnext, h.nextCall, List.length_append]
    rfl
  · rcases Dict.eq_some_of_get?_insert (hcalls ▸ hc) with ⟨rfl, rfl⟩ | ⟨-, hc⟩
    · refine ⟨?_, hunused.entries, iff_of_false Bool.false_ne_true hunused.cancel, hst hunused⟩
      rw [filterMap_concat, h.nextCall]
      exact List.getElem?_concat_length
    · exact (hapart n).standing nofun (h.call n c hc)
  · rw [hcalls] at hn
    have hne : n ≠ s.nextCall := by
      rintro rfl
      rw [Dict.get?_insert_self] at hn
      cases hn
    rw [Dict.get?_insert_of_ne hne] at hn
    exact (hapart n).unused nofun (h.unused n hn)
  · rw [hcalls, hnext]
    by_cases hn : n = s.nextCall
    · rw [hn, Dict.get?_insert_self]
      exact iff_of_true rfl (Nat.lt_succ_self _)
    · rw [Dict.get?_insert_of_ne hn, h.used]
      omega

/-- A turn of a call that adds no entry and hands nothing out. -/
theorem turn {st : Call.Stage} (h : Known ms s) (hm : s.move? m = some (s.setCall n { c with stage := st }))
    (hcall : s.calls.get? n = some c) (hbatch : m.batch? = none) (hcancel : ∀ k, m ≠ .cancel k)
    (hturn : ∀ k, m.isTurnOf k = (n == k))
    (hst : (ms ++ [m]).countP (Move.isTurnOf n) = ms.countP (Move.isTurnOf n) + 1 →
      Stands (ms ++ [m]) (s.setCall n { c with stage := st }) n { c with stage := st } st) :
    Known (ms ++ [m]) (s.setCall n { c with stage := st }) := by
  refine h.set hm hcall rfl rfl hbatch (fun k _ => hcancel k) (fun k hk => .of_eq rfl rfl rfl ?_) ⟨?_, ?_, ?_, hst ?_⟩
  · rw [hturn, beq_eq_false_iff_ne]
    exact Ne.symm hk
  · rw [filterMap_concat]
    exact getElem?_concat (h.call n c hcall).batch _
  · exact (h.call n c hcall).entries
  · exact (h.call n c hcall).cancel.trans (mem_concat_of_ne (hcancel n)).symm
  · exact turns_concat ((hturn n).trans (beq_self_eq_true n))

theorem start : Known [] (Session.start : Session η) where
  run := rfl
  nextCall := rfl
  call _ _ hc := by cases hc
  unused _ _ := ⟨rfl, rfl, rfl, List.not_mem_nil⟩
  used _ := ⟨nofun, nofun⟩

theorem step (h : Known ms s) (hm : s.move? m = some s') : Known (ms ++ [m]) s' := by
  cases step_of_move? hm with
  | subscribe | unsubscribe => exact h.keep hm rfl rfl rfl nofun fun _ => .of_eq rfl rfl rfl rfl
  | publishNone => exact h.make hm rfl fun hu => .empty rfl hu.turns hu.given
  | publish a batch => exact h.make hm rfl fun hu => .ready (List.cons_ne_nil _ _) (Nat.zero_le _) hu.turns hu.given
  | @cancel n c hc =>
    have hapart (k : Nat) : Apart s (.cancel n) (s.setCall n { c with isCancelled := true }) k := .of_eq rfl rfl rfl rfl
    have hs := h.call n c hc
    refine h.set hm hc rfl rfl rfl (fun k hk hkn => hk ?_) (fun k _ => hapart k) ⟨?_, hs.entries, ?_, ?_⟩
    · cases hkn
      rfl
    · rw [filterMap_concat]
      exact getElem?_concat hs.batch _
    · exact iff_of_true rfl (List.mem_append_right _ (List.mem_singleton_self _))
    · exact (hapart n).stands (c := c) rfl rfl hs.stage
  | @stop n c a hc hstage hnext hcancel =>
    refine h.turn hm hc rfl nofun (fun _ => rfl) fun hturns => ?_
    have hs := h.call n c hc
    have hst := hs.stage
    rw [hstage] at hst
    cases hst with
    | ready _ _ turns given =>
      exact .cancelled (List.getElem?_eq_some_iff.mp hnext).1 (hturns.trans (by rw [turns]))
        (List.mem_append_left _ (hs.cancel.mp hcancel)) given
  | @look n c a hc hstage hnext _ =>
    refine h.turn hm hc rfl nofun (fun _ => rfl) fun hturns => ?_
    have hst := (h.call n c hc).stage
    rw [hstage] at hst
    cases hst with
    | ready _ _ turns given =>
      exact .appending (List.getElem?_eq_some_iff.mp hnext).1 (hturns.trans (by rw [turns])) given
  | @fail n c a e hc hstage hnext =>
    refine h.turn hm hc rfl nofun (fun _ => rfl) fun hturns => ?_
    have hst := (h.call n c hc).stage
    rw [hstage] at hst
    cases hst with
    | appending _ turns given =>
      exact .failed hnext (hturns.trans (by rw [turns])) (List.mem_append_right _ (List.mem_singleton_self _)) given
  | @appended n c a hc hstage hnext =>
    have hs := h.call n c hc
    refine h.set hm hc rfl rfl rfl nofun (fun k hk => ⟨entries_append_of_ne rfl hk, .rfl, ?_⟩) ⟨?_, ?_, ?_, ?_⟩
    · exact beq_eq_false_iff_ne.mpr hk.symm
    · rw [filterMap_concat]
      exact getElem?_concat hs.batch _
    · rw [entries_append_self rfl, hs.entries, List.take_add_one, hnext, List.map_append]
      rfl
    · exact hs.cancel.trans (cancel_mem_concat (isTurnOf_appended n _)).symm
    · have hst := hs.stage
      rw [hstage] at hst
      cases hst with
      | appending sent turns given =>
        refine .ready (List.ne_nil_of_length_pos (Nat.zero_lt_of_lt sent)) sent ?_ given
        rw [turns_concat (isTurnOf_appended n _), turns]
        rfl
  | @handOut n c hc hstage hnext =>
    have hs := h.call n c hc
    refine h.set hm hc rfl rfl rfl nofun (fun k hk => ⟨rfl, ?_, ?_⟩) ⟨?_, hs.entries, ?_, ?_⟩
    · exact .of_eq (given_handOut_of_ne hk)
    · exact beq_eq_false_iff_ne.mpr hk.symm
    · rw [filterMap_concat]
      exact getElem?_concat hs.batch _
    · exact hs.cancel.trans (cancel_mem_concat (isTurnOf_handOut n)).symm
    · have hst := hs.stage
      rw [hstage] at hst
      cases hst with
      | ready batch sent turns given =>
        have hsent : c.sent = c.batch.length := Nat.le_antisymm sent (List.getElem?_eq_none_iff.mp hnext)
        refine .done batch hsent ?_ ⟨ms, [], s, rfl, h.run, ?_, ?_⟩
        · rw [turns_concat (isTurnOf_handOut n), turns]
        · rw [hs.entries, hsent, List.take_length]
        · exact .of_eq (given_handOut given)
  | @run k t success ht => exact h.keep hm rfl rfl rfl nofun fun _ => ⟨rfl, given_run success ht, rfl⟩

theorem of_run (h : Session.start.moves? ms = some s) : Known ms s :=
  holds_of_run (Q := fun ms (s : Session η) => Known ms s) Known.start (fun _ _ _ _ h hm => h.step hm) ms h

end Known

end EndpointWatch.Publisher.Session
