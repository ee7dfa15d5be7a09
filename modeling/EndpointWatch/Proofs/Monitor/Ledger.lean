import EndpointWatch.Monitor.Basic

/-!
# The ledger of a cycle

A monitor's log tells of all cycles at once. The `ledger` of one of them is what the log tells of this cycle, oldest
first. Other cycles' happenings do not show in it (`note_of_ne`), and it grows by one entry at a time.

While a cycle runs, the endpoints it began with are those that were handed in and those whose checks are under way,
and the results that were handed in are those it tried to save, the one it is saving and those in its inbox, in this
order (`Running`). So there is always room in the inbox for the result of a check (`Running.inbox_lt`), and when
the cycle is complete its report counts every endpoint once (`Running.settles`).
-/

namespace EndpointWatch

/-- The cycle that a happening tells of. -/
def Happening.cycle? : Happening → Option Nat
  | .began k _ | .handedIn k _ _ | .saved k _ | .unsaved k _ | .broadcast k _ | .handedOn k _ _ _ | .ended k _ => some k
  | .called .. | .delivered .. => none

namespace Monitor

/-- What a log tells of one cycle: the endpoints it began with, the results its checks handed in beside their
endpoints, the results it tried to save and whether it could, what it broadcast and handed on, and how it ended. -/
structure Ledger where
  began : List (List Endpoint)
  handedIn : List (Endpoint × CheckResult)
  tried : List (CheckResult × Bool)
  broadcast : List CheckResult
  handedOn : List (Channel × CheckResult)
  ended : List (Except CycleError CycleReport)

namespace Ledger

def empty : Ledger := ⟨[], [], [], [], [], []⟩

/-- The results that were saved. -/
def saved (l : Ledger) : List CheckResult := (l.tried.filter (·.2)).map Prod.fst

/-- The results that could not be saved. -/
def unsaved (l : Ledger) : List CheckResult := (l.tried.filter (!·.2)).map Prod.fst

/-- The results that were handed on over a channel. -/
def handedTo (c : Channel) (l : Ledger) : List CheckResult := (l.handedOn.filter (·.1 = c)).map Prod.snd

/-- The ledger of cycle `n` after one more happening. -/
def note (n : Nat) (h : Happening) (l : Ledger) : Ledger :=
  match h with
  | .began k es => if k = n then { l with began := l.began ++ [es] } else l
  | .handedIn k e r => if k = n then { l with handedIn := l.handedIn ++ [(e, r)] } else l
  | .saved k r => if k = n then { l with tried := l.tried ++ [(r, true)] } else l
  | .unsaved k r => if k = n then { l with tried := l.tried ++ [(r, false)] } else l
  | .broadcast k r => if k = n then { l with broadcast := l.broadcast ++ [r] } else l
  | .handedOn k _ c r => if k = n then { l with handedOn := l.handedOn ++ [(c, r)] } else l
  | .ended k r => if k = n then { l with ended := l.ended ++ [r] } else l
  | .called .. | .delivered .. => l

end Ledger

/-- What a log, newest entry first, tells of cycle `n`. -/
def ledger (n : Nat) (log : List Happening) : Ledger := log.foldr (Ledger.note n) .empty

@[simp] theorem ledger_cons (n : Nat) (h : Happening) (log : List Happening) :
    ledger n (h :: log) = (ledger n log).note n h := rfl

namespace Ledger

theorem note_of_ne {n : Nat} {h : Happening} (l : Ledger) (hn : h.cycle? ≠ some n) : l.note n h = l := by
  cases h with
  | called | delivered => rfl
  | began | handedIn | saved | unsaved | broadcast | handedOn | ended => exact if_neg fun he => hn (congrArg some he)

/-- A ledger tells how its cycle ended. -/
theorem mem_ended {n : Nat} {r : Except CycleError CycleReport} {log : List Happening} :
    r ∈ (ledger n log).ended ↔ .ended n r ∈ log := by
  induction log with
  | nil => exact iff_of_false List.not_mem_nil List.not_mem_nil
  | cons h log ih =>
    rw [ledger_cons, List.mem_cons, ← ih]
    cases h with
    | ended k r' =>
      by_cases hk : k = n
      · subst hk
        simp [note, or_comm]
      · simp [note, hk, Ne.symm hk]
    | called | delivered => simp [note]
    | began k | handedIn k | saved k | unsaved k | broadcast k | handedOn k =>
      by_cases hk : k = n <;> simp [note, hk]

/-- A ledger tells what its cycle has saved. -/
theorem mem_saved {n : Nat} {r : CheckResult} {log : List Happening} : r ∈ (ledger n log).saved ↔ .saved n r ∈ log := by
  induction log with
  | nil => exact iff_of_false List.not_mem_nil List.not_mem_nil
  | cons h log ih =>
    rw [ledger_cons, List.mem_cons, ← ih]
    cases h with
    | saved k r' =>
      by_cases hk : k = n
      · subst hk
        simp [note, saved, or_comm]
      · simp [note, hk, Ne.symm hk]
    | called | delivered => simp [note]
    | began k | handedIn k | unsaved k | broadcast k | handedOn k | ended k =>
      by_cases hk : k = n <;> simp [note, saved, hk]

/-- A ledger tells what its cycle has broadcast. -/
theorem mem_broadcast {n : Nat} {r : CheckResult} {log : List Happening} :
    r ∈ (ledger n log).broadcast ↔ .broadcast n r ∈ log := by
  induction log with
  | nil => exact iff_of_false List.not_mem_nil List.not_mem_nil
  | cons h log ih =>
    rw [ledger_cons, List.mem_cons, ← ih]
    cases h with
    | broadcast k r' =>
      by_cases hk : k = n
      · subst hk
        simp [note, or_comm]
      · simp [note, hk, Ne.symm hk]
    | called | delivered => simp [note]
    | began k | handedIn k | saved k | unsaved k | handedOn k | ended k =>
      by_cases hk : k = n <;> simp [note, hk]

/-- A ledger tells what its cycle has handed on. -/
theorem mem_handedOn {n : Nat} {c : Channel} {r : CheckResult} {log : List Happening} :
    (c, r) ∈ (ledger n log).handedOn ↔ ∃ d, .handedOn n d c r ∈ log := by
  induction log with
  | nil => exact iff_of_false List.not_mem_nil fun ⟨_, h⟩ => List.not_mem_nil h
  | cons h log ih =>
    simp only [ledger_cons, List.mem_cons, exists_or, ← ih]
    cases h with
    | handedOn k d c' r' =>
      by_cases hk : k = n
      · subst hk
        simp [note, or_comm]
      · simp [note, hk, Ne.symm hk]
    | called | delivered => simp [note]
    | began k | handedIn k | saved k | unsaved k | broadcast k | ended k =>
      by_cases hk : k = n <;> simp [note, hk]

/-! ### A cycle under way -/

/-- At any time a cycle has broadcast and handed on what it saved, and every result is that of its endpoint. -/
structure Fair (hasEvaluator : Bool) (l : Ledger) : Prop where
  ids : ∀ p ∈ l.handedIn, p.2.endpointId = p.1.id
  broadcast : l.broadcast = l.saved
  stream : l.handedTo .stream = l.saved
  evaluator : l.handedTo .evaluator = if hasEvaluator then l.saved else []

/-- The ledger of a cycle under way that waits for the checks of the endpoints `pending`. -/
structure Running (pending : List Endpoint) (c : Cycle) (l : Ledger) : Prop where
  endpoints : ∃ es, l.began = [es] ∧ c.capacity = es.length ∧ (l.handedIn.map Prod.fst ++ pending).Perm es
  outstanding : c.outstanding = pending.length
  results : l.handedIn.map Prod.snd = l.tried.map Prod.fst ++ (c.saving?.toList ++ c.inbox)
  checked : c.report.checked = l.tried.length + c.saving?.toList.length
  persisted : c.report.persisted = l.saved.length
  failed : c.report.failed = l.unsaved.length
  ended : l.ended = []

/-- The ledger of a cycle that ended with a report. -/
structure Settles (r : CycleReport) (l : Ledger) : Prop where
  endpoints : ∃ es, l.began = [es] ∧ r.checked = es.length ∧ (l.handedIn.map Prod.fst).Perm es
  results : l.tried.map Prod.fst = l.handedIn.map Prod.snd
  persisted : r.persisted = l.saved.length
  failed : r.failed = l.unsaved.length

variable {l : Ledger} {n : Nat}

theorem length_saved_add_length_unsaved (l : Ledger) : l.saved.length + l.unsaved.length = l.tried.length := by
  rw [saved, unsaved, List.length_map, List.length_map, ← List.countP_eq_length_filter,
    ← List.countP_eq_length_filter, List.length_eq_countP_add_countP (fun p : CheckResult × Bool => p.2)]
  simp

theorem Fair.empty (hasEvaluator : Bool) : Fair hasEvaluator .empty where
  ids p hp := absurd hp List.not_mem_nil
  broadcast := rfl
  stream := rfl
  evaluator := by cases hasEvaluator <;> rfl

/-- What was broadcast had been saved. -/
theorem Fair.saved_of_broadcast {b : Bool} {log : List Happening} {r : CheckResult} (h : (ledger n log).Fair b)
    (hr : .broadcast n r ∈ log) : .saved n r ∈ log := by
  rw [← mem_saved, ← h.broadcast]
  exact mem_broadcast.mpr hr

/-- What was handed on had been saved. -/
theorem Fair.saved_of_handedOn {b : Bool} {log : List Happening} {d : Nat} {c : Channel} {r : CheckResult}
    (h : (ledger n log).Fair b) (hr : .handedOn n d c r ∈ log) : .saved n r ∈ log := by
  have hmem : r ∈ (ledger n log).handedTo c :=
    List.mem_map.mpr ⟨(c, r), List.mem_filter.mpr ⟨mem_handedOn.mpr ⟨d, hr⟩, decide_eq_true rfl⟩, rfl⟩
  rw [← mem_saved]
  cases c with
  | stream => exact h.stream ▸ hmem
  | evaluator =>
    rw [h.evaluator] at hmem
    split at hmem
    · exact hmem
    · cases hmem

theorem Running.perm {p p' : List Endpoint} {c : Cycle} (h : Running p c l) (hp : p'.Perm p) : Running p' c l := by
  obtain ⟨es, hb, hc, he⟩ := h.endpoints
  exact ⟨⟨es, hb, hc, (hp.append_left _).trans he⟩, h.outstanding.trans hp.length_eq.symm, h.results, h.checked,
    h.persisted, h.failed, h.ended⟩

/-- A cycle has room for the result of every check that it still waits for, so that none has to wait. -/
theorem Running.inbox_lt {p : List Endpoint} {c : Cycle} (h : Running p c l) (hp : p ≠ []) :
    c.inbox.length < c.capacity := by
  -- what is in the inbox was handed in, and with what is still to come that is one for each endpoint
  obtain ⟨es, -, hc, he⟩ := h.endpoints
  have h1 := congrArg List.length h.results
  have h2 := he.length_eq
  have h3 := List.length_pos_iff.mpr hp
  simp only [List.length_append, List.length_map] at h1 h2
  omega

theorem Running.pending_eq_nil {p : List Endpoint} {c : Cycle} (h : Running p c l) (hc : c.isComplete) : p = [] := by
  simp only [Cycle.isComplete, Bool.and_eq_true, decide_eq_true_eq] at hc
  exact List.length_eq_zero_iff.mp (h.outstanding.symm.trans hc.2)

theorem Running.settles {p : List Endpoint} {c : Cycle} (h : Running p c l) (hc : c.isComplete) :
    l.Settles c.report := by
  obtain rfl := h.pending_eq_nil hc
  simp only [Cycle.isComplete, Bool.and_eq_true, Option.isNone_iff_eq_none, List.isEmpty_iff] at hc
  obtain ⟨⟨hs, hi⟩, -⟩ := hc
  obtain ⟨es, hb, -, he⟩ := h.endpoints
  rw [List.append_nil] at he
  have hr : l.handedIn.map Prod.snd = l.tried.map Prod.fst := by simpa [hs, hi] using h.results
  have hk : c.report.checked = l.tried.length := by simpa [hs] using h.checked
  refine ⟨⟨es, hb, ?_, he⟩, hr.symm, h.persisted, h.failed⟩
  have hlen := congrArg List.length hr
  have hperm := he.length_eq
  simp only [List.length_map] at hlen hperm
  omega

/-! ### What the moves of a cycle note -/

theorem Fair.handIn {b : Bool} (h : Fair b l) {e : Endpoint} {r : CheckResult} (hr : r.endpointId = e.id) :
    Fair b (l.note n (.handedIn n e r)) := by
  rw [note, if_pos rfl]
  refine ⟨fun p hp => ?_, h.broadcast, h.stream, h.evaluator⟩
  rcases List.mem_append.mp hp with hp | hp
  · exact h.ids p hp
  · rw [List.mem_singleton.mp hp]; exact hr

theorem Running.handIn {p : List Endpoint} {c : Cycle} {e : Endpoint} (h : Running (e :: p) c l) (r : CheckResult) :
    Running p { c with outstanding := c.outstanding - 1, inbox := c.inbox ++ [r] } (l.note n (.handedIn n e r)) := by
  rw [note, if_pos rfl]
  obtain ⟨es, hb, hc, he⟩ := h.endpoints
  refine ⟨⟨es, hb, hc, ?_⟩, ?_, ?_, h.checked, h.persisted, h.failed, h.ended⟩
  · simpa [List.append_assoc] using he
  · show c.outstanding - 1 = p.length
    rw [h.outstanding]; rfl
  · show (l.handedIn ++ [(e, r)]).map Prod.snd = _
    rw [List.map_append, h.results]
    simp [List.append_assoc]

theorem Running.take {p : List Endpoint} {c c' : Cycle} (h : Running p c l) (hc : c.take? = some c') :
    Running p c' l := by
  unfold Cycle.take? at hc
  split at hc
  · next r rest hs hi =>
    cases hc
    refine ⟨h.endpoints, h.outstanding, ?_, ?_, h.persisted, h.failed, h.ended⟩
    · rw [h.results, hs, hi]; rfl
    · show c.report.checked + 1 = _
      rw [h.checked, hs]; rfl
  · cases hc

/-- The ledger after a save has ended. -/
def save (hasEvaluator : Bool) (r : CheckResult) (success : Bool) (l : Ledger) : Ledger :=
  if success then { l with
    tried := l.tried ++ [(r, true)]
    broadcast := l.broadcast ++ [r]
    handedOn := l.handedOn ++ (.stream, r) :: if hasEvaluator then [(.evaluator, r)] else [] }
  else { l with tried := l.tried ++ [(r, false)] }

@[simp] theorem saved_save (b : Bool) (r : CheckResult) (success : Bool) :
    (l.save b r success).saved = l.saved ++ if success then [r] else [] := by
  cases success <;> simp [save, saved]

@[simp] theorem unsaved_save (b : Bool) (r : CheckResult) (success : Bool) :
    (l.save b r success).unsaved = l.unsaved ++ if success then [] else [r] := by
  cases success <;> simp [save, unsaved]

@[simp] theorem handedTo_save (c : Channel) (b : Bool) (r : CheckResult) (success : Bool) :
    (l.save b r success).handedTo c =
      l.handedTo c ++ if success && (c = .stream || b) then [r] else [] := by
  cases success <;> cases b <;> cases c <;> simp [save, handedTo]

theorem Fair.save {b : Bool} (h : Fair b l) (r : CheckResult) (success : Bool) : Fair b (l.save b r success) := by
  refine ⟨?_, ?_, ?_, ?_⟩
  · cases success <;> exact h.ids
  · rw [saved_save, ← h.broadcast]
    cases success
    · exact (List.append_nil _).symm
    · rfl
  · rw [handedTo_save, saved_save, h.stream]
    cases success <;> rfl
  · rw [handedTo_save, saved_save, h.evaluator]
    cases success <;> cases b <;> simp

theorem Running.save {p : List Endpoint} {c c' : Cycle} {r : CheckResult} {success : Bool} (h : Running p c l)
    (hc : c.saved? success = some (r, c')) (b : Bool) : Running p c' (l.save b r success) := by
  obtain ⟨r', hs, he⟩ := Option.map_eq_some_iff.mp hc
  obtain ⟨rfl, rfl⟩ := Prod.mk.injEq .. ▸ he
  have hres := h.results
  have hchk := h.checked
  rw [hs] at hres hchk
  cases success with
  | false =>
    refine ⟨h.endpoints, h.outstanding, ?_, ?_, ?_, ?_, h.ended⟩
    · simpa [Ledger.save, List.append_assoc] using hres
    · simpa [Ledger.save] using hchk
    · simpa using h.persisted
    · simpa using h.failed
  | true =>
    refine ⟨h.endpoints, h.outstanding, ?_, ?_, ?_, ?_, h.ended⟩
    · simpa [Ledger.save, List.append_assoc] using hres
    · simpa [Ledger.save] using hchk
    · simpa using h.persisted
    · simpa using h.failed

end Ledger

end Monitor

end EndpointWatch
