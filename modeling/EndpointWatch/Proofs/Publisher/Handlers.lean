import EndpointWatch.Proofs.Publisher.Calls

/-!
# The handlers of a publisher

A handler is registered from its subscription until it is taken off (`registers_of_run`). Those that get the batch of a
call are the ones registered when it is handed out, each once and with the whole batch (`HandedOut.exists_recipients`).
Whether a handler succeeds shows nowhere but in its own run (`moves?_succeed`).
-/

namespace EndpointWatch.Publisher.Session

variable {η : Type} {s s' : Session η} {m : Move η} {ms : List (Move η)} {id n : Nat} {h h' : η}

/-! ### The register -/

def Move.isSubscribe : Move η → Bool
  | subscribe _ => true
  | _ => false

/-- That a handler was subscribed, as the one with this number, and was not taken off since. -/
def Registered (ms : List (Move η)) (id : Nat) (h : η) : Prop :=
  ∃ ms₁ ms₂, ms = ms₁ ++ .subscribe h :: ms₂ ∧ id = ms₁.countP Move.isSubscribe + 1 ∧ .unsubscribe id ∉ ms₂

theorem Registered.le (hr : Registered ms id h) : id ≤ ms.countP Move.isSubscribe := by
  obtain ⟨ms₁, ms₂, rfl, rfl, -⟩ := hr
  rw [List.countP_append, List.countP_cons_of_pos rfl]
  omega

theorem registered_concat : Registered (ms ++ [m]) id h ↔
    Registered ms id h ∧ m ≠ .unsubscribe id ∨ m = .subscribe h ∧ id = ms.countP Move.isSubscribe + 1 := by
  constructor
  · rintro ⟨ms₁, ms₂, hms, hid, hoff⟩
    rcases ms₂.eq_nil_or_concat with rfl | ⟨ms₂, m', rfl⟩
    · obtain ⟨rfl, hm⟩ := List.append_inj' hms rfl
      exact .inr ⟨List.singleton_injective hm, hid⟩
    · rw [List.concat_eq_append, ← List.cons_append, ← List.append_assoc] at hms
      obtain ⟨rfl, hm⟩ := List.append_inj' hms rfl
      obtain rfl := List.singleton_injective hm
      rw [List.concat_eq_append, List.mem_append, List.mem_singleton, not_or] at hoff
      exact .inl ⟨⟨ms₁, ms₂, rfl, hid, hoff.1⟩, Ne.symm hoff.2⟩
  · rintro (⟨⟨ms₁, ms₂, rfl, hid, hoff⟩, hm⟩ | ⟨rfl, hid⟩)
    · refine ⟨ms₁, ms₂ ++ [m], by rw [List.append_assoc, List.cons_append], hid, ?_⟩
      rw [List.mem_append, List.mem_singleton]
      exact not_or.mpr ⟨hoff, hm.symm⟩
    · exact ⟨ms, [], rfl, hid, List.not_mem_nil⟩

/-- What the register of a publisher holds after some moves. -/
structure Registers (ms : List (Move η)) (p : Publisher η) : Prop where
  nextId : p.nextId = ms.countP Move.isSubscribe + 1
  get? : ∀ id h, p.handlers.get? id = some h ↔ Registered ms id h

theorem Registers.keep {p : Publisher η} (hr : Registers ms p) (hon : m.isSubscribe = false)
    (hoff : ∀ id, m ≠ .unsubscribe id) : Registers (ms ++ [m]) p where
  nextId := by
    rw [List.countP_append, List.countP_singleton, hon]
    exact hr.nextId
  get? id h := by
    rw [registered_concat, hr.get?]
    refine ⟨fun hid => .inl ⟨hid, hoff id⟩, ?_⟩
    rintro (⟨hid, -⟩ | ⟨rfl, -⟩)
    · exact hid
    · cases hon

theorem Registers.subscribe {p : Publisher η} (hr : Registers ms p) (h : η) :
    Registers (ms ++ [.subscribe h]) (p.subscribe h).2 where
  nextId := by
    rw [List.countP_append]
    exact congrArg (· + 1) hr.nextId
  get? id h' := by
    rw [registered_concat, Publisher.subscribe, ← hr.nextId]
    constructor
    · intro hid
      rcases Dict.eq_some_of_get?_insert hid with ⟨rfl, rfl⟩ | ⟨-, hid⟩
      · exact .inr ⟨rfl, rfl⟩
      · exact .inl ⟨(hr.get? ..).mp hid, nofun⟩
    · rintro (⟨hid, -⟩ | ⟨hm, rfl⟩)
      · have hne : id ≠ p.nextId := by
          have hle := hid.le
          have hnext := hr.nextId
          omega
        exact (Dict.get?_insert_of_ne hne).trans ((hr.get? ..).mpr hid)
      · cases hm
        exact Dict.get?_insert_self ..

theorem Registers.unsubscribe {p : Publisher η} (hr : Registers ms p) (id : Nat) :
    Registers (ms ++ [.unsubscribe id]) (p.unsubscribe id).2 where
  nextId := by
    rw [List.countP_append]
    exact hr.nextId
  get? j h := by
    rw [registered_concat, Publisher.unsubscribe]
    constructor
    · intro hj
      obtain ⟨hne, hj⟩ := Dict.eq_some_of_get?_erase hj
      refine .inl ⟨(hr.get? ..).mp hj, fun hm => hne ?_⟩
      cases hm
      rfl
    · rintro (⟨hj, hm⟩ | ⟨hm, -⟩)
      · have hne : j ≠ id := fun hji => hm (congrArg _ hji.symm)
        exact (Dict.get?_erase_of_ne hne).trans ((hr.get? ..).mpr hj)
      · cases hm

theorem registers_of_run (hrun : start.moves? ms = some s) : Registers ms s.publisher := by
  refine holds_of_run (Q := fun ms (s : Session η) => Registers ms s.publisher) ⟨rfl, fun id h => ?_⟩
    (fun ms s m s' hr hm => ?_) ms hrun
  · refine ⟨nofun, fun hid => ?_⟩
    obtain ⟨ms₁, ms₂, hms, -⟩ := hid
    simp at hms
  · cases step_of_move? hm with
    | subscribe h => exact hr.subscribe h
    | unsubscribe id => exact hr.unsubscribe id
    | publishNone | publish | cancel | stop | look | appended | fail | handOut | run => exact hr.keep rfl nofun

/-! ### Those that get a batch -/

theorem mem_tasks_iff {batch : List Metric} {p : Publisher η} {t : Task η} : t ∈ tasks n batch p ↔
    t.call = n ∧ t.batch = batch ∧ p.handlers.get? t.id = some t.handler := by
  simp only [tasks, List.mem_map, Prod.exists, Dict.mem_toList_iff]
  constructor
  · rintro ⟨id, h, hget, rfl⟩
    exact ⟨rfl, rfl, hget⟩
  · rintro ⟨rfl, rfl, hget⟩
    exact ⟨t.id, t.handler, hget, rfl⟩

theorem map_id_tasks (n : Nat) (batch : List Metric) (p : Publisher η) :
    (tasks n batch p).map Task.id = p.handlers.keys := by
  rw [tasks, List.map_map]
  rfl

/-- That the handlers registered after the moves `ms` are those to which a call has given its batch, each of them once. -/
structure Recipients (ms : List (Move η)) (s : Session η) (n : Nat) (batch : List Metric) : Prop where
  once : ((s.given n).map Task.id).Nodup
  mem_iff : ∀ t, t ∈ s.given n ↔ t.call = n ∧ t.batch = batch ∧ Registered ms t.id t.handler

theorem HandedOut.exists_recipients {batch : List Metric} (h : HandedOut ms s n batch) :
    ∃ ms₁ ms₂, ms = ms₁ ++ .handOut n :: ms₂ ∧ Recipients ms₁ s n batch := by
  obtain ⟨ms₁, ms₂, s₁, hms, hrun, -, hperm⟩ := h
  refine ⟨ms₁, ms₂, hms, ?_, fun t => ?_⟩
  · rw [(hperm.map Task.id).nodup_iff, map_id_tasks]
    exact Dict.nodup_keys _
  · rw [hperm.mem_iff, mem_tasks_iff, (registers_of_run hrun).get?]

/-! ### Handlers that fail -/

/-- A move in whose place a handler succeeds. -/
def Move.succeed : Move η → Move η
  | run k _ => run k true
  | m => m

/-- The session in which every handler that ran has succeeded. -/
def succeed (s : Session η) : Session η := { s with ran := s.ran.map fun t => (t.1, true) }

theorem Step.succeed (h : Step s m s') : Step s.succeed m.succeed s'.succeed := by
  cases h with
  | subscribe h => exact .subscribe h
  | unsubscribe id => exact .unsubscribe id
  | publishNone => exact .publishNone
  | publish a batch => exact .publish a batch
  | cancel hc => exact .cancel hc
  | stop hc hstage hnext hcancel => exact .stop hc hstage hnext hcancel
  | look hc hstage hnext hcancel => exact .look hc hstage hnext hcancel
  | appended hc hstage hnext => exact .appended hc hstage hnext
  | fail hc hstage hnext => exact .fail hc hstage hnext
  | handOut hc hstage hnext => exact .handOut hc hstage hnext
  | @run k t success ht =>
    have hran : s.succeed.ran ++ [(t, true)] = (s.ran ++ [(t, success)]).map fun t => (t.1, true) := by
      rw [List.map_append]
      rfl
    have hrun : Step s.succeed (.run k true) _ := .run ht
    rwa [hran] at hrun

theorem moves?_succeed (h : s.moves? ms = some s') : s.succeed.moves? (ms.map Move.succeed) = some s'.succeed := by
  induction ms generalizing s with
  | nil => cases h; rfl
  | cons m ms ih =>
    obtain ⟨t, ht, h⟩ := run_cons h
    rw [List.map_cons, moves?, List.foldlM_cons, move?_of_step (step_of_move? ht).succeed]
    exact ih h

/-- Those that got a batch and wait can all run, whichever of them fail. -/
theorem exists_runAll (s : Session η) (flags : List Bool) (hlen : flags.length = s.waiting.length) :
    ∃ s', s.moves? (flags.map (.run 0)) = some s' ∧ s'.waiting = [] ∧ s'.ran = s.ran ++ s.waiting.zip flags := by
  induction flags generalizing s with
  | nil =>
    have hnil : s.waiting = [] := List.eq_nil_of_length_eq_zero hlen.symm
    exact ⟨s, rfl, hnil, by rw [hnil]; exact (List.append_nil _).symm⟩
  | cons success flags ih =>
    obtain ⟨t, rest, hwaiting⟩ := List.exists_cons_of_length_eq_add_one hlen.symm
    have hrun : Step s (.run 0 success) _ := .run (k := 0) (t := t) (by rw [hwaiting]; rfl)
    obtain ⟨s', hrest, hnone, hran⟩ := ih { s with waiting := s.waiting.eraseIdx 0, ran := s.ran ++ [(t, success)] } <| by
      rw [hwaiting] at hlen ⊢
      exact Nat.succ.inj hlen
    refine ⟨s', ?_, hnone, ?_⟩
    · rw [List.map_cons, moves?, List.foldlM_cons, move?_of_step hrun]
      exact hrest
    · rw [hran, hwaiting, List.append_assoc]
      rfl

end EndpointWatch.Publisher.Session
