import EndpointWatch.Proofs.Collector.InTurn

/-!
# A collection under way

Those that take part in a collection are chosen when it begins, and what becomes of the registry after that does not
matter to it. So however the collectors of a collection that is not cancelled overlap, its outcome is that of asking
them one after the other (`inTurn_of_run`).
-/

namespace EndpointWatch

/-- A collection under way, and the registry, which may change meanwhile. Those that take part were chosen when it
began. -/
structure Gathering where
  registry : Registry
  chosen : Dict String Collector
  pool : Pool

namespace Gathering

inductive Turn where
  | enter
  | start
  | finish
  | giveUp
  deriving DecidableEq, Repr

/-- A turn as a move of the pool. A collector ends as it always does. -/
def Turn.move (name : String) (k : Collector) : Turn → Pool.Move
  | enter => .enter name
  | start => .start name
  | finish => .finish name k.result
  | giveUp => .giveUp name

inductive Move where
  | turn (name : String) (t : Turn)
  | cancel
  | add (name : String) (k : Collector)
  | remove (name : String)
  | setEnabled (name : String) (isEnabled : Bool)

def Move.isTurn : Move → Bool
  | turn .. => true
  | cancel | add .. | remove _ | setEnabled .. => false

def begin? (r : Registry) (isCancelled : Bool) : Option Gathering :=
  (r.pool? isCancelled).map fun p => ⟨r, r.enabled, p⟩

/-- A request to change the registry that fails leaves it as it is. -/
def change (g : Gathering) : Except CollectError Registry → Gathering
  | .ok r => { g with registry := r }
  | .error _ => g

def moveIn? (g : Gathering) (m : Pool.Move) : Option Gathering := (g.pool.move? m).map fun p => { g with pool := p }

def move? (g : Gathering) : Move → Option Gathering
  | .turn name t => (g.chosen.get? name).bind fun k => g.moveIn? (t.move name k)
  | .cancel => g.moveIn? .cancel
  | .add name k => some (g.change (g.registry.add name k))
  | .remove name => some (g.change (g.registry.remove name))
  | .setEnabled name isEnabled => some (g.change (g.registry.setEnabled name isEnabled))

def moves? (g : Gathering) (ms : List Move) : Option Gathering := ms.foldlM move? g

variable {r : Registry} {g g' : Gathering} {m : Move} {ms : List Move} {c : Bool}

inductive Step (g : Gathering) : Move → Gathering → Prop where
  | turn {name : String} {t : Turn} {k : Collector} {p : Pool} (collector : g.chosen.get? name = some k)
      (pool : g.pool.move? (t.move name k) = some p) : Step g (.turn name t) { g with pool := p }
  | cancel {p : Pool} (pool : g.pool.move? .cancel = some p) : Step g .cancel { g with pool := p }
  | change {m : Move} (r : Registry) (isChange : m.isTurn = false) : Step g m { g with registry := r }

theorem change_eq (g : Gathering) (x : Except CollectError Registry) : ∃ r, g.change x = { g with registry := r } := by
  cases x with
  | ok r => exact ⟨r, rfl⟩
  | error => exact ⟨g.registry, rfl⟩

theorem moveIn?_eq_some {m : Pool.Move} (hm : g.moveIn? m = some g') :
    ∃ p, g.pool.move? m = some p ∧ g' = { g with pool := p } := by
  obtain ⟨p, hp, rfl⟩ := Option.map_eq_some_iff.mp hm
  exact ⟨p, hp, rfl⟩

theorem step_of_move? (hm : g.move? m = some g') : Step g m g' := by
  cases m with
  | turn name t =>
    obtain ⟨k, hk, hm⟩ := Option.bind_eq_some_iff.mp hm
    obtain ⟨p, hp, rfl⟩ := moveIn?_eq_some hm
    exact .turn hk hp
  | cancel =>
    obtain ⟨p, hp, rfl⟩ := moveIn?_eq_some hm
    exact .cancel hp
  | add | remove | setEnabled =>
    obtain ⟨r, hr⟩ := g.change_eq _
    cases hm
    rw [hr]
    exact .change r rfl

/-- That a collection under way has come from the given registry, by moves of its pool in which each collector ends as it
always does. -/
structure Stems (r : Registry) (c : Bool) (ms : List Move) (g : Gathering) (pms : List Pool.Move) : Prop where
  chosen : g.chosen = r.enabled
  run : (Pool.fresh r.workers c r.enabled).moves? pms = some g.pool
  turns : pms.countP Pool.Move.isTurn = ms.countP Move.isTurn
  cancel : .cancel ∈ pms → .cancel ∈ ms
  finish : ∀ name res, .finish name res ∈ pms → ∃ k, r.enabled.get? name = some k ∧ k.result = res

theorem Turn.eq_of_move_eq_finish {name name' : String} {k : Collector} {t : Turn} {res : Collected}
    (h : t.move name k = .finish name' res) : name = name' ∧ k.result = res := by
  cases t <;> cases h
  exact ⟨rfl, rfl⟩

theorem Stems.step {pms : List Pool.Move} (hg : Stems r c ms g pms) (hs : Step g m g') :
    ∃ pms', Stems r c (ms ++ [m]) g' pms' := by
  cases hs with
  | @turn name t k p hk hp =>
    refine ⟨pms ++ [t.move name k], hg.chosen, run_append.mpr ⟨g.pool, hg.run, ?_⟩, ?_, fun h => ?_, fun name' res h => ?_⟩
    · rw [List.foldlM_cons, hp]
      rfl
    · rw [List.countP_append, List.countP_append, hg.turns]
      cases t <;> rfl
    · rcases List.mem_append.mp h with h | h
      · exact List.mem_append_left _ (hg.cancel h)
      · cases t <;> cases List.mem_singleton.mp h
    · rcases List.mem_append.mp h with h | h
      · exact hg.finish name' res h
      · obtain ⟨rfl, hres⟩ := Turn.eq_of_move_eq_finish (List.mem_singleton.mp h).symm
        exact ⟨k, hg.chosen ▸ hk, hres⟩
  | @cancel p hp =>
    refine ⟨pms ++ [.cancel], hg.chosen, run_append.mpr ⟨g.pool, hg.run, ?_⟩, ?_, fun _ => ?_, fun name' res h => ?_⟩
    · rw [List.foldlM_cons, hp]
      rfl
    · rw [List.countP_append, List.countP_append, hg.turns]
      rfl
    · exact List.mem_append_right _ (List.mem_singleton_self _)
    · rcases List.mem_append.mp h with h | h
      · exact hg.finish name' res h
      · cases List.mem_singleton.mp h
  | change r' hm =>
    refine ⟨pms, hg.chosen, hg.run, ?_, fun h => List.mem_append_left _ (hg.cancel h), hg.finish⟩
    rw [List.countP_append, List.countP_singleton, hm]
    exact hg.turns

theorem Stems.of_run (h : (⟨r, r.enabled, .fresh r.workers c r.enabled⟩ : Gathering).moves? ms = some g) :
    ∃ pms, Stems r c ms g pms :=
  holds_of_run (Q := fun ms g => ∃ pms, Stems r c ms g pms) ⟨[], rfl, rfl, rfl, nofun, nofun⟩
    (fun _ _ _ _ ⟨_, hg⟩ hm => hg.step (step_of_move? hm)) ms h

theorem Stems.goesOn {pms : List Pool.Move} (hg : Stems r c ms g pms) (hdone : g.pool.isDone = false) :
    ∃ name t, (g.move? (.turn name t)).isSome := by
  have hb := Pool.Books.of_run hg.run
  obtain ⟨name, hname⟩ := hb.goesOn r.workers_pos hdone
  obtain ⟨k, hk⟩ : ∃ k, g.chosen.get? name = some k := by
    rw [hg.chosen, ← Option.isSome_iff_exists, ← Dict.mem_keys_iff, hb.mem_chosen_iff]
    exact hname.isSome_get?
  have hmove (t : Turn) (ht : (g.pool.move? (t.move name k)).isSome) : (g.move? (.turn name t)).isSome := by
    rw [move?, hk, Option.bind_some, moveIn?, Option.isSome_map]
    exact ht
  rcases hname with hname | hname | hname | hname
  · exact ⟨name, .finish, hmove .finish (Pool.isSome_move?_of_change hname (.finish _) nofun)⟩
  · exact ⟨name, .enter, hmove .enter hname⟩
  · exact ⟨name, .start, hmove .start hname⟩
  · exact ⟨name, .giveUp, hmove .giveUp hname⟩

end Gathering

namespace Registry

/-- A collection that is not cancelled comes to an end, and its outcome is that of asking one collector after the other,
whatever the order of the moves and whatever becomes of the registry. -/
theorem inTurn_of_run (r : Registry) (hw : r.workers ≤ Pool.mostWorkers) :
    (∃ g₀, Gathering.begin? r false = some g₀ ∧ ∀ ms g, g₀.moves? ms = some g → .cancel ∉ ms →
      ms.countP Gathering.Move.isTurn ≤ 3 * r.enabled.keys.length ∧
      (g.pool.isDone = false → ∃ name t, (g.move? (.turn name t)).isSome) ∧
      (g.pool.isDone → g.pool.outcome = r.collectInTurn)) ∧
    ((∀ name k, r.enabled.get? name = some k → k.cancels = false) → r.collectAll none = some r.collectInTurn) ∧
    r.Tells r.collectInTurn := by
  refine ⟨⟨⟨r, r.enabled, .fresh r.workers false r.enabled⟩, ?_, fun ms g h hms => ?_⟩, fun hcancels => ?_, r.tells_collectInTurn⟩
  · rw [Gathering.begin?, r.pool?_of_le hw]
    rfl
  · obtain ⟨pms, hg⟩ := Gathering.Stems.of_run h
    have hb := Pool.Books.of_run hg.run
    refine ⟨?_, hg.goesOn, fun hdone => hb.outcome_eq hdone ?_ hg.finish⟩
    · have hle := hb.turnsLeft_le
      rw [hg.turns] at hle
      omega
    · refine Bool.eq_false_iff.mpr fun hc => ?_
      exact hms (hg.cancel ((hb.isCancelled hc).resolve_left Bool.false_ne_true))
  · obtain ⟨p, hrun, hdone⟩ := Schedule.isDone_of_moves r.workers_pos none r.enabled
    obtain ⟨hfinish, hcancel⟩ := Schedule.faithful_moves r.workers_pos none r.enabled
    have hb := Pool.Books.of_run hrun
    rw [collectAll, r.pool?_of_le hw]
    refine (congrArg (Option.map Pool.outcome) hrun).trans (congrArg some (hb.outcome_eq hdone ?_ hfinish))
    refine Bool.eq_false_iff.mpr fun hc => ?_
    rcases hcancel ((hb.isCancelled hc).resolve_left Bool.false_ne_true) with h | ⟨name, k, hk, hkc⟩
    · cases h
    · rw [hcancels name k hk] at hkc
      cases hkc

/-- Two of three collectors are switched on first and overlap, one crashes and one fails. The registry loses one of them
and switches on another meanwhile. -/
theorem inTurn_of_overlapping :
    let r : Registry := ⟨2, .ofList [("a", ⟨true, 3, false, .metrics []⟩), ("b", ⟨true, 1, false, .crashed "boom"⟩),
      ("c", ⟨false, 0, false, .metrics []⟩), ("d", ⟨true, 2, false, .failed "down"⟩)], Nat.two_pos⟩
    let ms : List Gathering.Move := [.turn "d" .enter, .turn "d" .start, .turn "b" .enter, .remove "a",
      .setEnabled "c" true, .turn "d" .finish, .turn "a" .enter, .turn "a" .start, .turn "b" .start, .turn "b" .finish,
      .turn "a" .finish]
    r.workers ≤ Pool.mostWorkers ∧ .cancel ∉ ms ∧
    ∃ g₀ g, Gathering.begin? r false = some g₀ ∧ g₀.moves? ms = some g ∧ g.registry.names = ["b", "c", "d"] ∧
      g.pool.outcome = r.collectInTurn ∧ r.collectInTurn.metrics.keys = ["a"] ∧ r.collectInTurn.error? =
        some (.failed "b" "collector task failed: task N panicked with message \"boom\"") := by
  intro r ms
  have hw : r.workers ≤ Pool.mostWorkers := by decide +kernel
  have hms : .cancel ∉ ms := by simp [ms]
  obtain ⟨⟨g₀, hg₀, hruns⟩, -⟩ := inTurn_of_run r hw
  have hrun : ((Gathering.begin? r false).bind (·.moves? ms)).isSome := by decide +kernel
  obtain ⟨g, hg⟩ := Option.isSome_iff_exists.mp hrun
  have hend : ((Gathering.begin? r false).bind (·.moves? ms)).all fun g =>
      g.pool.isDone ∧ g.registry.names = ["b", "c", "d"] := by decide +kernel
  rw [hg, Option.all_some, decide_eq_true_eq] at hend
  rw [hg₀, Option.bind_some] at hg
  exact ⟨hw, hms, g₀, g, hg₀, hg, hend.2, (hruns ms g hg hms).2.2 hend.1, by decide +kernel, by decide +kernel⟩

/-- With more workers than there can be a collection crashes, where asking the one collector works. -/
theorem collectAll_ne_inTurn :
    let r : Registry := ⟨2 ^ 61, .ofList [("a", ⟨true, 0, false, .metrics []⟩)], Nat.two_pow_pos 61⟩
    r.collectAll none = none ∧ r.collectAll none ≠ some r.collectInTurn ∧ r.collectInTurn.metrics.keys = ["a"] ∧
      r.collectInTurn.error? = none := by
  intro r
  have hnone : r.collectAll none = none := by
    rw [collectAll, pool?, if_neg (by decide +kernel)]
    rfl
  refine ⟨hnone, ?_, by decide +kernel, by decide +kernel⟩
  rw [hnone]
  exact (Option.some_ne_none _).symm

end Registry

end EndpointWatch
