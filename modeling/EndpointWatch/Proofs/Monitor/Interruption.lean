import EndpointWatch.Proofs.Monitor.Accounting
import EndpointWatch.Proofs.Monitor.Trail

/-!
# Cycles that are interrupted

A cycle may be stopped at any moment: before or during its fetch, between two results, or while it saves one. However that
and other cycles go on beside it, nothing leaves the monitor before it was saved, a cycle that failed before it had its
endpoints leaves no trace, one that has ended does nothing more, and one that ended with a report has handled the results
of all its endpoints (`safe_of_run`).
-/

namespace EndpointWatch.Monitor

variable {b : Bool} {m m' : Monitor} {n : Nat} {r : Except CycleError CycleReport} {log told : List Happening}

/-! ### Cycles that have ended -/

theorem ledger_append_of_ne (h : ∀ a ∈ told, a.cycle? ≠ some n) : ledger n (told ++ log) = ledger n log := by
  induction told with
  | nil => rfl
  | cons a told ih =>
    obtain ⟨ha, htold⟩ := List.forall_mem_cons.mp h
    rw [List.cons_append, ledger_cons, Ledger.note_of_ne _ ha, ih htold]

/-- A move tells nothing of a cycle that began before and is not under way. -/
theorem Change.ledger_eq (h : Change m m') (hlt : n < m.nextCycle) (hnone : m.cycles.get? n = none) :
    ledger n m'.log = ledger n m.log := by
  cases h with
  | within told internal cycles log deliveries next =>
    rw [log]
    exact ledger_append_of_ne fun a ha hn => cycles a ha n hn hlt hnone
  | save k r cycle log deliveries next =>
    obtain ⟨-, -, -, -, hothers, -⟩ := Books.afterSave_frame m k r true
    rw [log]
    refine hothers n fun hk => cycle ?_
    rw [← hk, hnone]
  | goOn d x x' underWay channel result log deliveries next =>
    rcases log with log | log <;> rw [log]
    rfl
  | finish d x underWay log deliveries next =>
    rcases log with log | log <;> rw [log]
    rfl

theorem Books.closed (hb : Books b m) (hn : .ended n r ∈ m.log) : n < m.nextCycle ∧ m.cycles.get? n = none := by
  have hmem : r ∈ (ledger n m.log).ended := Ledger.mem_ended.mpr hn
  constructor
  · refine Nat.lt_of_not_le fun hle => ?_
    rw [hb.untouched n hle] at hmem
    exact List.not_mem_nil hmem
  · cases hc : m.cycles.get? n with
    | none => rfl
    | some c =>
      rw [(hb.running n c hc).ended] at hmem
      exact absurd hmem List.not_mem_nil

/-- What is told of a cycle that has ended stays the same in every run. -/
theorem Books.ledger_of_ended (hb : Books b m) (hn : .ended n r ∈ m.log) {ms : List Move} (h : m.moves? ms = some m') :
    ledger n m'.log = ledger n m.log := by
  -- as long as the ledger is the same it shows that the cycle has ended, so that no move is one of this cycle
  let P (s : Monitor) : Prop := Books b s ∧ ledger n s.log = ledger n m.log
  have hstep (s : Monitor) (v : Move) (s' : Monitor) (hs : P s) (hv : s.move? v = some s') : P s' := by
    obtain ⟨hbs, hl⟩ := hs
    have hns : .ended n r ∈ s.log := by
      rw [← Ledger.mem_ended, hl, Ledger.mem_ended]
      exact hn
    obtain ⟨hlt, hnone⟩ := hbs.closed hns
    exact ⟨hbs.move hv, ((change_of_move? hv).ledger_eq hlt hnone).trans hl⟩
  exact (keeps_of_run hstep ms ⟨hb, rfl⟩ h).2

/-! ### Cycles that fail before they have their endpoints -/

/-- How a cycle fails with which a move begins, if it has not got its endpoints. -/
def Move.fails? : Move → Option CycleError
  | .beginCycle true _ => some .cancelled
  | .beginCycle false (.error e) => some (.fetch e)
  | .abandonFetch e => some e
  | _ => none

theorem move?_of_fails? (m : Monitor) {v : Move} {e : CycleError} (hv : v.fails? = some e) :
    m.move? v = some (m.abandonFetch e) := by
  cases v with
  | beginCycle isCancelled fetched =>
    cases isCancelled with
    | true => cases hv; rfl
    | false =>
      cases fetched with
      | error => cases hv; rfl
      | ok => cases hv
  | abandonFetch => cases hv; rfl
  | _ => cases hv

theorem Books.ledger_abandonFetch (hb : Books b m) (e : CycleError) :
    ledger m.nextCycle (m.abandonFetch e).log = { Ledger.empty with ended := [.error e] } := by
  show (ledger m.nextCycle m.log).note m.nextCycle (.ended m.nextCycle (.error e)) = _
  rw [hb.untouched m.nextCycle (Nat.le_refl _), Ledger.note, if_pos rfl]
  rfl

theorem Books.cycles_abandonFetch (hb : Books b m) (e : CycleError) : (m.abandonFetch e).cycles = m.cycles := by
  refine Dict.erase_of_get?_eq_none ?_
  cases hc : m.cycles.get? m.nextCycle with
  | none => rfl
  | some c => exact absurd (hb.cycle_lt _ c hc) (Nat.lt_irrefl _)

/-! ### Runs -/

/-- That cycles are safe to interrupt, after a run in which any of them may have been. -/
structure Safe (m : Monitor) : Prop where
  /-- What was broadcast, handed on and delivered was due, and so was saved before. -/
  orderly : Orderly m.log
  /-- A cycle that fails before it has its endpoints drops no breaker, and nothing is told of it but how it ended. -/
  unfetched : ∀ v e, v.fails? = some e → ∃ m₁, m.move? v = some m₁ ∧ m₁.session = m.session ∧
    m₁.cycles = m.cycles ∧ m₁.deliveries = m.deliveries ∧
    ∀ ms m', m₁.moves? ms = some m' → ledger m.nextCycle m'.log = { Ledger.empty with ended := [.error e] }
  /-- Nothing more is told of a cycle that has ended, while its checks go on. -/
  closed : ∀ n r, .ended n r ∈ m.log → ∀ ms m', m.moves? ms = some m' → ledger n m'.log = ledger n m.log
  /-- A cycle that ended with a report has tried to save the result of each of its endpoints. -/
  drained : ∀ n r, .ended n (.ok r) ∈ m.log → ∃ es, (ledger n m.log).began = [es] ∧
    ((ledger n m.log).handedIn.map Prod.fst).Perm es ∧
    (ledger n m.log).tried.map Prod.fst = (ledger n m.log).handedIn.map Prod.snd

theorem safe_of_run {handOver : HandOver} {epoch : Instant} {checker : Checker} {ms : List Move}
    (hm : (Monitor.start handOver epoch checker).moves? ms = some m) : Safe m := by
  have hb : Books handOver.hasEvaluator m := Books.of_run hm
  have ht : m.HasTrail := .of_run hm
  refine ⟨ht.orderly, fun v e hv => ?_, fun n r hn ms m' h => hb.ledger_of_ended hn h, fun n r hn => ?_⟩
  · have hended : .ended m.nextCycle (.error e) ∈ (m.abandonFetch e).log := List.mem_cons_self ..
    refine ⟨_, move?_of_fails? m hv, rfl, hb.cycles_abandonFetch e, rfl, fun ms m' h => ?_⟩
    rw [(hb.abandonFetch e).ledger_of_ended hended h]
    exact hb.ledger_abandonFetch e
  · obtain ⟨⟨es, hbegan, -, hperm⟩, hresults, -, -⟩ := hb.settled n r (Ledger.mem_ended.mpr hn)
    exact ⟨es, hbegan, hperm, hresults⟩

/-- Cycle 0 runs into its deadline while it saves a result, and another of its checks hands in afterwards. Cycle 1 runs
beside it to its end, and the fetch of cycle 2 fails. -/
theorem safe_of_deadline :
    let e (id : Int64) : Endpoint := ⟨id, 1, "", 60, 1000, none, true⟩
    let moves : List Move := [.beginCycle false (.ok [e 1, e 2, e 3]), .beginCycle false (.ok [e 1]), .arrive 0,
      .arrive 1, .arrive 3, .handIn 1, .take 0, .saved 0 true, .handIn 0, .take 0, .handIn 3, .take 1,
      .stop 0 (.deadline 500), .arrive 2, .handIn 2, .call 0, .saved 1 true, .called 0 true, .complete 1,
      .beginCycle false (.error (.query "locked"))]
    ∃ m, (Monitor.start ⟨.standard, 5000, true⟩ .epoch (.fresh .standard ⟨"w", 5, 10⟩)).moves? moves = some m ∧ Safe m ∧
      (ledger 0 m.log).ended = [.error (.deadline 500)] ∧ (ledger 0 m.log).broadcast.map (·.endpointId) = [2] ∧
      (ledger 1 m.log).ended = [.ok ⟨1, 1, 0⟩] := by
  intro e moves
  let run := (Monitor.start ⟨.standard, 5000, true⟩ .epoch (.fresh .standard ⟨"w", 5, 10⟩)).moves? moves
  have h : run.any fun m => (ledger 0 m.log).ended = [.error (.deadline 500)] ∧
      (ledger 0 m.log).broadcast.map (·.endpointId) = [2] ∧ (ledger 1 m.log).ended = [.ok ⟨1, 1, 0⟩] := by
    decide +kernel
  obtain ⟨m, hm, h⟩ := (Option.any_eq_true ..).mp h
  exact ⟨m, hm, safe_of_run hm, of_decide_eq_true h⟩

end EndpointWatch.Monitor
