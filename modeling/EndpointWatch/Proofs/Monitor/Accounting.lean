import EndpointWatch.Proofs.Monitor.Dispatch

/-!
# The accounts of a cycle

A cycle that ended with a report has accounted for every endpoint it began with (`accounts_of_ended`): each of its
checks handed in one result, each result was saved or could not be, and exactly the saved ones were broadcast and
handed on, each by a delivery of its own (`Dispatched`). What it reports depends on the results and on which of them can
be saved, not on their order.
-/

namespace EndpointWatch.Monitor

namespace Ledger

/-- The accounts of a cycle that ended with report `r`. -/
structure Accounts (hasEvaluator : Bool) (r : CycleReport) (l : Ledger) : Prop where
  /-- The cycle began once, and each of its endpoints had one check that handed in a result. -/
  endpoints : ∃ es, l.began = [es] ∧ r.checked = es.length ∧ (l.handedIn.map Prod.fst).Perm es
  ids : ∀ p ∈ l.handedIn, p.2.endpointId = p.1.id
  /-- One attempt to save was made for each result. -/
  tried : l.tried.map Prod.fst = l.handedIn.map Prod.snd
  persisted : r.persisted = l.saved.length
  failed : r.failed = l.unsaved.length
  total : r.persisted + r.failed = r.checked
  broadcast : l.broadcast = l.saved
  stream : l.handedTo .stream = l.saved
  evaluator : l.handedTo .evaluator = if hasEvaluator then l.saved else []

/-- Whether a result could be saved depended on the result alone. -/
def SavedBy (savable : CheckResult → Bool) (l : Ledger) : Prop := ∀ p ∈ l.tried, p.2 = savable p.1

deriving instance DecidableEq for Except

instance (savable : CheckResult → Bool) (l : Ledger) : Decidable (l.SavedBy savable) :=
  inferInstanceAs (Decidable (∀ p ∈ l.tried, p.2 = savable p.1))

variable {l l' : Ledger} {r r' : CycleReport}

theorem Settles.accounts {b : Bool} (h : l.Settles r) (hf : Fair b l) : l.Accounts b r := by
  obtain ⟨es, hb, hc, he⟩ := h.endpoints
  refine ⟨⟨es, hb, hc, he⟩, hf.ids, h.results, h.persisted, h.failed, ?_, hf.broadcast, hf.stream, hf.evaluator⟩
  have htried := congrArg List.length h.results
  have hperm := he.length_eq
  simp only [List.length_map] at htried hperm
  rw [h.persisted, h.failed, length_saved_add_length_unsaved, htried, hperm, hc]

theorem SavedBy.saved_eq {savable : CheckResult → Bool} (h : l.SavedBy savable) :
    l.saved = (l.tried.map Prod.fst).filter savable := by
  rw [saved, List.filter_map]
  exact congrArg _ (List.filter_congr h)

theorem SavedBy.unsaved_eq {savable : CheckResult → Bool} (h : l.SavedBy savable) :
    l.unsaved = (l.tried.map Prod.fst).filter (!savable ·) := by
  rw [unsaved, List.filter_map]
  exact congrArg _ (List.filter_congr fun p hp => congrArg _ (h p hp))

/-- Cycles with the same results, of which the same ones can be saved, come to the same accounts. -/
theorem Accounts.congr {b : Bool} (h : l.Accounts b r) (h' : l'.Accounts b r') {savable : CheckResult → Bool}
    (hs : l.SavedBy savable) (hs' : l'.SavedBy savable)
    (hp : (l.handedIn.map Prod.snd).Perm (l'.handedIn.map Prod.snd)) :
    r = r' ∧ l.saved.Perm l'.saved ∧ l.unsaved.Perm l'.unsaved ∧ l.broadcast.Perm l'.broadcast ∧
      ∀ c, (l.handedTo c).Perm (l'.handedTo c) := by
  rw [← h.tried, ← h'.tried] at hp
  have hsaved : l.saved.Perm l'.saved := by
    rw [hs.saved_eq, hs'.saved_eq]
    exact hp.filter _
  have hunsaved : l.unsaved.Perm l'.unsaved := by
    rw [hs.unsaved_eq, hs'.unsaved_eq]
    exact hp.filter _
  have hpersisted : r.persisted = r'.persisted := by rw [h.persisted, h'.persisted, hsaved.length_eq]
  have hfailed : r.failed = r'.failed := by rw [h.failed, h'.failed, hunsaved.length_eq]
  have hchecked : r.checked = r'.checked := by rw [← h.total, ← h'.total, hpersisted, hfailed]
  refine ⟨?_, hsaved, hunsaved, by rwa [h.broadcast, h'.broadcast], fun c => ?_⟩
  · cases r; cases r'
    cases hpersisted; cases hfailed; cases hchecked
    rfl
  · cases c with
    | stream => rwa [h.stream, h'.stream]
    | evaluator =>
      rw [h.evaluator, h'.evaluator]
      split
      · exact hsaved
      · exact .refl _

end Ledger

/-- Whenever a cycle has ended with a report its accounts are in order, however its checks and other cycles went on
beside it, and each result that was handed on had a delivery of its own; and any other cycle with the same results, of
which the same ones can be saved, ends with the same report and has saved, broadcast and handed on the same results. -/
theorem accounts_of_ended {handOver : HandOver} {epoch : Instant} {checker : Checker} {ms : List Move} {m : Monitor}
    {n : Nat} {r : CycleReport} (hm : (Monitor.start handOver epoch checker).moves? ms = some m)
    (hn : .ended n (.ok r) ∈ m.log) :
    (ledger n m.log).Accounts handOver.hasEvaluator r ∧ Dispatched (.start handOver epoch checker) ms m ∧
    ∀ {epoch' : Instant} {checker' : Checker} {ms' : List Move} {m' : Monitor} {n' : Nat} {r' : CycleReport}
      {savable : CheckResult → Bool},
      (Monitor.start handOver epoch' checker').moves? ms' = some m' → .ended n' (.ok r') ∈ m'.log →
      (ledger n m.log).SavedBy savable → (ledger n' m'.log).SavedBy savable →
      ((ledger n m.log).handedIn.map Prod.snd).Perm ((ledger n' m'.log).handedIn.map Prod.snd) →
      r = r' ∧ (ledger n m.log).saved.Perm (ledger n' m'.log).saved ∧
        (ledger n m.log).unsaved.Perm (ledger n' m'.log).unsaved ∧
        (ledger n m.log).broadcast.Perm (ledger n' m'.log).broadcast ∧
        ∀ c, ((ledger n m.log).handedTo c).Perm ((ledger n' m'.log).handedTo c) := by
  have haccounts {epoch checker ms m n r} (hm : (Monitor.start handOver epoch checker).moves? ms = some m)
      (hn : .ended n (.ok r) ∈ m.log) : (ledger n m.log).Accounts handOver.hasEvaluator r := by
    have hb := Books.of_run hm
    exact (hb.settled n r (Ledger.mem_ended.mpr hn)).accounts (hb.fair n)
  refine ⟨haccounts hm hn, .of_run hm, fun hm' hn' hs hs' hp => ?_⟩
  exact (haccounts hm hn).congr (haccounts hm' hn') hs hs' hp

/-- Two cycles over the same three endpoints, one of them listed twice, run side by side. Their checks hand in and
their results are saved in different orders, and those of endpoint 2 cannot be saved. The third result that is saved
goes to the evaluator by the delivery 5. -/
theorem accounts_of_overlapping :
    let e (id : Int64) : Endpoint := ⟨id, 1, "", 60, 1000, none, true⟩
    let fetched : Move := .beginCycle false (.ok [e 1, e 1, e 2])
    let moves : List Move := [fetched, .arrive 0, fetched, .arrive 5, .handIn 5, .arrive 1, .arrive 2, .handIn 2,
      .take 0, .take 1, .saved 1 false, .arrive 3, .handIn 0, .saved 0 false, .handIn 1, .arrive 4, .handIn 3,
      .handIn 4, .take 0, .saved 0 true, .take 0, .take 1, .saved 0 true, .saved 1 true, .complete 0, .take 1,
      .saved 1 true, .complete 1]
    let m₀ := Monitor.start ⟨.standard, 5000, true⟩ .epoch (.fresh .standard ⟨"w", 5, 10⟩)
    ∃ m, m₀.moves? moves = some m ∧
      (ledger 0 m.log).Accounts true ⟨3, 2, 1⟩ ∧ (ledger 1 m.log).Accounts true ⟨3, 2, 1⟩ ∧
      (ledger 0 m.log).broadcast.Perm (ledger 1 m.log).broadcast ∧ ∃ n r, m₀.HasStart moves n 5 .evaluator r := by
  intro e fetched moves m₀
  have h : (m₀.moves? moves).any fun m =>
      let l := ledger 0 m.log
      let l' := ledger 1 m.log
      .ok ⟨3, 2, 1⟩ ∈ l.ended ∧ .ok ⟨3, 2, 1⟩ ∈ l'.ended ∧ l.SavedBy (·.endpointId = 1) ∧
        l'.SavedBy (·.endpointId = 1) ∧ (l.handedIn.map Prod.snd).Perm (l'.handedIn.map Prod.snd) ∧
        (m.deliveries.get? 5).map Delivery.channel = some .evaluator := by
    decide +kernel
  obtain ⟨m, hm, h⟩ := (Option.any_eq_true ..).mp h
  obtain ⟨hn, hn', hs, hs', hp, hx⟩ := of_decide_eq_true h
  rw [Ledger.mem_ended] at hn hn'
  obtain ⟨ha, hd, hall⟩ := accounts_of_ended hm hn
  obtain ⟨-, -, -, hb, -⟩ := hall hm hn' hs hs' hp
  obtain ⟨x, hx, hc⟩ := Option.map_eq_some_iff.mp hx
  obtain ⟨k, hk⟩ := hd.handed 5 x hx
  exact ⟨m, hm, ha, (accounts_of_ended hm hn').1, hb, k, x.result, hd.begun k 5 .evaluator x.result (hc ▸ hk)⟩

end EndpointWatch.Monitor
