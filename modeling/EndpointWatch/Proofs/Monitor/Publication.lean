import EndpointWatch.Proofs.Monitor.Dispatch
import EndpointWatch.Proofs.Monitor.Feed
import Mathlib.Data.List.Perm.Subperm

/-!
# Results are published once

Every saved result has one delivery over each channel (`HandsOn.of_run`), and a delivery for the stream adds at most one
entry. With the bounds on its calls this says what comes of a saved result outside the monitor, whatever the stream and
the evaluator do and however cycles, deliveries and the shutdown interleave (`published_once_of_run`).
-/

namespace EndpointWatch

/-- The delivery that begins with it and the result that it is for, if that is over the given channel. -/
def Happening.task? (c : Channel) : Happening → Option (Nat × CheckResult)
  | .handedOn _ d c' r => if c' = c then some (d, r) else none
  | _ => none

theorem Happening.task?_of_isInternal {h : Happening} (hi : h.isInternal) (c : Channel) : h.task? c = none := by
  cases h with
  | broadcast | handedOn | called | delivered => cases hi
  | began | handedIn | saved | unsaved | ended => rfl

namespace Monitor

variable {m m' : Monitor} {v : Move} {ms : List Move} {d : Nat} {x : Delivery}

/-- The deliveries that a log tells to have begun over a channel, newest first. -/
def tasks (c : Channel) (log : List Happening) : List (Nat × CheckResult) := log.filterMap (Happening.task? c)

theorem mem_tasks {c : Channel} {r : CheckResult} {log : List Happening} :
    (d, r) ∈ tasks c log ↔ ∃ n, .handedOn n d c r ∈ log := by
  rw [tasks, List.mem_filterMap]
  constructor
  · rintro ⟨h, hmem, ht⟩
    cases h with
    | handedOn n d' c' r' =>
      simp only [Happening.task?, Option.ite_none_right_eq_some, Option.some.injEq, Prod.mk.injEq] at ht
      obtain ⟨rfl, rfl, rfl⟩ := ht
      exact ⟨n, hmem⟩
    | _ => cases ht
  · rintro ⟨n, hmem⟩
    exact ⟨_, hmem, if_pos rfl⟩

/-- Every saved result is handed on, by one delivery over each channel. -/
def HandsOn (hasEvaluator : Bool) (m : Monitor) : Prop :=
  ∀ c, (tasks c m.log).map Prod.snd =
    if c = .stream ∨ hasEvaluator then m.log.filterMap Happening.saved? else []

theorem HandsOn.change {b : Bool} (h : HandsOn b m) (hb : m.handOver.hasEvaluator = b) (hc : CycleChange m m') :
    HandsOn b m' := by
  cases hc with
  | within told internal unsaved cycles log deliveries next =>
    intro c
    have htold : told.filterMap (Happening.task? c) = [] :=
      List.filterMap_eq_nil_iff.mpr fun h hmem => Happening.task?_of_isInternal (internal h hmem) c
    rw [log, tasks, List.filterMap_append, List.filterMap_append, htold, unsaved]
    exact h c
  | save n r cycle log deliveries next =>
    rw [HandsOn, log, afterSave_true, hb]
    intro c
    cases c with
    | stream => cases b <;> exact congrArg (r :: ·) (h .stream)
    | evaluator =>
      cases b with
      | false => exact h .evaluator
      | true => exact congrArg (r :: ·) (h .evaluator)

theorem HandsOn.move {b : Bool} (h : HandsOn b m) (hb : m.handOver.hasEvaluator = b) (hm : m.move? v = some m') :
    HandsOn b m' := by
  cases handling_of_move? hm with
  | cycle other change => exact h.change hb change
  | call d x underWay waiting inTime goesOn rest log => rw [HandsOn, log]; exact h
  | retry d x due underWay calling more rest log => rw [HandsOn, log]; exact h
  | finish d x ends underWay rest log => rcases log with log | log <;> (rw [HandsOn, log]; exact h)

theorem HandsOn.of_run {handOver : HandOver} {epoch : Instant} {checker : Checker}
    (hm : (Monitor.start handOver epoch checker).moves? ms = some m) : HandsOn handOver.hasEvaluator m := by
  let P (s : Monitor) : Prop := s.handOver.hasEvaluator = handOver.hasEvaluator ∧ HandsOn handOver.hasEvaluator s
  have hstep (s : Monitor) (v : Move) (s' : Monitor) (hs : P s) (hv : s.move? v = some s') : P s' := by
    obtain ⟨hb, hs⟩ := hs
    have hover : s'.handOver = s.handOver := (frame_of_move? hv).1
    exact ⟨by rw [hover, hb], hs.move hb hv⟩
  have hstart : P (.start handOver epoch checker) := ⟨rfl, fun c => by simp [tasks, Monitor.start]⟩
  exact (keeps_of_run hstep ms hstart hm).2

end Monitor

namespace Feed

variable {f f' : Feed} {vs : List Move} {d : Nat}

/-- That a delivery never calls again. -/
def IsDone (d : Nat) (f : Feed) : Prop := ∀ vs f', f.moves? vs = some f' → .monitor (.call d) ∉ vs

/-- It is enough that the monitor lets the delivery call no more. -/
theorem isDone_of_monitor (h : ∀ ms m', f.monitor.moves? ms = some m' → Monitor.Move.call d ∉ ms) : f.IsDone d := by
  intro vs f' hf hmem
  exact h _ _ (monitor_of_run hf) (List.mem_filterMap.mpr ⟨_, hmem, rfl⟩)

/-- What is published of the saved results, and how. -/
structure PublishesOnce (handOver : HandOver) (f : Feed) : Prop where
  /-- The stream has at most one entry for each saved result, with the fields of the result. -/
  stream : (f.added.map Entry.written).Subperm
    ((f.monitor.log.filterMap Happening.saved?).map fun r => (Deployment.resultStream, r.streamFields))
  /-- No two entries come from the same delivery, and each is for the result that was handed on to its delivery. -/
  once : (f.added.map Entry.delivery).Nodup ∧
    ∀ e ∈ f.added, (e.delivery, e.result) ∈ Monitor.tasks .stream f.monitor.log
  /-- Each saved result has a delivery of its own for the stream, and one for the evaluator if there is one. -/
  handsOn : Monitor.HandsOn handOver.hasEvaluator f.monitor
  distinct : (f.monitor.log.filterMap Happening.handed?).Nodup
  /-- No delivery calls more often than it may, nor after a call that succeeded, after the shutdown, or when more than its
  limit has passed since it was handed its result. -/
  attempts : ∀ d, Monitor.calls d f.monitor.log ≤ handOver.policy.normalized.maxAttempts.toNat
  succeeded : ∀ d f₁, f.move? (.monitor (.called d true)) = some f₁ → f₁.IsDone d
  shutDown : ∀ f₁, f.move? (.monitor .shutDown) = some f₁ → ∀ d, f₁.IsDone d
  late : ∀ d ∈ f.monitor.log.filterMap Happening.handed?, ∀ vs f₁, f.moves? vs = some f₁ →
    f.monitor.now + handOver.limit < f₁.monitor.now → f₁.IsDone d

theorem Linked.subperm {m : Monitor} {b : Bool} {es : List Entry} (h : Linked m es) (hm : m.HandsOn b) :
    (es.map Entry.written).Subperm
      ((m.log.filterMap Happening.saved?).map fun r => (Deployment.resultStream, r.streamFields)) := by
  -- as pairs of delivery and result the entries are different, and each is a task
  let pairs := es.map fun e => (e.delivery, e.result)
  have hnodup : pairs.Nodup := by
    refine List.Nodup.of_map Prod.fst ?_
    rw [List.map_map]
    exact h.once
  have hsubset : pairs ⊆ Monitor.tasks .stream m.log := by
    intro p hp
    obtain ⟨e, he, rfl⟩ := List.mem_map.mp hp
    exact Monitor.mem_tasks.mpr (h.handed e he)
  obtain ⟨ps, hperm, hsublist⟩ := hnodup.subperm hsubset
  have hsaved : m.log.filterMap Happening.saved? = (Monitor.tasks .stream m.log).map Prod.snd :=
    ((hm .stream).trans (if_pos (.inl rfl))).symm
  let write (p : Nat × CheckResult) : String × Dict String String := (Deployment.resultStream, p.2.streamFields)
  have hwritten : pairs.map write = es.map Entry.written := List.map_map
  rw [hsaved, List.map_map, ← hwritten]
  exact ⟨ps.map write, hperm.map write, hsublist.map write⟩

/-- In every run of a monitor beside its result stream, however appends and calls of the evaluator end and whenever the
shutdown comes, saved results are published once; and what the run tells of its cycles, with how each ended, it tells
too if the deliveries do nothing. -/
theorem published_once_of_run {handOver : HandOver} {epoch : Instant} {checker : Checker}
    (h : (start handOver epoch checker).moves? vs = some f) :
    PublishesOnce handOver f ∧
      ∃ m, (Monitor.start handOver epoch checker).moves?
          ((vs.filterMap Move.monitor?).filter (·.delivery?.isNone)) = some m ∧
        ∀ n, Monitor.ledger n m.log = Monitor.ledger n f.monitor.log := by
  have hrun := monitor_of_run h
  have hlinked : Linked f.monitor (f.begun ++ f.added) := .of_run h
  have hadded : Linked f.monitor f.added :=
    hlinked.mono (List.sublist_append_right ..) (List.suffix_refl _) fun _ _ _ hx => hx
  have htrail : f.monitor.HasTrail := .of_run hrun
  have hhands := Monitor.HandsOn.of_run hrun
  obtain ⟨hover, hattempted⟩ := Monitor.Attempted.of_run hrun
  constructor
  · refine ⟨hadded.subperm hhands, ⟨hadded.once, fun e he => Monitor.mem_tasks.mpr (hadded.handed e he)⟩, hhands,
      htrail.orderly.nodup_handed, fun d => ?_, fun d f₁ h₁ => ?_, fun f₁ h₁ d => ?_, fun d hd vs f₁ h₁ hlate => ?_⟩
    · have := hattempted.bound d
      rwa [hover] at this
    · obtain ⟨begun, monitor, -, hm, rfl⟩ := move?_monitor h₁
      have hsilent := Monitor.Silent.of_called hattempted hm
      exact isDone_of_monitor fun ms m' hm => hsilent.not_mem hm
    · obtain ⟨begun, monitor, -, hm, rfl⟩ := move?_monitor h₁
      have hshut : monitor.isShutDown := by rw [← Option.some.inj hm]
      exact isDone_of_monitor fun ms m' hm => Monitor.not_mem_of_isShutDown hshut hm d
    · have hlt := htrail.handed_lt d hd
      have hlimit : f.monitor.handOver.limit = handOver.limit := by rw [hover]
      have hsilent := Monitor.Silent.of_late hattempted hlt (monitor_of_run h₁) (hlimit ▸ hlate)
      exact isDone_of_monitor fun ms m' hm => hsilent.not_mem hm
  · obtain ⟨m, hm, hcut⟩ := Monitor.run_without_deliveries rfl hrun
    exact ⟨m, hm, fun n => (Monitor.ledger_eq_of_cut hcut n).symm⟩

/-- Of three results the second cannot be saved. The append of the first succeeds; that of the third runs out of time
and adds its entry later. The first call of the evaluator fails, and the shutdown comes before another one. -/
theorem published_once_of_outage :
    let e (id : Int64) : Endpoint := ⟨id, 1, "", 60, 1000, none, true⟩
    let handOver : HandOver := ⟨.standard, 5000, true⟩
    let cycle : List Monitor.Move := [.beginCycle false (.ok [e 1, e 2, e 3]), .arrive 0, .arrive 1, .arrive 2,
      .handIn 0, .take 0, .saved 0 true, .handIn 1, .take 0, .saved 0 false, .handIn 2, .take 0, .saved 0 true, .complete 0]
    let moves : List Move := cycle.map .monitor ++ [.monitor (.call 0), .add 0, .monitor (.called 0 true),
      .monitor (.call 1), .monitor (.called 1 false), .monitor (.call 2), .monitor (.advance 5001),
      .monitor (.giveUp 2 false), .add 2, .monitor .shutDown, .monitor (.giveUp 1 false)]
    ∃ f, (start handOver .epoch (.fresh .standard ⟨"w", 5, 10⟩)).moves? moves = some f ∧ PublishesOnce handOver f ∧
      f.added.map (·.result.endpointId) = [3, 1] ∧ Monitor.calls 1 f.monitor.log = 1 := by
  intro e handOver cycle moves
  let run := (start handOver .epoch (.fresh .standard ⟨"w", 5, 10⟩)).moves? moves
  have h : run.any fun f => f.added.map (·.result.endpointId) = [3, 1] ∧ Monitor.calls 1 f.monitor.log = 1 := by
    decide +kernel
  obtain ⟨f, hf, h⟩ := (Option.any_eq_true ..).mp h
  exact ⟨f, hf, (published_once_of_run hf).1, of_decide_eq_true h⟩

end Feed

end EndpointWatch
