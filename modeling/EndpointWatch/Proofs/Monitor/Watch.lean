import EndpointWatch.Monitor.Scheduler
import EndpointWatch.Proofs.Monitor.Attempts

/-!
# A monitor with a scheduler

A `Watch` is a monitor beside a scheduler that begins cycles of it. Time passes in steps of any size, and all else that
can happen to the monitor happens in between: cycles of others, and whatever the cycle of the scheduler meets, however
long it takes. A tick may be delivered late, and also after the shutdown as long as this was not noticed. All that a
move does to the turns of the scheduler is in `Step`.
-/

namespace EndpointWatch

/-- How a cycle of the scheduler begins: with the endpoints that were fetched, or it ends before it has them. -/
def Monitor.Move.ofFetch : Except CycleError (List Endpoint) → Monitor.Move
  | .ok es => .beginCycle false (.ok es)
  | .error e => .abandonFetch e

/-- When the turn under way began. -/
def Scheduler.Stage.since? : Scheduler.Stage → Option Nat
  | .waiting | .stopped => none
  | .fetching since | .running since _ => some since

/-- A monitor beside a scheduler, whose clock counts `perMilli` for a millisecond and shows `part` of one more than that
of the monitor. `isShutDown` is whether the scheduler is to stop, `past` are the turns that are over, in their order. -/
structure Watch where
  perMilli : Nat
  part : Nat
  monitor : Monitor
  scheduler : Scheduler
  isShutDown : Bool
  past : List Turn

namespace Watch

def start (perMilli part interval : Nat) (m : Monitor) : Watch :=
  ⟨perMilli, part, m, .start perMilli interval (m.now * perMilli + part), false, []⟩

def now (w : Watch) : Nat := w.monitor.now * w.perMilli + w.part

/-- When the turns began, up to the one under way. -/
def starts (w : Watch) : List Nat := w.past.map Turn.began ++ w.scheduler.stage.since?.toList

inductive Move where
  | advance (steps : Nat)
  | monitor (v : Monitor.Move)
  | tick
  | fetched (r : Except CycleError (List Endpoint))
  | resume
  | shutDown
  | stop

/-- The moves of the monitor that a move comes with. -/
def Move.ofMonitor (w : Watch) : Move → List Monitor.Move
  | advance steps => [.advance ((w.part + steps) / w.perMilli)]
  | monitor v => [v]
  | fetched r => [.ofFetch r]
  | tick | resume | shutDown | stop => []

/-- The watch after a move, if it is possible. Whether there is a shutdown is looked at between two turns. -/
def move? (w : Watch) (v : Move) : Option Watch := do
  let monitor ← w.monitor.moves? (v.ofMonitor w)
  match v with
  | .advance steps => some { w with monitor, part := (w.part + steps) % w.perMilli }
  | .monitor _ => some { w with monitor }
  | .tick => (w.scheduler.tick? w.now).map fun scheduler => { w with monitor, scheduler }
  | .fetched _ => (w.scheduler.fetched? w.monitor.nextCycle).map fun scheduler => { w with monitor, scheduler }
  | .resume =>
    (w.scheduler.resume? w.now monitor).map fun p => { w with monitor, scheduler := p.2, past := w.past ++ [p.1] }
  | .shutDown => some { w with monitor, isShutDown := true }
  | .stop => if w.isShutDown then w.scheduler.stop?.map fun scheduler => { w with monitor, scheduler } else none

def moves? (w : Watch) (vs : List Move) : Option Watch := vs.foldlM move? w

end Watch

/-! ### Moves of the scheduler -/

theorem Ticker.serve?_eq_some {t t' : Ticker} {now : Nat} (h : t.serve? now = some t') :
    t.due ≤ now ∧ t' = t.serve now := by
  rw [serve?, Option.ite_none_right_eq_some, Option.some.injEq] at h
  exact ⟨h.1, h.2.symm⟩

namespace Scheduler

variable {s s' : Scheduler} {now cycle : Nat}

theorem tick?_eq_some (h : s.tick? now = some s') :
    s.stage = .waiting ∧ ∃ ticker, s.ticker.serve? now = some ticker ∧ s' = ⟨ticker, .fetching now⟩ := by
  unfold tick? at h
  split at h
  · next hstage =>
    obtain ⟨ticker, hserve, rfl⟩ := Option.map_eq_some_iff.mp h
    exact ⟨hstage, ticker, hserve, rfl⟩
  · cases h

theorem fetched?_eq_some (h : s.fetched? cycle = some s') :
    ∃ since, s.stage = .fetching since ∧ s' = { s with stage := .running since cycle } := by
  unfold fetched? at h
  split at h
  · next since hstage =>
    cases h
    exact ⟨since, hstage, rfl⟩
  · cases h

theorem resume?_eq_some {m : Monitor} {p : Turn × Scheduler} (h : s.resume? now m = some p) :
    ∃ since cycle outcome, s.stage = .running since cycle ∧ m.outcome? cycle = some outcome ∧
      p = (⟨cycle, since, now, outcome⟩, { s with stage := .waiting }) := by
  unfold resume? at h
  split at h
  · next since cycle hstage =>
    obtain ⟨outcome, houtcome, rfl⟩ := Option.map_eq_some_iff.mp h
    exact ⟨since, cycle, outcome, hstage, houtcome, rfl⟩
  · cases h

theorem stop?_eq_some (h : s.stop? = some s') : s.stage = .waiting ∧ s' = { s with stage := .stopped } := by
  unfold stop? at h
  split at h
  · next hstage =>
    cases h
    exact ⟨hstage, rfl⟩
  · cases h

end Scheduler

theorem Monitor.now_le_of_run {m m' : Monitor} {ms : List Monitor.Move} (h : m.moves? ms = some m') : m.now ≤ m'.now :=
  keeps_of_run (P := fun s => m.now ≤ s.now)
    (fun _ _ _ hs hv => Nat.le_trans hs (Monitor.frame_of_move? hv).2.1) ms (Nat.le_refl _) h

/-- A log tells how a cycle ended, if it has. -/
theorem Monitor.mem_log_of_outcome? {m : Monitor} {n : Nat} {r : Except CycleError CycleReport}
    (h : m.outcome? n = some r) : .ended n r ∈ m.log := by
  obtain ⟨a, ha, h⟩ := List.exists_of_findSome?_eq_some h
  split at h
  · next k r' =>
    obtain ⟨rfl, rfl⟩ := (Option.ite_none_right_eq_some ..).mp h |>.imp_right Option.some.inj
    exact ha
  · cases h

theorem Monitor.outcome?_isSome {m : Monitor} {n : Nat} {r : Except CycleError CycleReport} (h : .ended n r ∈ m.log) :
    (m.outcome? n).isSome := by
  refine List.findSome?_isSome_iff.mpr ⟨_, h, ?_⟩
  simp

namespace Watch

/-! ### Moves of a watch -/

variable {w w' : Watch} {v : Move}

theorem monitor_of_move? (h : w.move? v = some w') : w.monitor.moves? (v.ofMonitor w) = some w'.monitor := by
  obtain ⟨monitor, hm, h⟩ := Option.bind_eq_some_iff.mp h
  rw [hm]
  cases v with
  | advance | monitor | shutDown => cases h; rfl
  | tick | fetched | resume =>
    obtain ⟨_, -, rfl⟩ := Option.map_eq_some_iff.mp h
    rfl
  | stop =>
    obtain ⟨-, h⟩ := (Option.ite_none_right_eq_some ..).mp h
    obtain ⟨_, -, rfl⟩ := Option.map_eq_some_iff.mp h
    rfl

theorem now_advance {steps : Nat} {monitor : Monitor}
    (hm : w.monitor.moves? (Move.ofMonitor w (.advance steps)) = some monitor) :
    now { w with monitor, part := (w.part + steps) % w.perMilli } = w.now + steps := by
  have hnow : monitor.now = w.monitor.now + (w.part + steps) / w.perMilli := by cases hm; rfl
  calc monitor.now * w.perMilli + (w.part + steps) % w.perMilli
    _ = w.monitor.now * w.perMilli + ((w.part + steps) / w.perMilli * w.perMilli + (w.part + steps) % w.perMilli) := by
      rw [hnow, Nat.add_mul, Nat.add_assoc]
    _ = w.now + steps := by rw [Nat.div_add_mod', now, Nat.add_assoc]

/-- What a move does to the turns of the scheduler: nothing, or one begins, or the one under way ends. -/
inductive Step (w w' : Watch) : Prop where
  | pass (now : w.now ≤ w'.now) (ticker : w'.scheduler.ticker = w.scheduler.ticker)
      (since : w'.scheduler.stage.since? = w.scheduler.stage.since?)
      (stopped : w.scheduler.stage = .stopped → w'.scheduler.stage = .stopped) (past : w'.past = w.past)
  | begin (now : w'.now = w.now) (waiting : w.scheduler.stage = .waiting)
      (ticker : w.scheduler.ticker.serve? w.now = some w'.scheduler.ticker)
      (fetching : w'.scheduler.stage = .fetching w.now) (past : w'.past = w.past)
  | finish (turn : Turn) (now : w'.now = w.now) (running : w.scheduler.stage = .running turn.began turn.cycle)
      (ended : turn.ended = w.now) (outcome : .ended turn.cycle turn.outcome ∈ w.monitor.log)
      (ticker : w'.scheduler.ticker = w.scheduler.ticker) (waiting : w'.scheduler.stage = .waiting)
      (past : w'.past = w.past ++ [turn])

theorem step_of_move? (h : w.move? v = some w') : Step w w' := by
  obtain ⟨monitor, hm, h⟩ := Option.bind_eq_some_iff.mp h
  have hnow := Nat.add_le_add_right (Nat.mul_le_mul_right w.perMilli (Monitor.now_le_of_run hm)) w.part
  cases v with
  | advance steps =>
    cases h
    exact .pass (now_advance hm ▸ Nat.le_add_right ..) rfl rfl id rfl
  | monitor v => cases h; exact .pass hnow rfl rfl id rfl
  | shutDown => cases h; exact .pass hnow rfl rfl id rfl
  | tick =>
    obtain ⟨s, hs, rfl⟩ := Option.map_eq_some_iff.mp h
    obtain ⟨hwaiting, ticker, hserve, rfl⟩ := Scheduler.tick?_eq_some hs
    cases hm
    exact .begin rfl hwaiting hserve rfl rfl
  | fetched r =>
    obtain ⟨s, hs, rfl⟩ := Option.map_eq_some_iff.mp h
    obtain ⟨since, hfetching, rfl⟩ := Scheduler.fetched?_eq_some hs
    refine .pass hnow rfl ?_ (fun hstopped => ?_) rfl
    · rw [hfetching]
      rfl
    · rw [hfetching] at hstopped
      cases hstopped
  | resume =>
    obtain ⟨p, hp, rfl⟩ := Option.map_eq_some_iff.mp h
    obtain ⟨since, cycle, outcome, hrunning, houtcome, rfl⟩ := Scheduler.resume?_eq_some hp
    cases hm
    exact .finish _ rfl hrunning rfl (Monitor.mem_log_of_outcome? houtcome) rfl rfl rfl
  | stop =>
    obtain ⟨-, h⟩ := (Option.ite_none_right_eq_some ..).mp h
    obtain ⟨s, hs, rfl⟩ := Option.map_eq_some_iff.mp h
    obtain ⟨hwaiting, rfl⟩ := Scheduler.stop?_eq_some hs
    refine .pass hnow rfl ?_ (fun _ => rfl) rfl
    rw [hwaiting]
    rfl

/-- The ticker is served when a turn begins. -/
theorem Step.starts (h : Step w w') :
    w'.starts = w.starts ∧ w'.scheduler.ticker = w.scheduler.ticker ∨
      w'.starts = w.starts ++ [w.now] ∧ w.scheduler.ticker.serve? w.now = some w'.scheduler.ticker := by
  cases h with
  | pass now ticker since stopped past =>
    refine .inl ⟨?_, ticker⟩
    rw [Watch.starts, Watch.starts, past, since]
  | begin now waiting ticker fetching past =>
    refine .inr ⟨?_, ticker⟩
    simp [Watch.starts, past, waiting, fetching, Scheduler.Stage.since?]
  | finish turn now running ended outcome ticker waiting past =>
    refine .inl ⟨?_, ticker⟩
    simp [Watch.starts, past, waiting, running, Scheduler.Stage.since?]

theorem log_suffix_of_move? (h : w.move? v = some w') : w.monitor.log <:+ w'.monitor.log := by
  have hrun := monitor_of_move? h
  refine keeps_of_run (P := fun m => w.monitor.log <:+ m.log) (fun m v m' hm hv => ?_) _ List.suffix_rfl hrun
  exact hm.trans (Monitor.log_suffix_of_move? hv)

end Watch

end EndpointWatch
