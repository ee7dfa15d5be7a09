import EndpointWatch.Proofs.Monitor.Interruption
import EndpointWatch.Proofs.Monitor.Watch

/-!
# The pace of a scheduler

Between any two times at which a ticker is served there is an interval for each step from the one to the other, but for
the tolerance: a time that was missed is not made up for (`served_of_run`). The turns of a scheduler begin at such times,
one after the other, whatever their cycles meet (`keepsPace_of_run`).
-/

namespace EndpointWatch

/-! ### Tickers -/

/-- Times with an interval for each step from one to another, but for the tolerance. -/
def Spaced (interval tolerance : Nat) (times : List Nat) : Prop :=
  ∀ i j a b, i < j → times[i]? = some a → times[j]? = some b → a + (j - i) * interval ≤ b + tolerance

theorem eq_of_getElem?_concat {α : Type} {l : List α} {x a : α} {i : Nat} (h : (l ++ [x])[i]? = some a) :
    l[i]? = some a ∧ i < l.length ∨ i = l.length ∧ a = x := by
  rcases Nat.lt_or_ge i l.length with hi | hi
  · rw [List.getElem?_append_left hi] at h
    exact .inl ⟨h, hi⟩
  · rw [List.getElem?_append_right hi, List.getElem?_singleton] at h
    split at h
    · next hzero =>
      cases h
      exact .inr ⟨by omega, rfl⟩
    · cases h

namespace Ticker

variable {t₀ t : Ticker} {times : List Nat} {now : Nat}

/-- The next due time is an interval after the one before, and after the service too but for the tolerance. -/
theorem due_serve (h : t.due ≤ now) :
    t.due + t.interval ≤ (t.serve now).due ∧ now + t.interval ≤ (t.serve now).due + t.tolerance := by
  have hserve : (t.serve now).due = (if t.due + t.tolerance < now then now else t.due) + t.interval := rfl
  rw [hserve]
  rcases Nat.lt_or_ge (t.due + t.tolerance) now with hlate | hinTime
  · rw [if_pos hlate]
    exact ⟨Nat.add_le_add_right h _, Nat.le_add_right ..⟩
  · rw [if_neg (Nat.not_lt.mpr hinTime), Nat.add_right_comm]
    exact ⟨Nat.le_refl _, Nat.add_le_add_right hinTime _⟩

/-- What is known of a ticker that began as `t₀` and was served at these times. -/
structure Served (t₀ : Ticker) (times : List Nat) (t : Ticker) : Prop where
  interval : t.interval = t₀.interval
  tolerance : t.tolerance = t₀.tolerance
  /-- The next due time is spaced like the times of service. -/
  due : ∀ i a, times[i]? = some a → a + (times.length - i) * t.interval ≤ t.due + t.tolerance
  spaced : Spaced t.interval t.tolerance times

theorem Served.serve (h : Served t₀ times t) (hdue : t.due ≤ now) : Served t₀ (times ++ [now]) (t.serve now) := by
  obtain ⟨hnext, hnow⟩ := due_serve hdue
  refine ⟨h.interval, h.tolerance, fun i a ha => ?_, fun i j a b hij ha hb => ?_⟩
  · rw [List.length_append, List.length_singleton]
    rcases eq_of_getElem?_concat ha with ⟨ha, hi⟩ | ⟨hi, ha⟩
    · calc a + (times.length + 1 - i) * t.interval
        _ = a + (times.length - i) * t.interval + t.interval := by
          rw [Nat.succ_sub (Nat.le_of_lt hi), Nat.succ_mul, Nat.add_assoc]
        _ ≤ t.due + t.tolerance + t.interval := Nat.add_le_add_right (h.due i a ha) _
        _ ≤ (t.serve now).due + t.tolerance := by omega
    · rw [hi, ha, Nat.add_sub_cancel_left, Nat.one_mul]
      exact hnow
  · rcases eq_of_getElem?_concat hb with ⟨hb, hj⟩ | ⟨hj, hb⟩
    · obtain ⟨ha, -⟩ := (eq_of_getElem?_concat ha).resolve_right (by omega)
      exact h.spaced i j a b hij ha hb
    · obtain ⟨ha, -⟩ := (eq_of_getElem?_concat ha).resolve_right (by omega)
      rw [hj, hb]
      exact Nat.le_trans (h.due i a ha) (Nat.add_le_add_right hdue _)

theorem served_of_run (h : times.foldlM serve? t₀ = some t) : Served t₀ times t := by
  refine holds_of_run (Q := Served t₀) ⟨rfl, rfl, ?_, ?_⟩ (fun times t now t' ht hserve => ?_) times h
  · intro i a ha
    cases ha
  · intro i j a b hij ha
    cases ha
  · obtain ⟨hdue, rfl⟩ := serve?_eq_some hserve
    exact ht.serve hdue

end Ticker

/-! ### Turns -/

namespace Watch

variable {t : Ticker} {w w' : Watch} {v : Move}

/-- The turns of a scheduler that began with the ticker `t`. -/
structure InTurn (t : Ticker) (w : Watch) : Prop where
  /-- The ticker goes by the times at which turns began, and by nothing else. -/
  served : w.starts.foldlM Ticker.serve? t = some w.scheduler.ticker
  apart : w.past.Pairwise fun x y => x.ended ≤ y.began
  lasts : ∀ x ∈ w.past, x.began ≤ x.ended ∧ x.ended ≤ w.now
  underWay : ∀ since, w.scheduler.stage.since? = some since → since ≤ w.now ∧ ∀ x ∈ w.past, x.ended ≤ since
  told : ∀ x ∈ w.past, .ended x.cycle x.outcome ∈ w.monitor.log

theorem InTurn.start (perMilli part interval : Nat) (m : Monitor) :
    InTurn (.start perMilli interval (m.now * perMilli + part)) (.start perMilli part interval m) where
  served := rfl
  apart := .nil
  lasts _ hx := absurd hx List.not_mem_nil
  underWay _ h := by cases h
  told _ hx := absurd hx List.not_mem_nil

theorem InTurn.step (h : InTurn t w) (hlog : w.monitor.log <:+ w'.monitor.log) (hstep : Step w w') : InTurn t w' := by
  obtain ⟨hserved, hapart, hlasts, hunderWay, htold⟩ := h
  have hserved' : w'.starts.foldlM Ticker.serve? t = some w'.scheduler.ticker := by
    rcases hstep.starts with ⟨hstarts, hticker⟩ | ⟨hstarts, hserve⟩
    · rw [hstarts, hticker, hserved]
    · rw [hstarts]
      exact run_append.mpr ⟨_, hserved, run_of_step hserve rfl⟩
  have htold' (x : Turn) (hx : x ∈ w.past) : .ended x.cycle x.outcome ∈ w'.monitor.log := hlog.subset (htold x hx)
  cases hstep with
  | pass now ticker since stopped past =>
    refine ⟨hserved', past ▸ hapart, fun x hx => ?_, fun a ha => ?_, past ▸ htold'⟩
    · obtain ⟨hbegan, hended⟩ := hlasts x (past ▸ hx)
      exact ⟨hbegan, Nat.le_trans hended now⟩
    · obtain ⟨ha, hpast⟩ := hunderWay a (since ▸ ha)
      exact ⟨Nat.le_trans ha now, past ▸ hpast⟩
  | begin now waiting ticker fetching past =>
    -- all turns before were over when the scheduler waited
    refine ⟨hserved', past ▸ hapart, fun x hx => now ▸ hlasts x (past ▸ hx), fun a ha => ?_, past ▸ htold'⟩
    rw [fetching] at ha
    cases ha
    exact ⟨Nat.le_of_eq now.symm, fun x hx => (hlasts x (past ▸ hx)).2⟩
  | finish turn now running ended outcome ticker waiting past =>
    have hsince : w.scheduler.stage.since? = some turn.began := by rw [running]; rfl
    obtain ⟨hbegan, hpast⟩ := hunderWay turn.began hsince
    refine ⟨hserved', ?_, ?_, fun a ha => ?_, ?_⟩ <;> try rw [past]
    · refine List.pairwise_append.mpr ⟨hapart, List.pairwise_singleton .., fun x hx y hy => ?_⟩
      rw [List.mem_singleton.mp hy]
      exact hpast x hx
    · rw [now, List.forall_mem_append, List.forall_mem_singleton, ended]
      exact ⟨hlasts, hbegan, Nat.le_refl _⟩
    · rw [waiting] at ha
      cases ha
    · rw [List.forall_mem_append, List.forall_mem_singleton]
      exact ⟨htold', hlog.subset outcome⟩

theorem InTurn.of_run {vs : List Move} (h : InTurn t w) (hrun : w.moves? vs = some w') : InTurn t w' :=
  keeps_of_run (fun _ _ _ hw hv => hw.step (log_suffix_of_move? hv) (step_of_move? hv)) vs h hrun

/-- What happens to the monitor beside a scheduler are moves of the monitor. -/
theorem books_of_run {handOver : HandOver} {epoch : Instant} {checker : Checker} {ms : List Monitor.Move}
    {vs : List Move} (hm : (Monitor.start handOver epoch checker).moves? ms = some w.monitor)
    (hrun : w.moves? vs = some w') : w'.monitor.Books handOver.hasEvaluator := by
  let P (s : Watch) : Prop := s.monitor.Books handOver.hasEvaluator
  have hstep (s : Watch) (v : Move) (s' : Watch) (hs : P s) (hv : s.move? v = some s') : P s' :=
    keeps_of_run (P := fun m => m.Books handOver.hasEvaluator) (fun _ _ _ hb => hb.move) _ hs (monitor_of_move? hv)
  exact keeps_of_run hstep vs (.of_run hm) hrun

/-! ### What a scheduler can do next -/

theorem resumes {since cycle : Nat} {outcome : Except CycleError CycleReport}
    (hrunning : w.scheduler.stage = .running since cycle) (hended : .ended cycle outcome ∈ w.monitor.log) :
    ∃ w', w.move? .resume = some w' ∧ w'.scheduler = ⟨w.scheduler.ticker, .waiting⟩ ∧ w'.starts = w.starts := by
  obtain ⟨r, hr⟩ := Option.isSome_iff_exists.mp (Monitor.outcome?_isSome hended)
  let scheduler : Scheduler := ⟨w.scheduler.ticker, .waiting⟩
  let turn : Turn := ⟨cycle, since, w.now, r⟩
  have hresume : w.scheduler.resume? w.now w.monitor = some (turn, scheduler) := by
    rw [Scheduler.resume?, hrunning]
    exact congrArg (Option.map _) hr
  refine ⟨{ w with scheduler, past := w.past ++ [turn] }, congrArg (Option.map _) hresume, rfl, ?_⟩
  rw [starts, starts, List.map_append, hrunning]
  exact List.append_nil _

theorem begins (hwaiting : w.scheduler.stage = .waiting) {time : Nat} (htime : w.scheduler.ticker.next w.now ≤ time) :
    ∃ w', w.moves? [.advance (time - w.now), .tick] = some w' ∧ w'.starts = w.starts ++ [time] := by
  have hnow : w.now + (time - w.now) = time := Nat.add_sub_cancel' (Nat.le_trans (Nat.le_max_left ..) htime)
  have hdue : w.scheduler.ticker.due ≤ time := Nat.le_trans (Nat.le_max_right ..) htime
  obtain ⟨later, hlater, hnow, hscheduler, hpast⟩ : ∃ later, w.move? (.advance (time - w.now)) = some later ∧
      later.now = time ∧ later.scheduler = w.scheduler ∧ later.past = w.past :=
    ⟨_, rfl, (now_advance rfl).trans hnow, rfl, rfl⟩
  let scheduler : Scheduler := ⟨w.scheduler.ticker.serve time, .fetching time⟩
  have htick : later.move? .tick = some { later with scheduler } := by
    have h : later.scheduler.tick? later.now = some scheduler := by
      rw [hscheduler, hnow, Scheduler.tick?, hwaiting]
      exact congrArg (Option.map _) (if_pos hdue)
    exact congrArg (Option.map _) h
  refine ⟨{ later with scheduler }, run_of_step hlater (run_of_step htick rfl), ?_⟩
  rw [starts, starts, hwaiting, hpast]
  exact (congrArg (· ++ [time]) (List.append_nil _)).symm

/-! ### Runs -/

theorem starts_of_stopped (h : w.scheduler.stage = .stopped) {vs : List Move} (hrun : w.moves? vs = some w') :
    w'.starts = w.starts := by
  let P (s : Watch) : Prop := s.scheduler.stage = .stopped ∧ s.past = w.past
  have hstep (s : Watch) (v : Move) (s' : Watch) (hs : P s) (hv : s.move? v = some s') : P s' := by
    obtain ⟨hstopped, hpast⟩ := hs
    cases step_of_move? hv with
    | pass now ticker since stopped past => exact ⟨stopped hstopped, past.trans hpast⟩
    | begin now waiting => exact absurd (hstopped.symm.trans waiting) Scheduler.Stage.noConfusion
    | finish turn now running => exact absurd (hstopped.symm.trans running) Scheduler.Stage.noConfusion
  obtain ⟨hstopped, hpast⟩ := keeps_of_run hstep vs ⟨h, rfl⟩ hrun
  rw [starts, starts, hstopped, hpast, h]

/-- What a scheduler has to do that began with the ticker `t`. -/
structure KeepsPace (t : Ticker) (w : Watch) : Prop where
  /-- A turn begins after the end of the one before it. -/
  apart : w.past.Pairwise fun x y => x.ended ≤ y.began
  lasts : ∀ x ∈ w.past, x.began ≤ x.ended
  underWay : ∀ since, w.scheduler.stage.since? = some since → ∀ x ∈ w.past, x.ended ≤ since
  /-- The cycle of a turn that is over has ended and stays so. -/
  ended : ∀ x ∈ w.past, .ended x.cycle x.outcome ∈ w.monitor.log ∧ w.monitor.cycles.get? x.cycle = none
  spaced : Spaced t.interval t.tolerance w.starts
  /-- The ticker has been served when the turns began, and has no notion of what came of them. -/
  onSchedule : w.starts.foldlM Ticker.serve? t = some w.scheduler.ticker
  /-- A turn is over when its cycle has ended, in whatever way. -/
  resumes : ∀ since cycle outcome, w.scheduler.stage = .running since cycle → .ended cycle outcome ∈ w.monitor.log →
    ∃ w', w.move? .resume = some w' ∧ w'.scheduler = ⟨w.scheduler.ticker, .waiting⟩ ∧ w'.starts = w.starts
  /-- The next one can begin as soon as the ticker is due, or later. -/
  goesOn : w.scheduler.stage = .waiting → ∀ time, w.scheduler.ticker.next w.now ≤ time →
    ∃ w', w.moves? [.advance (time - w.now), .tick] = some w' ∧ w'.starts = w.starts ++ [time]
  /-- When the shutdown has been noticed, no more turns begin. -/
  stops : w.scheduler.stage = .stopped → ∀ vs w', w.moves? vs = some w' → w'.starts = w.starts

theorem InTurn.keepsPace {b : Bool} (h : InTurn t w) (hbooks : w.monitor.Books b) : KeepsPace t w := by
  obtain ⟨hserved, hapart, hlasts, hunderWay, htold⟩ := h
  have htimes := Ticker.served_of_run hserved
  refine ⟨hapart, fun x hx => (hlasts x hx).1, fun since hs => (hunderWay since hs).2, fun x hx => ?_, ?_, hserved,
    fun since cycle outcome hr he => resumes hr he, fun hwaiting time htime => begins hwaiting htime,
    fun hstopped vs w' hrun => starts_of_stopped hstopped hrun⟩
  · exact ⟨htold x hx, (hbooks.closed (htold x hx)).2⟩
  · rw [← htimes.interval, ← htimes.tolerance]
    exact htimes.spaced

/-- A scheduler keeps its pace in every run, whatever happens to its cycles and to others. -/
theorem keepsPace_of_run {handOver : HandOver} {epoch : Instant} {checker : Checker} {ms : List Monitor.Move}
    {m : Monitor} {perMilli part interval : Nat} {vs : List Move}
    (hm : (Monitor.start handOver epoch checker).moves? ms = some m)
    (hw : (start perMilli part interval m).moves? vs = some w) :
    KeepsPace (.start perMilli interval (m.now * perMilli + part)) w :=
  ((InTurn.start perMilli part interval m).of_run hw).keepsPace (books_of_run hm hw)

/-- A scheduler with an interval of a second, on a clock that counts microseconds. The fetch of its first cycle fails.
The second one begins three milliseconds late, and is stopped at its deadline when the next one is overdue. The third one
has nothing to check, and the last one begins although there is a shutdown, which is noticed only then. -/
theorem keepsPace_of_overrun :
    let m : Monitor := .start ⟨.standard, 5000, false⟩ .epoch (.fresh .standard ⟨"w", 5, 10⟩)
    let moves : List Move := [.tick, .fetched (.error (.fetch (.query "locked"))), .resume,
      .advance 1_003_000, .tick, .fetched (.ok [⟨1, 1, "", 60, 1000, none, true⟩]), .monitor (.arrive 0),
      .advance 2_500_000, .monitor (.stop 1 (.deadline 2500)), .resume, .tick, .fetched (.ok []), .resume,
      .advance 1_000_000, .shutDown, .tick, .fetched (.error .cancelled), .resume, .stop]
    ∃ w, (start 1000 0 1_000_000 m).moves? moves = some w ∧ KeepsPace (.start 1000 1_000_000 0) w ∧
      w.starts = [0, 1_003_000, 3_503_000, 4_503_000] ∧ w.scheduler = ⟨⟨1_000_000, 5000, 5_503_000⟩, .stopped⟩ := by
  intro m moves
  let run := (start 1000 0 1_000_000 m).moves? moves
  have h : run.any fun w => w.starts = [0, 1_003_000, 3_503_000, 4_503_000] ∧
      w.scheduler = ⟨⟨1_000_000, 5000, 5_503_000⟩, .stopped⟩ := by
    decide +kernel
  obtain ⟨w, hw, h⟩ := (Option.any_eq_true ..).mp h
  have hm : (Monitor.start ⟨.standard, 5000, false⟩ .epoch (.fresh .standard ⟨"w", 5, 10⟩)).moves? [] = some m := rfl
  have hpace := keepsPace_of_run hm hw
  have hstart : m.now = 0 := rfl
  rw [hstart, Nat.zero_mul] at hpace
  exact ⟨w, hw, hpace, of_decide_eq_true h⟩

end Watch

end EndpointWatch
