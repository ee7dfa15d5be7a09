import EndpointWatch.Monitor.Deployment
import EndpointWatch.Proofs.Monitor.Pace

/-!
# The scheduler of a deployment

All that a deployment does while its scheduler is at work is a run of a `Watch` in milliseconds (`Reaches`): it changes
its monitor by moves only, and its scheduler when a tick is due and when a cycle has ended. So its scheduler keeps the
pace (`keepsPace_of_acts`).
-/

namespace EndpointWatch.Deployment

/-- A watch in milliseconds, with the monitor and the scheduler of a deployment. -/
structure Shows (w : Watch) (d : Deployment) : Prop where
  perMilli : w.perMilli = 1
  part : w.part = 0
  monitor : w.monitor = d.monitor
  scheduler : d.scheduler? = some w.scheduler

/-- Watches that show the first deployment have a run after which they show the second one. -/
def Reaches (d d' : Deployment) : Prop := ∀ w, Shows w d → ∃ vs w', w.moves? vs = some w' ∧ Shows w' d'

variable {d d' d'' : Deployment} {w : Watch}

theorem Shows.now_eq (h : Shows w d) : w.now = d.now := by
  rw [Watch.now, h.perMilli, h.part, h.monitor, Nat.mul_one]
  rfl

namespace Reaches

/-- What is not shown may change. -/
theorem of_eq (hm : d'.monitor = d.monitor) (hs : d'.scheduler? = d.scheduler?) : Reaches d d' :=
  fun w h => ⟨[], w, rfl, h.perMilli, h.part, h.monitor.trans hm.symm, hs.trans h.scheduler⟩

theorem refl (d : Deployment) : Reaches d d := of_eq rfl rfl

theorem trans (h : Reaches d d') (h' : Reaches d' d'') : Reaches d d'' := fun w hw => by
  obtain ⟨vs, w', hrun, hw'⟩ := h w hw
  obtain ⟨vs', w'', hrun', hw''⟩ := h' w' hw'
  exact ⟨vs ++ vs', w'', run_append.mpr ⟨w', hrun, hrun'⟩, hw''⟩

theorem move (h : Reaches d d') (v : Monitor.Move) : Reaches d (d'.move v) := by
  refine h.trans fun w hw => ?_
  unfold Deployment.move
  split
  · next monitor hm =>
    refine ⟨[.monitor v], { w with monitor }, run_of_step ?_ rfl, hw.perMilli, hw.part, rfl, hw.scheduler⟩
    have hmove : w.monitor.moves? [v] = some monitor := run_of_step (hw.monitor ▸ hm) rfl
    rw [Watch.move?, Watch.Move.ofMonitor, hmove]
    rfl
  · exact ⟨[], w, rfl, hw⟩

theorem later (h : Reaches d d') (ms : Nat) (j : Job) : Reaches d (d'.later ms j) := h.trans (of_eq rfl rfl)

theorem foldl {α : Type} {f : Deployment → α → Deployment} (hf : ∀ d a, Reaches d (f d a)) (h : Reaches d d')
    (as : List α) : Reaches d (as.foldl f d') := by
  induction as generalizing d' with
  | nil => exact h
  | cons a as ih => exact ih (h.trans (hf d' a))

theorem resume (h : Reaches d d') : Reaches d d'.resume := by
  refine h.trans fun w hw => ?_
  unfold Deployment.resume
  split
  · next turn s hs =>
    rw [hw.scheduler, Option.bind_some, ← hw.monitor, ← hw.now_eq] at hs
    have hresume : w.move? .resume = some { w with scheduler := s, past := w.past ++ [turn] } :=
      congrArg (Option.map _) hs
    exact ⟨[.resume], _, run_of_step hresume rfl, hw.perMilli, hw.part, hw.monitor, rfl⟩
  · exact ⟨[], w, rfl, hw⟩

end Reaches

/-! ### Cycles -/

theorem scheduler?_move (v : Monitor.Move) (d : Deployment) : (d.move v).scheduler? = d.scheduler? := by
  unfold move
  split <;> rfl

theorem frame_foldl_later (ms : Nat) (f : Nat → Job) (ks : List Nat) (d : Deployment) :
    (ks.foldl (fun d k => d.later ms (f k)) d).monitor = d.monitor ∧
      (ks.foldl (fun d k => d.later ms (f k)) d).scheduler? = d.scheduler? := by
  induction ks generalizing d with
  | nil => exact ⟨rfl, rfl⟩
  | cons k ks ih => exact ih (d.later ms (f k))

/-- Of all that is shown, a cycle that begins changes the monitor only. -/
theorem frame_beginCycle (isLinked isCancelled : Bool) (limit : Nat) (e : CycleError) (d : Deployment) :
    (d.beginCycle isLinked isCancelled limit e).2.monitor = (d.move (.beginCycle isCancelled d.fetch)).monitor ∧
      (d.beginCycle isLinked isCancelled limit e).2.scheduler? = d.scheduler? := by
  simp only [beginCycle]
  rw [(frame_foldl_later ..).1, (frame_foldl_later ..).2, ← scheduler?_move (.beginCycle isCancelled d.fetch) d]
  generalize d.move (.beginCycle isCancelled d.fetch) = d'
  generalize (List.range' d.monitor.session.nextCheck _).isEmpty = isEmpty
  cases isLinked <;> cases isEmpty <;> exact ⟨rfl, rfl⟩

theorem Reaches.beginCycle (isLinked isCancelled : Bool) (limit : Nat) (e : CycleError) (d : Deployment) :
    Reaches d (d.beginCycle isLinked isCancelled limit e).2 := by
  obtain ⟨hm, hs⟩ := frame_beginCycle isLinked isCancelled limit e d
  exact ((refl d).move (.beginCycle isCancelled d.fetch)).trans (of_eq hm (hs.trans (scheduler?_move ..).symm))

/-- A cycle begins with the endpoints, or ends before it has them. -/
theorem exists_ofFetch (isCancelled : Bool) (fetched : Except StorageError (List Endpoint)) (m : Monitor) :
    ∃ r, m.move? (.ofFetch r) = some (m.beginCycle isCancelled fetched) := by
  cases isCancelled with
  | true => exact ⟨.error .cancelled, rfl⟩
  | false =>
    cases fetched with
    | error e => exact ⟨.error (.fetch e), rfl⟩
    | ok es => exact ⟨.ok es, rfl⟩

namespace Reaches

theorem tick (d : Deployment) : Reaches d d.tick := by
  unfold Deployment.tick
  split
  · next s hs =>
    refine resume fun w hw => ?_
    rw [hw.scheduler, Option.bind_some, ← hw.now_eq] at hs
    obtain ⟨hwaiting, ticker, hserve, rfl⟩ := Scheduler.tick?_eq_some hs
    obtain ⟨r, hr⟩ := exists_ofFetch d.monitor.isShutDown d.fetch d.monitor
    let ticked : Watch := { w with scheduler := ⟨ticker, .fetching w.now⟩ }
    have htick : w.move? .tick = some ticked := congrArg (Option.map _) hs
    have hbegin : ticked.monitor.moves? [.ofFetch r] = some (d.monitor.beginCycle d.monitor.isShutDown d.fetch) :=
      run_of_step (hw.monitor ▸ hr) rfl
    have hfetched : ticked.move? (.fetched r) = some { ticked with
        monitor := d.monitor.beginCycle d.monitor.isShutDown d.fetch
        scheduler := ⟨ticker, .running w.now w.monitor.nextCycle⟩ } := by
      rw [Watch.move?, Watch.Move.ofMonitor, hbegin]
      rfl
    obtain ⟨hm, -⟩ := frame_beginCycle true d.monitor.isShutDown d.cycleLimit (.deadline d.cycleLimit) d
    refine ⟨[.tick, .fetched r], _, run_of_step htick (run_of_step hfetched rfl), hw.perMilli, hw.part, hm.symm, ?_⟩
    rw [hw.monitor]
    rfl
  · exact refl d

/-! ### Jobs -/

theorem saveNext (n : Nat) (h : Reaches d d') : Reaches d (d'.saveNext n) := by
  refine (h.move (.take n)).trans ?_
  unfold Deployment.saveNext
  generalize d'.move (.take n) = d'
  simp only []
  split
  · next r hr =>
    generalize (!d'.unsavable.contains r.endpointId) = success
    refine resume (move (foldl (fun d k => (refl d).later 0 (.call k)) (move ?_ _) _) _)
    cases success with
    | true => exact of_eq rfl rfl
    | false => exact refl d'
  · exact refl d'

theorem followUp (check cycle : Nat) (h : Reaches d d') : Reaches d (d'.followUp check cycle) := by
  unfold Deployment.followUp
  split
  · exact h.later _ _
  · exact (h.move _).saveNext cycle
  · exact h.saveNext cycle

theorem beforeDeadline (x : Delivery) (n due : Nat) (j : Job) (h : Reaches d d') :
    Reaches d (d'.beforeDeadline x n due j) := by
  unfold Deployment.beforeDeadline
  simp only []
  split <;> exact h.later _ _

theorem serve (x : Delivery) (h : Reaches d d') : Reaches d (d'.serve x).2 := by
  refine h.trans ?_
  unfold Deployment.serve
  split <;> exact of_eq rfl rfl

theorem perform (j : Job) (d : Deployment) : Reaches d (d.perform j) := by
  cases j with
  | arrive n =>
    simp only [Deployment.perform]
    split
    · exact ((refl d).move _).followUp n _
    · exact refl d
  | probe n =>
    simp only [Deployment.perform]
    split
    · refine later ?_ _ _
      exact of_eq rfl rfl
    · exact refl d
  | probed n r =>
    simp only [Deployment.perform]
    split
    · exact ((refl d).move _).followUp n _
    · exact refl d
  | stop n e => exact ((refl d).move _).resume
  | call n =>
    simp only [Deployment.perform]
    split
    · next monitor hm =>
      have hcall : { d with monitor } = d.move (.call n) := by rw [Deployment.move, hm]
      rw [hcall]
      have hmove := (refl d).move (.call n)
      split
      · next x hx => exact (hmove.serve x).beforeDeadline x n _ _
      · exact hmove
    · exact (refl d).move _
  | called n success =>
    simp only [Deployment.perform]
    have hmove := (refl d).move (.called n success)
    split
    · exact hmove.move _
    · split
      · split
        · exact hmove.beforeDeadline _ n _ _
        · exact hmove
      · exact hmove
  | giveUp n => exact (refl d).move _
  | tick => exact tick d

theorem run (goOn : Deployment → Bool) (stop jobs : Nat) (h : Reaches d d') : Reaches d (d'.run goOn stop jobs) := by
  induction jobs generalizing d' with
  | zero => exact h
  | succ jobs ih =>
    unfold Deployment.run
    split
    · next due j agenda hagenda =>
      split
      · refine ih (h.trans (trans ?_ (perform j _)))
        refine move ?_ _
        exact of_eq rfl rfl
      · exact h
    · exact h

/-! ### What is done with a deployment -/

theorem advance (ms : Nat) (h : Reaches d d') : Reaches d (d'.advance ms) := by
  unfold Deployment.advance
  exact (h.run _ _ _).move _

theorem settle (steps : Nat) (h : Reaches d d') : Reaches d (d'.settle steps) := by
  induction steps generalizing d' with
  | zero => exact h
  | succ steps ih =>
    have hadvance := h.advance 1
    unfold Deployment.settle
    simp only []
    split
    · exact hadvance
    · exact ih hadvance

theorem runCycle (cancelAt? : Option Nat) (h : Reaches d d') : Reaches d (d'.runCycle cancelAt?).2 := by
  cases cancelAt? with
  | none =>
    have hbegin := beginCycle true d'.monitor.isShutDown d'.cycleLimit (.deadline d'.cycleLimit) d'
    exact ((h.trans hbegin).run _ _ _).settle _
  | some time =>
    have hbegin := beginCycle false (time = 0) time .cancelled d'
    exact ((h.trans hbegin).run _ _ _).settle _

end Reaches

/-- What is done with a deployment while its scheduler is at work: time passes, or a cycle is run beside it. -/
inductive Act where
  | advance (ms : Nat)
  | runCycle (cancelAt? : Option Nat)

def act (d : Deployment) : Act → Deployment
  | .advance ms => d.advance ms
  | .runCycle cancelAt? => (d.runCycle cancelAt?).2

/-- The scheduler of a deployment keeps the pace, whatever the deployment meets. -/
theorem keepsPace_of_acts {handOver : HandOver} {epoch : Instant} {checker : Checker} {ms : List Monitor.Move}
    (hm : (Monitor.start handOver epoch checker).moves? ms = some d.monitor) {interval : Nat} (hinterval : 0 < interval)
    (acts : List Act) :
    ∃ w, Shows w (acts.foldl act (d.startScheduler interval)) ∧ w.KeepsPace (.start 1 interval d.now) := by
  have hnow : d.monitor.now * 1 + 0 = d.now := Nat.mul_one _
  have hstart : Shows (.start 1 0 interval d.monitor) (d.startScheduler interval) := by
    rw [startScheduler, if_neg (Nat.ne_of_gt hinterval)]
    exact ⟨rfl, rfl, rfl, hnow ▸ rfl⟩
  have hact (d : Deployment) (a : Act) : Reaches d (d.act a) := by
    cases a with
    | advance ms => exact (Reaches.refl d).advance ms
    | runCycle cancelAt? => exact (Reaches.refl d).runCycle cancelAt?
  obtain ⟨vs, w, hrun, hw⟩ := (Reaches.refl _).foldl hact acts _ hstart
  have hturns := (Watch.InTurn.start 1 0 interval d.monitor).of_run hrun
  exact ⟨w, hw, hnow ▸ hturns.keepsPace (Watch.books_of_run hm hrun)⟩

end EndpointWatch.Deployment
