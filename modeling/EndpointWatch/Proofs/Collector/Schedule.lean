import EndpointWatch.Proofs.Collector.Turns
import Mathlib.Logic.Relation

/-!
# The schedule is a run

All that a schedule does is done in four kinds of stages (`Stage`), and each of them is possible in a pool in which those
wait and run who wait and run in the schedule (`Fits`). So the moves of a schedule are a run of the pool, at whose end
all collectors have ended (`isDone_of_moves`).
-/

namespace EndpointWatch.Schedule

open Pool (Move)

variable {workers now due : Nat} {cancelAt : Option Nat} {chosen : Dict String Collector} {c : Bool} {s s' : State}
  {p p' : Pool} {past : List Move} {waiting : List (String × Collector)} {running : Agenda (String × Collector)}

/-! ### Stages -/

inductive Stage (workers : Nat) (cancelAt : Option Nat) : State → State → Prop where
  | begin {past : List Move} {e : String × Collector} {waiting : List (String × Collector)}
      {running running' : Agenda (String × Collector)} (due : Nat) (isFree : running.length < workers)
      (perm : running'.Perm ((due, e) :: running)) :
    Stage workers cancelAt ⟨past, false, e :: waiting, running⟩ ⟨past ++ beginning e, false, waiting, running'⟩
  | finish {past : List Move} {c : Bool} {waiting : List (String × Collector)} {b : Nat × (String × Collector)}
      {running : Agenda (String × Collector)} :
    Stage workers cancelAt ⟨past, c, waiting, b :: running⟩
      ⟨past ++ ending b.2, c || b.2.2.cancels, waiting, running⟩
  | fire (isDue : cancelAt.isSome) {past : List Move} {waiting : List (String × Collector)}
      {running : Agenda (String × Collector)} :
    Stage workers cancelAt ⟨past, false, waiting, running⟩ ⟨past ++ [.cancel], true, waiting, running⟩
  | abandon {s : State} (isCancelled : s.isCancelled) : Stage workers cancelAt s s.abandon

abbrev Stages (workers : Nat) (cancelAt : Option Nat) : State → State → Prop :=
  Relation.ReflTransGen (Stage workers cancelAt)

theorem perm_add (due : Nat) (e : String × Collector) (running : Agenda (String × Collector)) :
    (running.add due e).Perm ((due, e) :: running) := by
  induction running with
  | nil => exact .refl _
  | cons b running ih =>
    simp only [Agenda.add]
    split
    · exact (ih.cons b).trans (.swap ..)
    · exact .refl _

theorem stages_fill (waiting : List (String × Collector)) (past : List Move) (running : Agenda (String × Collector)) :
    Stages workers cancelAt ⟨past, false, waiting, running⟩ (fill workers now waiting past running) := by
  induction waiting generalizing past running with
  | nil => exact .refl
  | cons e waiting ih =>
    simp only [fill]
    split
    · next hfree =>
      split
      · have hbegin : Stages workers cancelAt ⟨past, false, e :: waiting, running⟩
            ⟨past ++ beginning e ++ ending e, e.2.cancels, waiting, running⟩ :=
          (Relation.ReflTransGen.single (.begin now hfree (.refl _))).tail .finish
        split
        · next hc => rwa [hc] at hbegin
        · next hc =>
          rw [Bool.not_eq_true] at hc
          rw [hc] at hbegin
          exact hbegin.trans (ih ..)
      · exact .head (.begin _ hfree (perm_add ..)) (ih ..)
    · exact .refl

/-- After a fill nobody waits for a free worker. -/
theorem fill_waiting (waiting : List (String × Collector)) (past : List Move) (running : Agenda (String × Collector)) :
    (fill workers now waiting past running).isCancelled ∨ (fill workers now waiting past running).waiting = [] ∨
      workers ≤ (fill workers now waiting past running).running.length := by
  induction waiting generalizing past running with
  | nil => exact .inr (.inl rfl)
  | cons e waiting ih =>
    simp only [fill]
    split
    · split
      · split
        · exact .inl rfl
        · exact ih ..
      · exact ih ..
    · next hfull => exact .inr (.inr (Nat.le_of_not_lt hfull))

theorem stages_refill (s : State) : Stages workers cancelAt s (s.refill workers now) := by
  unfold State.refill
  split
  · next hc => exact .single (.abandon hc)
  · next hc =>
    obtain ⟨past, isCancelled, waiting, running⟩ := s
    rw [Bool.not_eq_true] at hc
    subst hc
    have hfill : Stages workers cancelAt ⟨past, false, waiting, running⟩ (fill workers now waiting past running) :=
      stages_fill ..
    simp only
    split
    · next hc => exact hfill.tail (.abandon hc)
    · exact hfill

/-- As long as someone waits someone runs. -/
theorem waiting_refill (hw : 0 < workers) (s : State) (hr : (s.refill workers now).running = []) :
    (s.refill workers now).waiting = [] := by
  unfold State.refill at hr ⊢
  split at hr
  · next hc => rw [if_pos hc]; rfl
  · next hc =>
    rw [if_neg hc]
    simp only at hr ⊢
    split at hr
    · next hc => rw [if_pos hc]; rfl
    · next hc =>
      rw [if_neg hc]
      have hfill := (fill_waiting s.waiting s.past s.running).resolve_left hc
      rw [hr] at hfill
      exact hfill.resolve_right (Nat.not_le.mpr hw)

theorem stages_fire (s : State) : Stages workers cancelAt s (s.fire cancelAt now) := by
  unfold State.fire
  split
  · next hc =>
    obtain ⟨past, isCancelled, waiting, running⟩ := s
    rw [Bool.and_eq_true, Bool.not_eq_true'] at hc
    obtain ⟨hgoes, hdue⟩ := hc
    simp only at hgoes
    subst hgoes
    have hsome : cancelAt.isSome := by
      obtain ⟨t, ht, -⟩ := (Option.any_eq_true ..).mp hdue
      rw [ht]
      rfl
    exact (Relation.ReflTransGen.single (.fire hsome)).tail (.abandon rfl)
  · exact .refl

theorem stages_end {b : Nat × (String × Collector)} (hr : s.running = b :: running) :
    Stages workers cancelAt s ⟨(s.fire cancelAt b.1).past ++ ending b.2,
      (s.fire cancelAt b.1).isCancelled || b.2.2.cancels, (s.fire cancelAt b.1).waiting, running⟩ := by
  have hfire : Stages workers cancelAt s (s.fire cancelAt b.1) := stages_fire s
  refine hfire.tail ?_
  have hrun : (s.fire cancelAt b.1).running = b :: running := (State.running_fire ..).trans hr
  generalize s.fire cancelAt b.1 = t at hrun ⊢
  obtain ⟨past, c, waiting, _⟩ := t
  cases hrun
  exact .finish

theorem stages_loop (hw : 0 < workers) (s : State) (hs : s.running = [] → s.waiting = []) :
    ∃ s', Stages workers cancelAt s s' ∧ s'.waiting = [] ∧ s'.running = [] ∧ loop workers cancelAt s = s'.past := by
  fun_induction loop workers cancelAt s with
  | case1 s hr => exact ⟨s, .refl, hs hr, hr, rfl⟩
  | case2 s b rest hr _ _ hsame ih =>
    have hrest : rest ≠ [] := by
      rintro rfl
      cases hsame
    obtain ⟨t, ht, hend⟩ := ih fun h => absurd h hrest
    exact ⟨t, (stages_end hr).trans ht, hend⟩
  | case3 s b rest hr _ _ _ ih =>
    obtain ⟨t, ht, hend⟩ := ih (waiting_refill hw _)
    exact ⟨t, (stages_end hr).trans ((stages_refill _).trans ht), hend⟩

theorem stages_moves (hw : 0 < workers) (cancelAt : Option Nat) (chosen : Dict String Collector) :
    ∃ s, Stages workers cancelAt ⟨[], cancelAt == some 0, chosen.toList, []⟩ s ∧ s.waiting = [] ∧ s.running = [] ∧
      moves workers cancelAt chosen = s.past := by
  let start : State := ⟨[], cancelAt == some 0, chosen.toList, []⟩
  obtain ⟨s, hs, hend⟩ : ∃ s, Stages workers cancelAt (start.refill workers 0) s ∧ s.waiting = [] ∧ s.running = [] ∧
      loop workers cancelAt (start.refill workers 0) = s.past := stages_loop hw _ (waiting_refill hw start)
  exact ⟨s, (stages_refill start).trans hs, hend⟩

/-! ### Stages as runs of the pool -/

theorem run_beginning {e : String × Collector} (ht : p.tasks.get? e.1 = some .waiting) (hfree : 0 < p.free)
    (hgoes : p.isCancelled = false) :
    ∃ p', p.moves? (beginning e) = some p' ∧ p'.isCancelled = false ∧ p'.free + 1 = p.free ∧
      ∀ j, p'.tasks.get? j = if j = e.1 then some .running else p.tasks.get? j := by
  refine ⟨(p.takePermit.setTask e.1 .admitted).setTask e.1 .running, ?_, hgoes, Nat.sub_add_cancel hfree, fun j => ?_⟩
  · simp [Pool.moves?, beginning, Pool.move?, ht, hfree, Pool.setTask, Pool.takePermit, hgoes]
  · rw [Pool.get?_setTask, Pool.get?_setTask]
    split <;> rfl

theorem run_ending {e : String × Collector} (ht : p.tasks.get? e.1 = some .running) :
    ∃ p', p.moves? (ending e) = some p' ∧ p'.isCancelled = (p.isCancelled || e.2.cancels) ∧ p'.free = p.free + 1 ∧
      ∀ j, p'.tasks.get? j = if j = e.1 then some (.ended (.collected e.2.result)) else p.tasks.get? j := by
  refine ⟨⟨p.free + 1, p.isCancelled || e.2.cancels, p.tasks.insert e.1 (.ended (.collected e.2.result))⟩,
    ?_, rfl, rfl, fun j => ?_⟩
  · cases hc : e.2.cancels <;> simp [Pool.moves?, ending, Pool.move?, ht, hc, Pool.setTask, Pool.putPermit]
  · exact Pool.get?_setTask p ..

theorem run_abandon (waiting : List (String × Collector)) (hn : (waiting.map Prod.fst).Nodup)
    (ht : ∀ e ∈ waiting, p.tasks.get? e.1 = some .waiting) (hc : p.isCancelled) :
    ∃ p', p.moves? (waiting.map fun e => .giveUp e.1) = some p' ∧ p'.isCancelled ∧ p'.free = p.free ∧
      ∀ j, p'.tasks.get? j =
        if j ∈ waiting.map Prod.fst then some (.ended .notStarted) else p.tasks.get? j := by
  induction waiting generalizing p with
  | nil => exact ⟨p, rfl, hc, rfl, fun _ => rfl⟩
  | cons e waiting ih =>
    obtain ⟨he, hn⟩ := List.nodup_cons.mp hn
    have hmove : p.move? (.giveUp e.1) = some (p.setTask e.1 (.ended .notStarted)) := by
      simp [Pool.move?, ht e (List.mem_cons_self ..), hc]
    have hrest (d : String × Collector) (hd : d ∈ waiting) :
        (p.setTask e.1 (.ended .notStarted)).tasks.get? d.1 = some .waiting := by
      have hne : d.1 ≠ e.1 := fun h => he (h ▸ List.mem_map_of_mem hd)
      rw [Pool.get?_setTask, if_neg hne]
      exact ht d (List.mem_cons_of_mem _ hd)
    obtain ⟨p', hp', hc', hfree, hget⟩ := ih hn hrest hc
    refine ⟨p', ?_, hc', hfree, fun j => ?_⟩
    · rw [Pool.moves?, List.map_cons, List.foldlM_cons, hmove]
      exact hp'
    · rw [hget, Pool.get?_setTask, List.map_cons]
      by_cases hj : j = e.1
      · rw [hj, if_neg he, if_pos rfl, if_pos (List.mem_cons_self ..)]
      · simp only [List.mem_cons, hj, false_or, if_false]

/-- Those that a schedule has as waiting or running. -/
def State.names (s : State) : List String := s.waiting.map Prod.fst ++ s.running.map fun b => b.2.1

/-- That a pool has come where a schedule has. -/
structure Fits (workers : Nat) (p₀ : Pool) (s : State) (p : Pool) : Prop where
  run : p₀.moves? s.past = some p
  isCancelled : p.isCancelled = s.isCancelled
  free : p.free + s.running.length = workers
  nodup : s.names.Nodup
  waiting : ∀ e ∈ s.waiting, p.tasks.get? e.1 = some .waiting
  running : ∀ b ∈ s.running, p.tasks.get? b.2.1 = some .running
  ended : ∀ name t, p.tasks.get? name = some t → name ∉ s.names → t.isEnded

theorem Fits.begin {p₀ : Pool} {e : String × Collector} {running' : Agenda (String × Collector)}
    (hf : Fits workers p₀ ⟨past, false, e :: waiting, running⟩ p) (hfree : running.length < workers)
    (hperm : running'.Perm ((due, e) :: running)) :
    ∃ p', Fits workers p₀ ⟨past ++ beginning e, false, waiting, running'⟩ p' := by
  have hleft : 0 < p.free := by
    have := hf.free
    simp only at this
    omega
  obtain ⟨p', hrun, hgoes, hfree', hget⟩ :=
    run_beginning (hf.waiting e (List.mem_cons_self ..)) hleft hf.isCancelled
  have hnames : (State.names ⟨past ++ beginning e, false, waiting, running'⟩).Perm
      (State.names ⟨past, false, e :: waiting, running⟩) := by
    simp only [State.names, List.map_cons, List.cons_append]
    exact ((hperm.map fun b => b.2.1).append_left _).trans List.perm_middle
  have he : e.1 ∉ waiting.map Prod.fst := fun h =>
    (List.nodup_cons.mp hf.nodup).1 (List.mem_append_left _ h)
  refine ⟨p', run_append.mpr ⟨p, hf.run, hrun⟩, hgoes, ?_, hnames.nodup_iff.mpr hf.nodup, ?_, ?_, ?_⟩
  · have hlen : running'.length = running.length + 1 := hperm.length_eq
    have := hf.free
    simp only at this ⊢
    omega
  · intro d hd
    have hne : d.1 ≠ e.1 := fun h => he (h ▸ List.mem_map_of_mem hd)
    rw [hget, if_neg hne]
    exact hf.waiting d (List.mem_cons_of_mem _ hd)
  · intro b hb
    rw [hget]
    split
    · rfl
    · next hne =>
      rcases List.mem_cons.mp (hperm.mem_iff.mp hb) with rfl | hb
      · exact absurd rfl hne
      · exact hf.running b hb
  · intro name t ht hname
    rw [hnames.mem_iff] at hname
    have hne : name ≠ e.1 := fun h => hname (h ▸ List.mem_cons_self ..)
    rw [hget, if_neg hne] at ht
    exact hf.ended name t ht hname

theorem Fits.finish {p₀ : Pool} {b : Nat × (String × Collector)} (hf : Fits workers p₀ ⟨past, c, waiting, b :: running⟩ p) :
    ∃ p', Fits workers p₀ ⟨past ++ ending b.2, c || b.2.2.cancels, waiting, running⟩ p' := by
  obtain ⟨p', hrun, hcancelled, hfree, hget⟩ := run_ending (hf.running b (List.mem_cons_self ..))
  have hnames : (State.names ⟨past, c, waiting, b :: running⟩).Perm
      (b.2.1 :: State.names ⟨past ++ ending b.2, c || b.2.2.cancels, waiting, running⟩) := List.perm_middle
  obtain ⟨hb, hn⟩ := List.nodup_cons.mp (hnames.nodup_iff.mp hf.nodup)
  refine ⟨p', run_append.mpr ⟨p, hf.run, hrun⟩, ?_, ?_, hn, ?_, ?_, ?_⟩
  · rw [hcancelled, hf.isCancelled]
  · have := hf.free
    simp only [List.length_cons] at this ⊢
    omega
  · intro e he
    have hne : e.1 ≠ b.2.1 := fun h => hb (h ▸ List.mem_append_left _ (List.mem_map_of_mem he))
    rw [hget, if_neg hne]
    exact hf.waiting e he
  · intro d hd
    have hne : d.2.1 ≠ b.2.1 := fun h => hb (h ▸ List.mem_append_right _ (List.mem_map_of_mem hd))
    rw [hget, if_neg hne]
    exact hf.running d (List.mem_cons_of_mem _ hd)
  · intro name t ht hname
    rw [hget] at ht
    split at ht
    · cases ht
      rfl
    · next hne =>
      refine hf.ended name t ht fun h => ?_
      rcases List.mem_cons.mp (hnames.mem_iff.mp h) with h | h
      · exact hne h
      · exact hname h

theorem Fits.fire {p₀ : Pool} (hf : Fits workers p₀ ⟨past, c, waiting, running⟩ p) :
    Fits workers p₀ ⟨past ++ [.cancel], true, waiting, running⟩ { p with isCancelled := true } :=
  ⟨run_append.mpr ⟨p, hf.run, rfl⟩, rfl, hf.free, hf.nodup, hf.waiting, hf.running, hf.ended⟩

theorem Fits.abandon {p₀ : Pool} (hf : Fits workers p₀ s p) (hc : s.isCancelled) :
    ∃ p', Fits workers p₀ s.abandon p' := by
  obtain ⟨hn, hn', hdisjoint⟩ := List.nodup_append.mp hf.nodup
  obtain ⟨p', hrun, hcancelled, hfree, hget⟩ := run_abandon s.waiting hn hf.waiting (hf.isCancelled.trans hc)
  refine ⟨p', run_append.mpr ⟨p, hf.run, hrun⟩, ?_, ?_, hn', nofun, ?_, ?_⟩
  · exact hcancelled.trans hc.symm
  · rw [hfree]
    exact hf.free
  · intro b hb
    rw [hget, if_neg fun h => hdisjoint _ h _ (List.mem_map_of_mem hb) rfl]
    exact hf.running b hb
  · intro name t ht hname
    rw [hget] at ht
    split at ht
    · cases ht
      rfl
    · next hne => exact hf.ended name t ht fun h => (List.mem_append.mp h).elim hne hname

theorem Fits.stages {p₀ : Pool} (hf : Fits workers p₀ s p) (hs : Stages workers cancelAt s s') :
    ∃ p', Fits workers p₀ s' p' := by
  induction hs with
  | refl => exact ⟨p, hf⟩
  | tail _ hstage ih =>
    obtain ⟨q, hq⟩ := ih
    cases hstage with
    | begin due hfree hperm => exact hq.begin hfree hperm
    | finish => exact hq.finish
    | fire => exact ⟨_, hq.fire⟩
    | abandon hc => exact hq.abandon hc

theorem Fits.start (workers : Nat) (c : Bool) (chosen : Dict String Collector) :
    Fits workers (.fresh workers c chosen) ⟨[], c, chosen.toList, []⟩ (.fresh workers c chosen) where
  run := rfl
  isCancelled := rfl
  free := rfl
  nodup := by
    rw [State.names, List.map_nil, List.append_nil]
    exact Dict.nodup_keys chosen
  waiting e he := by
    rw [Pool.fresh, Dict.get?_mapValues, Dict.mem_toList_iff.mp he]
    rfl
  running := nofun
  ended name t ht hname := by
    rw [Pool.fresh, Dict.get?_mapValues] at ht
    obtain ⟨k, hk, -⟩ := Option.map_eq_some_iff.mp ht
    exact absurd (List.mem_append_left _ (List.mem_map_of_mem (Dict.mem_toList_iff.mpr hk))) hname

/-- The moves of a schedule are a run of the pool in which all end. -/
theorem isDone_of_moves (hw : 0 < workers) (cancelAt : Option Nat) (chosen : Dict String Collector) :
    ∃ p, (Pool.fresh workers (cancelAt == some 0) chosen).moves? (moves workers cancelAt chosen) = some p ∧ p.isDone := by
  obtain ⟨s, hs, hwaiting, hrunning, heq⟩ := stages_moves hw cancelAt chosen
  obtain ⟨p, hf⟩ := (Fits.start workers (cancelAt == some 0) chosen).stages hs
  refine ⟨p, heq ▸ hf.run, Pool.isDone_iff.mpr fun name t ht => hf.ended name t ht ?_⟩
  rw [State.names, hwaiting, hrunning]
  exact List.not_mem_nil

/-! ### What the moves of a schedule are -/

/-- That a schedule lets the chosen collectors end as they do, and cancels only if it is to. -/
structure Faithful (cancelAt : Option Nat) (chosen : Dict String Collector) (s : State) : Prop where
  waiting : ∀ e ∈ s.waiting, e ∈ chosen.toList
  running : ∀ b ∈ s.running, b.2 ∈ chosen.toList
  finish : ∀ name r, .finish name r ∈ s.past → ∃ k, chosen.get? name = some k ∧ k.result = r
  cancel : .cancel ∈ s.past → cancelAt.isSome ∨ ∃ name k, chosen.get? name = some k ∧ k.cancels

theorem Faithful.begin {e : String × Collector} {running' : Agenda (String × Collector)}
    (hf : Faithful cancelAt chosen ⟨past, false, e :: waiting, running⟩) (hperm : running'.Perm ((due, e) :: running)) :
    Faithful cancelAt chosen ⟨past ++ beginning e, false, waiting, running'⟩ where
  waiting d hd := hf.waiting d (List.mem_cons_of_mem _ hd)
  running := by
    intro b hb
    rcases List.mem_cons.mp (hperm.mem_iff.mp hb) with rfl | hb
    · exact hf.waiting e (List.mem_cons_self ..)
    · exact hf.running b hb
  finish := by simpa [beginning] using hf.finish
  cancel := by simpa [beginning] using hf.cancel

theorem mem_ending {e : String × Collector} {m : Move} (h : m ∈ ending e) :
    m = .cancel ∧ e.2.cancels ∨ m = .finish e.1 e.2.result := by
  unfold ending at h
  rcases List.mem_append.mp h with h | h
  · split at h
    · next hc => exact .inl ⟨List.mem_singleton.mp h, hc⟩
    · cases h
  · exact .inr (List.mem_singleton.mp h)

theorem Faithful.end {b : Nat × (String × Collector)} (hf : Faithful cancelAt chosen ⟨past, c, waiting, b :: running⟩) :
    Faithful cancelAt chosen ⟨past ++ ending b.2, c || b.2.2.cancels, waiting, running⟩ := by
  have hb : chosen.get? b.2.1 = some b.2.2 := Dict.mem_toList_iff.mp (hf.running b (List.mem_cons_self ..))
  refine ⟨hf.waiting, fun d hd => hf.running d (List.mem_cons_of_mem _ hd), fun name r h => ?_, fun h => ?_⟩
  · rcases List.mem_append.mp h with h | h
    · exact hf.finish name r h
    · rcases mem_ending h with ⟨hm, -⟩ | hm
      · cases hm
      · cases hm
        exact ⟨b.2.2, hb, rfl⟩
  · rcases List.mem_append.mp h with h | h
    · exact hf.cancel h
    · rcases mem_ending h with ⟨-, hc⟩ | hm
      · exact .inr ⟨b.2.1, b.2.2, hb, hc⟩
      · cases hm

theorem Faithful.stages (hf : Faithful cancelAt chosen s) (hs : Stages workers cancelAt s s') :
    Faithful cancelAt chosen s' := by
  induction hs with
  | refl => exact hf
  | tail _ hstage hq =>
    cases hstage with
    | begin due hfree hperm => exact hq.begin hperm
    | finish => exact hq.end
    | fire hdue => exact ⟨hq.waiting, hq.running, by simpa using hq.finish, fun _ => .inl hdue⟩
    | abandon hc => exact ⟨nofun, hq.running, by simpa [State.abandon] using hq.finish, by simpa [State.abandon] using hq.cancel⟩

theorem faithful_moves (hw : 0 < workers) (cancelAt : Option Nat) (chosen : Dict String Collector) :
    (∀ name r, .finish name r ∈ moves workers cancelAt chosen → ∃ k, chosen.get? name = some k ∧ k.result = r) ∧
    (.cancel ∈ moves workers cancelAt chosen → cancelAt.isSome ∨ ∃ name k, chosen.get? name = some k ∧ k.cancels) := by
  obtain ⟨s, hs, -, -, heq⟩ := stages_moves hw cancelAt chosen
  have hstart : Faithful cancelAt chosen ⟨[], cancelAt == some 0, chosen.toList, []⟩ := ⟨fun _ h => h, nofun, nofun, nofun⟩
  rw [heq]
  exact ⟨(hstart.stages hs).finish, (hstart.stages hs).cancel⟩

end EndpointWatch.Schedule
