import EndpointWatch.Collector.Schedule
import EndpointWatch.Proofs.Dict
import EndpointWatch.Proofs.Run

/-!
# The turns of a pool

Every move of a pool fires the cancellation or changes one collector, as `Change` has it, and then the permits that are
left and those that are held stay the same in sum (`Step`). So what has become of each collector is what the moves so far
tell (`Books.of_run`), and each turn leaves fewer to come (`Step.turnsLeft_lt`).
-/

namespace EndpointWatch

namespace Task

/-- How many permits a collector holds. -/
def permits : Task → Nat
  | admitted | running => 1
  | waiting | ended _ => 0

/-- How many turns a collector can still have. -/
def turnsLeft : Task → Nat
  | waiting => 3
  | admitted => 2
  | running => 1
  | ended _ => 0

def wasStarted : Task → Bool
  | running | ended (.collected _) => true
  | waiting | admitted | ended .notStarted => false

end Task

namespace Pool

open Schedule (started)

variable {p p' p₀ : Pool} {c : Bool} {m : Move} {ms : List Move} {name : String} {t old new : Task}

/-! ### Moves -/

theorem get?_setTask (p : Pool) (name j : String) (t : Task) :
    (p.setTask name t).tasks.get? j = if j = name then some t else p.tasks.get? j := by
  split
  · next hj => rw [hj]; exact Dict.get?_insert_self ..
  · next hj => exact Dict.get?_insert_of_ne hj

theorem isDone_iff : p.isDone ↔ ∀ name t, p.tasks.get? name = some t → t.isEnded := by
  simp only [isDone, List.all_eq_true, Dict.mem_values_iff]
  exact ⟨fun h name t ht => h t ⟨name, ht⟩, fun h t ⟨name, ht⟩ => h name t ht⟩

/-- How a move changes a collector. -/
inductive Change (isCancelled : Bool) (name : String) : Move → Task → Task → Prop where
  | enter : Change isCancelled name (.enter name) .waiting .admitted
  | start (goes : isCancelled = false) : Change isCancelled name (.start name) .admitted .running
  | finish (r : Collected) : Change isCancelled name (.finish name r) .running (.ended (.collected r))
  | withdraw (cancelled : isCancelled) : Change isCancelled name (.giveUp name) .waiting (.ended .notStarted)
  | giveUp (cancelled : isCancelled) : Change isCancelled name (.giveUp name) .admitted (.ended .notStarted)

/-- What each move does to the pool that it meets. -/
inductive Step (p : Pool) : Move → Pool → Prop where
  | cancel : Step p .cancel { p with isCancelled := true }
  | turn {m : Move} {name : String} {old new : Task} {free : Nat} (task : p.tasks.get? name = some old)
      (change : Change p.isCancelled name m old new) (free_eq : free + new.permits = p.free + old.permits) :
    Step p m ⟨free, p.isCancelled, p.tasks.insert name new⟩

theorem step_of_move? (hm : p.move? m = some p') : Step p m p' := by
  cases m with
  | enter name =>
    simp only [move?] at hm
    split at hm
    · next ht =>
      rw [Option.ite_none_right_eq_some, Option.some.injEq] at hm
      obtain ⟨hfree, rfl⟩ := hm
      exact .turn ht .enter (Nat.sub_add_cancel hfree)
    · cases hm
  | start name =>
    simp only [move?] at hm
    split at hm
    · next ht =>
      rw [Option.ite_none_left_eq_some, Bool.not_eq_true, Option.some.injEq] at hm
      obtain ⟨hgoes, rfl⟩ := hm
      exact .turn ht (.start hgoes) rfl
    · cases hm
  | finish name r =>
    simp only [move?] at hm
    split at hm
    · next ht =>
      cases hm
      exact .turn ht (.finish r) rfl
    · cases hm
  | cancel =>
    cases hm
    exact .cancel
  | giveUp name =>
    simp only [move?] at hm
    split at hm
    · next ht =>
      rw [Option.ite_none_right_eq_some, Option.some.injEq] at hm
      obtain ⟨hcancelled, rfl⟩ := hm
      exact .turn ht (.withdraw hcancelled) rfl
    · next ht =>
      rw [Option.ite_none_right_eq_some, Option.some.injEq] at hm
      obtain ⟨hcancelled, rfl⟩ := hm
      exact .turn ht (.giveUp hcancelled) rfl
    · cases hm

/-- A change of a collector is possible, where it takes a permit only if one is left. -/
theorem isSome_move?_of_change (ht : p.tasks.get? name = some old) (hc : Change p.isCancelled name m old new)
    (hfree : m = .enter name → 0 < p.free) : (p.move? m).isSome := by
  cases hc with
  | enter => simp [move?, ht, hfree rfl]
  | start hgoes => simp [move?, ht, hgoes]
  | finish r => simp [move?, ht]
  | withdraw hcancelled | giveUp hcancelled => simp [move?, ht, hcancelled]

theorem Step.isCancelled (hs : Step p m p') : p.isCancelled → p'.isCancelled := by
  intro h
  cases hs with
  | cancel => rfl
  | turn => exact h

theorem Step.keys (hs : Step p m p') : p'.tasks.keys = p.tasks.keys := by
  cases hs with
  | cancel => rfl
  | turn ht _ _ => exact Dict.keys_insert_of_get? ht _

/-! ### What the moves so far tell -/

def Move.isTurn : Move → Bool
  | cancel => false
  | enter _ | start _ | finish .. | giveUp _ => true

def held (p : Pool) : Nat := (p.tasks.values.map Task.permits).sum

def turnsLeft (p : Pool) : Nat := (p.tasks.values.map Task.turnsLeft).sum

theorem Step.permits_eq (hs : Step p m p') : p'.free + p'.held = p.free + p.held := by
  cases hs with
  | cancel => rfl
  | turn ht _ hfree =>
    have hsum := Dict.sum_values_insert Task.permits ht ‹_›
    simp only [held]
    omega

theorem Change.turnsLeft_lt (hc : Change c name m old new) : m.isTurn ∧ new.turnsLeft < old.turnsLeft := by
  cases hc <;> simp [Move.isTurn, Task.turnsLeft]

theorem Step.turnsLeft_lt (hs : Step p m p') : p'.turnsLeft + (if m.isTurn then 1 else 0) ≤ p.turnsLeft := by
  cases hs with
  | cancel => exact Nat.le_refl _
  | turn ht hc _ =>
    obtain ⟨hturn, hlt⟩ := hc.turnsLeft_lt
    have hsum := Dict.sum_values_insert Task.turnsLeft ht ‹_›
    simp only [turnsLeft, hturn, if_true]
    omega

/-- What the moves so far say of a pool in which the given collectors were chosen. -/
structure Books (workers : Nat) (chosen : List String) (cancelled : Bool) (ms : List Move) (p : Pool) : Prop where
  permits_eq : p.free + p.held = workers
  keys : p.tasks.keys = chosen
  turnsLeft_le : p.turnsLeft + ms.countP Move.isTurn ≤ 3 * chosen.length
  isCancelled : p.isCancelled → cancelled ∨ .cancel ∈ ms
  nodup_started : (started ms).Nodup
  mem_started : ∀ name, name ∈ started ms ↔ (p.tasks.get? name).any Task.wasStarted
  finished : ∀ name r, p.tasks.get? name = some (.ended (.collected r)) → .finish name r ∈ ms
  notStarted : ∀ name, p.tasks.get? name = some (.ended .notStarted) → p.isCancelled

theorem sum_fresh {ν : Type} (f : Task → Nat) (workers : Nat) (chosen : Dict String ν) :
    ((Pool.fresh workers c chosen).tasks.values.map f).sum = chosen.keys.length * f .waiting := by
  rw [Pool.fresh, Dict.values_mapValues, List.map_map, Function.comp_def, List.map_const', List.sum_replicate_nat,
    Dict.values, Dict.keys, List.length_map, List.length_map]

theorem get?_fresh {ν : Type} {workers : Nat} {chosen : Dict String ν}
    (h : (Pool.fresh workers c chosen).tasks.get? name = some t) : t = .waiting := by
  rw [Pool.fresh, Dict.get?_mapValues] at h
  obtain ⟨_, -, rfl⟩ := Option.map_eq_some_iff.mp h
  rfl

theorem started_concat (ms : List Move) (m : Move) :
    started (ms ++ [m]) = started ms ++ (match m with | .start name => some name | _ => none).toList :=
  filterMap_concat ..

theorem started_concat_of_change (hc : Change c name m old new) (ms : List Move) :
    started (ms ++ [m]) = started ms ++ if !old.wasStarted && new.wasStarted then [name] else [] := by
  rw [started_concat]
  cases hc <;> rfl

namespace Books

variable {workers : Nat} {chosen : List String}

theorem fresh {ν : Type} (workers : Nat) (c : Bool) (chosen : Dict String ν) :
    Books workers chosen.keys c [] (.fresh workers c chosen) where
  permits_eq := by rw [held, sum_fresh]; rfl
  keys := Dict.keys_mapValues ..
  turnsLeft_le := by rw [turnsLeft, sum_fresh, Task.turnsLeft, List.countP_nil, Nat.mul_comm]; exact Nat.le_refl _
  isCancelled := .inl
  nodup_started := .nil
  mem_started name := by
    constructor
    · exact nofun
    · intro h
      obtain ⟨t, ht, hwas⟩ := (Option.any_eq_true ..).mp h
      rw [get?_fresh ht] at hwas
      cases hwas
  finished name r h := nomatch get?_fresh h
  notStarted name h := nomatch get?_fresh h

theorem mem_started_step (hb : Books workers chosen c ms p) (hs : Step p m p') (name : String) :
    name ∈ started (ms ++ [m]) ↔ (p'.tasks.get? name).any Task.wasStarted := by
  cases hs with
  | cancel => rw [started_concat, Option.toList_none, List.append_nil]; exact hb.mem_started name
  | @turn _ k old new _ ht hc _ =>
    rw [started_concat_of_change hc, List.mem_append, hb.mem_started]
    by_cases hk : name = k
    · subst hk
      rw [ht, Dict.get?_insert_self]
      cases hc <;> simp [Task.wasStarted]
    · rw [Dict.get?_insert_of_ne hk]
      refine or_iff_left fun hmem => hk ?_
      split at hmem
      · exact List.mem_singleton.mp hmem
      · cases hmem

theorem nodup_started_step (hb : Books workers chosen c ms p) (hs : Step p m p') : (started (ms ++ [m])).Nodup := by
  cases hs with
  | cancel =>
    rw [started_concat, Option.toList_none, List.append_nil]
    exact hb.nodup_started
  | @turn _ k old new _ ht hc _ =>
    rw [started_concat_of_change hc]
    split
    · next hnew =>
      rw [Bool.and_eq_true, Bool.not_eq_true'] at hnew
      have hk : k ∉ started ms := by
        rw [hb.mem_started, ht, Option.any_some, hnew.1]
        exact Bool.false_ne_true
      exact List.nodup_append.mpr ⟨hb.nodup_started, List.pairwise_singleton ..,
        fun n hn k' hk' he => hk (List.mem_singleton.mp hk' ▸ he ▸ hn)⟩
    · rw [List.append_nil]
      exact hb.nodup_started

theorem finished_step (hb : Books workers chosen c ms p) (hs : Step p m p') {r : Collected}
    (ht' : p'.tasks.get? name = some (.ended (.collected r))) : .finish name r ∈ ms ++ [m] := by
  cases hs with
  | cancel => exact List.mem_append_left _ (hb.finished name r ht')
  | turn ht hc _ =>
    rcases Dict.eq_some_of_get?_insert ht' with ⟨rfl, heq⟩ | ⟨-, hold⟩
    · cases heq
      cases hc with
      | finish r => exact List.mem_append_right _ (List.mem_singleton_self _)
    · exact List.mem_append_left _ (hb.finished name r hold)

theorem notStarted_step (hb : Books workers chosen c ms p) (hs : Step p m p')
    (ht' : p'.tasks.get? name = some (.ended .notStarted)) : p'.isCancelled := by
  cases hs with
  | cancel => rfl
  | turn ht hc _ =>
    rcases Dict.eq_some_of_get?_insert ht' with ⟨rfl, heq⟩ | ⟨-, hold⟩
    · cases heq
      cases hc with
      | withdraw hcancelled | giveUp hcancelled => exact hcancelled
    · exact hb.notStarted name hold

theorem step (hb : Books workers chosen c ms p) (hs : Step p m p') : Books workers chosen c (ms ++ [m]) p' where
  permits_eq := hs.permits_eq.trans hb.permits_eq
  keys := hs.keys.trans hb.keys
  turnsLeft_le := by
    have hle := hb.turnsLeft_le
    have hlt := hs.turnsLeft_lt
    rw [List.countP_append, List.countP_singleton]
    omega
  isCancelled := by
    intro h
    cases hs with
    | cancel => exact .inr (List.mem_append_right _ (List.mem_singleton_self _))
    | turn => exact (hb.isCancelled h).imp_right (List.mem_append_left _)
  nodup_started := hb.nodup_started_step hs
  mem_started := hb.mem_started_step hs
  finished _ _ := hb.finished_step hs
  notStarted _ := hb.notStarted_step hs

end Books

theorem Books.of_run {ν : Type} {workers : Nat} {chosen : Dict String ν}
    (h : (Pool.fresh workers c chosen).moves? ms = some p) : Books workers chosen.keys c ms p :=
  holds_of_run (Books.fresh workers c chosen) (fun _ _ _ _ hb hm => hb.step (step_of_move? hm)) ms h

end Pool

end EndpointWatch
