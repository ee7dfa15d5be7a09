import Mathlib.Data.List.Induction

/-!
# Runs of a step function

A run takes one step after the other and is over when a step is impossible. What every possible step keeps, every
run keeps (`keeps_of_run`), also where it speaks of the steps that were taken (`holds_of_run`) or only of states that a
run leads to (`holds_along_run`).
-/

namespace EndpointWatch

variable {σ μ : Type} {step : σ → μ → Option σ}

theorem run_cons {s s' : σ} {m : μ} {ms : List μ} (h : (m :: ms).foldlM step s = some s') :
    ∃ t, step s m = some t ∧ ms.foldlM step t = some s' := by
  rw [List.foldlM_cons] at h
  exact Option.bind_eq_some_iff.mp h

theorem run_of_step {s t s' : σ} {m : μ} {ms : List μ} (hstep : step s m = some t) (h : ms.foldlM step t = some s') :
    (m :: ms).foldlM step s = some s' := by
  rw [List.foldlM_cons, hstep]
  exact h

/-- A property that every possible step keeps holds at the end of a run that began with it. -/
theorem keeps_of_run {P : σ → Prop} (keeps : ∀ s m s', P s → step s m = some s' → P s') (ms : List μ) {s s' : σ}
    (hs : P s) (h : ms.foldlM step s = some s') : P s' := by
  induction ms generalizing s with
  | nil => cases h; exact hs
  | cons m ms ih =>
    obtain ⟨t, ht, h⟩ := run_cons h
    exact ih (keeps s m t hs ht) h

/-- A step that is impossible as long as a property holds is taken in no run that begins with it. -/
theorem not_mem_of_run {P : σ → Prop} {v : μ} (keeps : ∀ s m s', P s → step s m = some s' → P s')
    (blocks : ∀ s, P s → step s v = none) (ms : List μ) {s s' : σ} (hs : P s) (h : ms.foldlM step s = some s') :
    v ∉ ms := by
  induction ms generalizing s with
  | nil => exact List.not_mem_nil
  | cons m ms ih =>
    obtain ⟨t, ht, h⟩ := run_cons h
    rintro hmem
    rcases List.mem_cons.mp hmem with rfl | hmem
    · rw [blocks s hs] at ht
      cases ht
    · exact ih (keeps s m t hs ht) h hmem

theorem run_append {s s' : σ} {ms ms' : List μ} :
    (ms ++ ms').foldlM step s = some s' ↔ ∃ t, ms.foldlM step s = some t ∧ ms'.foldlM step t = some s' := by
  rw [List.foldlM_append]
  exact Option.bind_eq_some_iff

/-- What is true of the steps so far and of where they led stays true if every step that a run can take next keeps it. -/
theorem holds_along_run {s₀ : σ} {Q : List μ → σ → Prop} (start : Q [] s₀)
    (keeps : ∀ ms s m s', ms.foldlM step s₀ = some s → Q ms s → step s m = some s' → Q (ms ++ [m]) s') (ms : List μ)
    {s : σ} (h : ms.foldlM step s₀ = some s) : Q ms s := by
  induction ms using List.reverseRecOn generalizing s with
  | nil => cases h; exact start
  | append_singleton ms m ih =>
    obtain ⟨t, ht, h⟩ := run_append.mp h
    obtain ⟨u, hu, h⟩ := run_cons h
    cases h
    exact keeps ms t m s ht (ih ht) hu

theorem holds_of_run {s₀ : σ} {Q : List μ → σ → Prop} (start : Q [] s₀)
    (keeps : ∀ ms s m s', Q ms s → step s m = some s' → Q (ms ++ [m]) s') (ms : List μ) {s : σ}
    (h : ms.foldlM step s₀ = some s) : Q ms s :=
  holds_along_run start (fun ms s m s' _ => keeps ms s m s') ms h

/-- What a log with one entry more tells. -/
theorem filterMap_concat {α β : Type} (f : α → Option β) (l : List α) (a : α) :
    (l ++ [a]).filterMap f = l.filterMap f ++ (f a).toList := by
  rw [List.filterMap_append]
  cases hf : f a <;> simp [hf]

end EndpointWatch
