import EndpointWatch.Proofs.Retry.Cut

/-!
# A cancellation during the last call

A cancellation is looked for before a call and during a wait, and after the last call there is neither. So a run that is
cancelled before it returns gives a value or reports the cancellation, except if every call fails that the policy allows
and the cancellation fires after the last of them has begun (`reportsCancellation_iff`): then it reports the error of
that call.
-/

namespace EndpointWatch.Retry

variable {ε τ α : Type} [Magnitude α]

/-- That a cancellation fires before a run returns. -/
def FiresDuring (op : Nat → Call ε τ) (fires? : Option Firing) (r : Run ε τ) : Prop :=
  ∃ f, firingIn op 0 r.starts fires? = some f ∧ f.precedes r.starts.length r.ended

/-- That a run, if it is cancelled before it returns, gives a value or reports the cancellation. -/
def ReportsCancellation (op : Nat → Call ε τ) (fires? : Option Firing) (r : Run ε τ) : Prop :=
  FiresDuring op fires? r → (∃ v, r.result = .ok v) ∨ r.result = .error .cancelled

/-- That every call fails that a bound on their number allows, and a cancellation fires after the last of them has begun
and before it is over. `starts` tells when the calls of the run without a cancellation begin. -/
def FiresInLastCall (op : Nat → Call ε τ) (bound : Nat) (fires? : Option Firing) (starts : List Nat) : Prop :=
  (∀ n < bound, (op n).result.isOk = false) ∧
    ∃ f s, firingIn op 0 starts fires? = some f ∧ starts.getLast? = some s ∧
      ¬f.precedes (bound - 1) s ∧ f.precedes bound (s + (op (bound - 1)).lasts)

variable {p : Policy α} {op : Nat → Call ε τ} {draw : Nat → Nat} {woken : Nat → Bool} {now i : Nat} {r : Run ε τ}
  {f : Firing} {fires? : Option Firing} {starts : List Nat}

theorem runUntil_eq_cut (p : Policy α) (op : Nat → Call ε τ) (now : Nat) (at? : Option Nat) (order : Nat)
    (draw : Nat → Nat) (woken : Nat → Bool) : p.runUntil op now at? order draw woken =
      (p.run op now draw).cut op 0 now (firingIn op 0 (p.run op now draw).starts (at?.map (⟨·, order⟩))) :=
  runUntilFrom_eq_cut p.maxAttempts_normalized_pos now _

/-- All calls of a run begin before a cancellation fires exactly if the last one does. -/
theorem callsBefore_eq_length_iff (hsorted : starts.Pairwise (· ≤ ·)) {s : Nat} (hs : starts.getLast? = some s) :
    callsBefore (some f) starts = starts.length ↔ ¬f.precedes (starts.length - 1) s := by
  obtain ⟨init, rfl⟩ := List.getLast?_eq_some_iff.mp hs
  constructor
  · intro hall
    have hlast : (init ++ [s])[init.length]? = some s := List.getElem?_concat_length
    have hlt : init.length < begunBefore f 0 (init ++ [s]) := by
      rw [show begunBefore f 0 (init ++ [s]) = _ from hall]
      simp
    have hnot := not_precedes_of_lt_begunBefore hsorted hlast hlt
    simpa using hnot
  · intro hnot
    rw [← Nat.zero_add (_ - 1)] at hnot
    refine begunBefore_eq_length hnot fun t ht => ?_
    rcases List.mem_append.mp ht with ht | ht
    · exact (List.pairwise_append.mp hsorted).2.2 t ht s (List.mem_singleton_self s)
    · exact Nat.le_of_eq (List.mem_singleton.mp ht)

namespace Course

theorem value (h : Course p op draw 0 now i r) (hok : (op i).result.isOk) : ∃ v, r.result = .ok v := by
  have hends := h.ends
  unfold Ends at hends
  rw [Nat.zero_add] at hends
  cases hres : (op i).result with
  | ok v =>
    rw [hres] at hends
    exact ⟨v, hends.1⟩
  | error e =>
    rw [hres] at hok
    cases hok

/-- A run whose last call fails has made all calls that it may, and all of them failed. -/
theorem exhausted (h : Course p op draw 0 now i r) (hfail : (op i).result.isOk = false) :
    p.maxAttempts.toNat = i + 1 ∧ (∀ n < i + 1, (op n).result.isOk = false) ∧
      ∃ e, r.result = .error (.exhausted p.maxAttempts e) := by
  have hends := h.ends
  unfold Ends at hends
  rw [Nat.zero_add] at hends
  cases hres : (op i).result with
  | ok v =>
    rw [hres] at hfail
    cases hfail
  | error e =>
    rw [hres] at hends
    obtain ⟨hstop, -, hspent⟩ := hends
    refine ⟨hspent, fun n hn => ?_, e, hstop⟩
    rcases Nat.lt_succ_iff_lt_or_eq.mp hn with hn | rfl
    · have hearlier := h.failing n hn
      rwa [Nat.zero_add] at hearlier
    · exact hfail

theorem fails_of_firesInLastCall (h : Course p op draw 0 now i r)
    (hlast : FiresInLastCall op p.maxAttempts.toNat fires? r.starts) : (op i).result.isOk = false :=
  hlast.1 i (by have := h.bound; omega)

end Course

/-- What becomes of a run that is cut off where a cancellation fires. -/
theorem reportsCancellation_cut_iff (h : Course p op draw 0 now i r) (hsorted : r.starts.Pairwise (· ≤ ·)) :
    ReportsCancellation op fires? (r.cut op 0 now (firingIn op 0 r.starts fires?)) ↔
      ¬FiresInLastCall op p.maxAttempts.toNat fires? r.starts := by
  have hlen := h.length
  obtain ⟨s, hs, hended⟩ := Option.map_eq_some_iff.mp h.ended
  rw [Nat.zero_add] at hended
  by_cases hall : callsBefore (firingIn op 0 r.starts fires?) r.starts = r.starts.length
  · -- the run is not cut short
    rw [cut_of_eq_length hall]
    cases hres : (op i).result.isOk with
    | true =>
      refine iff_of_true (fun _ => .inl (h.value hres)) fun hlast => ?_
      rw [h.fails_of_firesInLastCall hlast] at hres
      cases hres
    | false =>
      obtain ⟨hbound, hfail, e, he⟩ := h.exhausted hres
      have hreports : ReportsCancellation op fires? r ↔ ¬FiresDuring op fires? r := by
        refine imp_congr_right fun _ => iff_of_false ?_ id
        rw [he]
        rintro (⟨v, hv⟩ | hv) <;> cases hv
      rw [hreports]
      refine not_congr ⟨?_, ?_⟩
      · rintro ⟨f, hf, hpre⟩
        rw [hf, callsBefore_eq_length_iff hsorted hs] at hall
        rw [hlen, ← hended] at hpre
        rw [hlen] at hall
        rw [FiresInLastCall, hbound]
        exact ⟨hfail, f, s, hf, hs, hall, hpre⟩
      · rintro ⟨-, f, t, hf, ht, -, hpre⟩
        obtain rfl : s = t := Option.some.inj (hs.symm.trans ht)
        rw [hbound, Nat.add_sub_cancel, hended, ← hlen] at hpre
        exact ⟨f, hf, hpre⟩
  · obtain ⟨f, hf, hcut⟩ := cut_of_lt_length op now (Nat.lt_of_le_of_ne (callsBefore_le_length ..) hall)
    rw [hcut]
    refine iff_of_true (fun _ => .inr rfl) fun hlast => hall ?_
    obtain ⟨hbound, -⟩ := h.exhausted (h.fails_of_firesInLastCall hlast)
    obtain ⟨-, f', s', hf', hs', hnot, -⟩ := hlast
    obtain rfl : f = f' := Option.some.inj (hf.symm.trans hf')
    rw [hf, callsBefore_eq_length_iff hsorted hs', hlen]
    rwa [hbound] at hnot

/-- A run that watches a cancellation reports it as it should, unless every call fails that the policy allows and the
cancellation fires during the last of them. -/
theorem reportsCancellation_iff (p : Policy α) (op : Nat → Call ε τ) (now : Nat) (at? : Option Nat) (order : Nat)
    (draw : Nat → Nat) (woken : Nat → Bool) :
    ReportsCancellation op (at?.map (⟨·, order⟩)) (p.runUntil op now at? order draw woken) ↔
      ¬FiresInLastCall op p.normalized.maxAttempts.toNat (at?.map (⟨·, order⟩)) (p.run op now draw).starts := by
  obtain ⟨i, h⟩ : ∃ i, Course p.normalized op draw 0 now i (p.run op now draw) :=
    course_runFrom p.maxAttempts_normalized_pos
  rw [runUntil_eq_cut]
  exact reportsCancellation_cut_iff h (pairwise_starts_runFrom p.maxAttempts_normalized_pos)

/-- The only call that the policy allows takes from 0 to 10 and fails. A cancellation at 5 is not reported. -/
theorem exhausted_though_cancelled :
    let op : Nat → Call String Unit := fun _ => ⟨10, .error "i/o timeout", false⟩
    let r := (⟨1, 100_000_000, 10_000_000_000, 2, false⟩ : Policy Rat).runUntil op 0 (some 5)
    r = ⟨[0], 1, 10, .error (.exhausted 1 "i/o timeout")⟩ ∧ FiresDuring op (some ⟨5, 0⟩) r ∧
      ¬ReportsCancellation op (some ⟨5, 0⟩) r := by
  intro op r
  have hr : r = ⟨[0], 1, 10, .error (.exhausted 1 "i/o timeout")⟩ := by
    show runUntilFrom _ op _ _ 0 0 (some ⟨5, 0⟩) _ = _
    rw [runUntilFrom]
    rfl
  have hfires : FiresDuring op (some ⟨5, 0⟩) r := by
    rw [hr]
    exact ⟨⟨5, 0⟩, rfl, rfl⟩
  refine ⟨hr, hfires, fun hreports => ?_⟩
  rw [hr] at hreports hfires
  rcases hreports hfires with ⟨v, hv⟩ | hv <;> cases hv

end EndpointWatch.Retry
