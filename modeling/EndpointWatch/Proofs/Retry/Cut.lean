import EndpointWatch.Proofs.Retry.Law

/-!
# A repeated operation that is cut off

A run that watches a cancellation is the run without one, cut off at the moment at which the cancellation fires
(`runUntil_cutOff`): it makes the calls that begin before that moment, at the same times, and it is cut short only if
there is a call that does not. Which of the end of a wait and a cancellation is noticed first makes no difference,
since the cancellation is looked for again before the next call.
-/

namespace EndpointWatch.Retry

variable {ε τ α : Type} [Magnitude α]

/-! ### The moment of a cancellation -/

namespace Firing

variable {f g : Firing} {m n s t : Nat}

theorem precedes_iff : f.precedes n s ↔ f.time < s ∨ f.time = s ∧ f.order ≤ n := by
  simp [precedes]

theorem precedes_mono (h : f.precedes n s) (hn : n ≤ m) (hs : s ≤ t) : f.precedes m t := by
  rw [precedes_iff] at h ⊢
  omega

theorem precedes_succ (h : f.precedes n s) : f.precedes (n + 1) s := precedes_mono h (Nat.le_succ n) (Nat.le_refl s)

end Firing

/-- When a cancellation fires that may also be fired by the calls from number `n` on, as they end. -/
def firingIn (op : Nat → Call ε τ) : (n : Nat) → (starts : List Nat) → Option Firing → Option Firing
  | _, [], fires? => fires?
  | n, s :: ss, fires? => firingIn op (n + 1) ss (firing fires? (op n).cancels ⟨s + (op n).lasts, n + 1⟩)

/-- How many of the calls from number `n` on begin before a cancellation fires. -/
def begunBefore (f : Firing) (n : Nat) (starts : List Nat) : Nat :=
  (starts.zipIdx n).countP fun (s, m) => !f.precedes m s

/-- When the first `j` of the calls from number `n` on are over. -/
def overAt (op : Nat → Call ε τ) (n now : Nat) (starts : List Nat) : (j : Nat) → Nat
  | 0 => now
  | j + 1 => starts[j]?.elim now (· + (op (n + j)).lasts)

/-- A run that began at `now` with call number `n`, cut off where a cancellation fires. -/
def Run.cut (op : Nat → Call ε τ) (n now : Nat) (fires? : Option Firing) (r : Run ε τ) : Run ε τ :=
  match fires? with
  | none => r
  | some f =>
    let j := begunBefore f n r.starts
    if j = r.starts.length then r
    else ⟨r.starts.take j, .ofNat (n + j), max f.time (overAt op n now r.starts j), .error .cancelled⟩

variable {p : Policy α} {op : Nat → Call ε τ} {draw : Nat → Nat} {woken : Nat → Bool} {n now : Nat} {r : Run ε τ}
  {f : Firing} {fires? : Option Firing} {starts : List Nat}

/-- A cancellation that fires before any of the calls is not fired earlier by one of them. -/
theorem firingIn_of_precedes (h : f.precedes n now) (hs : ∀ s ∈ starts, now ≤ s) :
    firingIn op n starts (some f) = some f := by
  induction starts generalizing n with
  | nil => rfl
  | cons s ss ih =>
    have hle : now ≤ s + (op n).lasts := Nat.le_add_right_of_le (hs s (List.mem_cons_self ..))
    have hbefore : f.before ⟨s + (op n).lasts, n + 1⟩ := Firing.precedes_mono h (Nat.le_succ n) hle
    have hfiring : firing (some f) (op n).cancels ⟨s + (op n).lasts, n + 1⟩ = some f := by
      unfold firing
      split
      · exact congrArg some (if_pos hbefore)
      · rfl
    rw [firingIn, hfiring]
    exact ih (Firing.precedes_succ h) fun t ht => hs t (List.mem_cons_of_mem _ ht)

/-- No call fires the cancellation before it begins. -/
theorem eq_of_firingIn (h : firingIn op n starts fires? = some f) (hf : f.precedes n now)
    (hs : ∀ s ∈ starts, now ≤ s) : fires? = some f := by
  induction starts generalizing n fires? with
  | nil => exact h
  | cons s ss ih =>
    have hle : now ≤ s + (op n).lasts := Nat.le_add_right_of_le (hs s (List.mem_cons_self ..))
    have hfiring := ih h (Firing.precedes_succ hf) fun t ht => hs t (List.mem_cons_of_mem _ ht)
    have hne : (⟨s + (op n).lasts, n + 1⟩ : Firing) ≠ f := by
      rintro rfl
      rcases Firing.precedes_iff.mp hf with hlt | ⟨-, hord⟩
      · exact absurd hlt (Nat.not_lt.mpr hle)
      · exact absurd hord (Nat.not_succ_le_self n)
    unfold firing at hfiring
    split at hfiring
    · cases fires? with
      | none => exact absurd (Option.some.inj hfiring) hne
      | some g =>
        have hmin := Option.some.inj hfiring
        simp only [Option.elim_some] at hmin
        split at hmin
        · exact congrArg some hmin
        · exact absurd hmin hne
    · exact hfiring

/-! ### What is left of a run -/

theorem begunBefore_cons (s : Nat) (ss : List Nat) :
    begunBefore f n (s :: ss) = begunBefore f (n + 1) ss + if f.precedes n s then 0 else 1 := by
  rw [begunBefore, List.zipIdx_cons, List.countP_cons]
  show _ + (if (!f.precedes n s) = true then 1 else 0) = _
  cases f.precedes n s <;> rfl

theorem begunBefore_of_precedes (h : f.precedes n now) (hs : ∀ s ∈ starts, now ≤ s) : begunBefore f n starts = 0 := by
  induction starts generalizing n with
  | nil => rfl
  | cons s ss ih =>
    have hrest := ih (Firing.precedes_succ h) fun t ht => hs t (List.mem_cons_of_mem _ ht)
    rw [begunBefore_cons, hrest, if_pos (Firing.precedes_mono h (Nat.le_refl n) (hs s (List.mem_cons_self ..)))]

theorem begunBefore_le_length (f : Firing) (n : Nat) (starts : List Nat) : begunBefore f n starts ≤ starts.length := by
  rw [begunBefore]
  exact List.length_zipIdx ▸ List.countP_le_length

theorem cut_of_precedes (h : f.precedes n now) (hs : ∀ s ∈ r.starts, now ≤ s) (hne : r.starts ≠ []) :
    r.cut op n now (some f) = ⟨[], .ofNat n, now, .error .cancelled⟩ := by
  have hlen : 0 ≠ r.starts.length := (Nat.ne_of_gt (List.length_pos_iff.mpr hne)).symm
  have htime : max f.time now = now := by
    have := Firing.precedes_iff.mp h
    omega
  simp only [Run.cut, begunBefore_of_precedes h hs, if_neg hlen, List.take_zero, overAt, htime, Nat.add_zero]

theorem cut_single (h : ∀ f ∈ fires?, ¬f.precedes n now) (hr : r.starts = [now]) : r.cut op n now fires? = r := by
  cases fires? with
  | none => rfl
  | some f =>
    have hone : begunBefore f n r.starts = r.starts.length := by
      rw [hr, begunBefore_cons, if_neg (h f rfl)]
      rfl
    exact if_pos hone

variable {wake : Nat} {ss : List Nat}

theorem cut_after_of_precedes (h : ¬f.precedes n now) (hnext : f.precedes (n + 1) wake) (hs : ∀ s ∈ r.starts, wake ≤ s)
    (hne : r.starts ≠ []) : (r.after now).cut op n now (some f) =
      ⟨[now], .ofNat (n + 1), max f.time (now + (op n).lasts), .error .cancelled⟩ := by
  have hj : begunBefore f n (now :: r.starts) = 1 := by
    rw [begunBefore_cons, if_neg h, begunBefore_of_precedes hnext hs]
  have hlen : 1 ≠ (now :: r.starts).length := by
    have := List.length_pos_iff.mpr hne
    rw [List.length_cons]
    omega
  simp only [Run.cut, Run.after, hj, if_neg hlen]
  rfl

theorem cut_after (h : ∀ f ∈ fires?, ¬f.precedes n now ∧ ¬f.precedes (n + 1) wake) (hr : r.starts = wake :: ss) :
    (r.after now).cut op n now fires? = (r.cut op (n + 1) wake fires?).after now := by
  cases fires? with
  | none => rfl
  | some f =>
    obtain ⟨hnow, hwake⟩ := h f rfl
    obtain ⟨j, hj⟩ : ∃ j, begunBefore f (n + 1) r.starts = j + 1 := by
      rw [hr, begunBefore_cons, if_neg hwake]
      exact ⟨_, rfl⟩
    have hlt : j < r.starts.length := by
      have := begunBefore_le_length f (n + 1) r.starts
      omega
    have hj' : begunBefore f n (now :: r.starts) = j + 1 + 1 := by
      rw [begunBefore_cons, if_neg hnow, hj]
    have hover : overAt op n now (now :: r.starts) (j + 1 + 1) = overAt op (n + 1) wake r.starts (j + 1) := by
      have hnum : n + (j + 1) = n + 1 + j := by omega
      simp only [overAt, List.getElem?_cons_succ, List.getElem?_eq_getElem hlt, Option.elim_some, hnum]
    have hcount : n + (j + 1 + 1) = n + 1 + (j + 1) := by omega
    simp only [Run.cut, Run.after, hj, hj', hover, hcount, List.length_cons, Nat.add_right_cancel_iff]
    split <;> rfl

/-! ### The run that watches the cancellation -/

theorem le_of_mem_starts (op : Nat → Call ε τ) (draw : Nat → Nat) (now : Nat) {attempt : UInt32}
    (h : attempt < p.maxAttempts) :
    ∀ s ∈ (runFrom p op draw attempt now h).starts, now ≤ s := by
  fun_induction runFrom p op draw attempt now h with
  | case1 => exact fun s hs => Nat.le_of_eq (List.mem_singleton.mp hs).symm
  | case2 attempt now h call ended e he h' ih =>
    intro s hs
    rcases List.mem_cons.mp hs with rfl | hs
    · exact Nat.le_refl _
    · have := ih s hs
      omega
  | case3 => exact fun s hs => Nat.le_of_eq (List.mem_singleton.mp hs).symm

theorem exists_starts_runFrom (op : Nat → Call ε τ) (draw : Nat → Nat) (now : Nat) {attempt : UInt32}
    (h : attempt < p.maxAttempts) :
    ∃ ss, (runFrom p op draw attempt now h).starts = now :: ss := by
  fun_induction runFrom p op draw attempt now h with
  | case1 => exact ⟨[], rfl⟩
  | case2 => exact ⟨_, rfl⟩
  | case3 => exact ⟨[], rfl⟩

theorem not_precedes_of_firingIn (op : Nat → Call ε τ) (h : ¬fires?.any (·.precedes n now)) (hs : ∀ s ∈ starts, now ≤ s) :
    ∀ f ∈ firingIn op n starts fires?, ¬f.precedes n now := by
  intro f hf hn
  rw [eq_of_firingIn hf hn hs] at h
  exact h hn

theorem runUntilFrom_of_precedes {attempt : UInt32} (h : attempt < p.maxAttempts) (hf : f.precedes attempt.toNat now) :
    runUntilFrom p op draw woken attempt now (some f) h = (runFrom p op draw attempt now h).cut op attempt.toNat now
      (firingIn op attempt.toNat (runFrom p op draw attempt now h).starts (some f)) := by
  have hge := le_of_mem_starts op draw now h
  obtain ⟨ss, hss⟩ := exists_starts_runFrom op draw now h
  rw [runUntilFrom, firingIn_of_precedes hf hge, cut_of_precedes hf hge (by rw [hss]; exact nofun), UInt32.ofNat_toNat]
  exact if_pos hf

/-- The wait after a call is ended by the cancellation, or what follows is cut. When the wait is over first, the
cancellation is still noticed before the next call. -/
theorem wait_eq_cut {failed : UInt32} (hfailed : failed = .ofNat (n + 1)) (hr : r.starts = wake :: ss)
    (hs : ∀ s ∈ r.starts, wake ≤ s) (hwake : now + (op n).lasts ≤ wake)
    (hnot : ∀ f ∈ firingIn op (n + 1) r.starts fires?, ¬f.precedes n now) (isWoken : Bool) :
    (match fires?.filter (·.interrupts (now + (op n).lasts) wake (n + 1) isWoken) with
      | some f => ⟨[now], failed, max f.time (now + (op n).lasts), .error .cancelled⟩
      | none => (r.cut op (n + 1) wake (firingIn op (n + 1) r.starts fires?)).after now) =
    (r.after now).cut op n now (firingIn op (n + 1) r.starts fires?) := by
  subst hfailed
  have hne : r.starts ≠ [] := by rw [hr]; exact nofun
  by_cases hnext : ∃ f, firingIn op (n + 1) r.starts fires? = some f ∧ f.precedes (n + 1) wake
  · obtain ⟨f, hf, hpre⟩ := hnext
    obtain rfl : fires? = some f := eq_of_firingIn hf hpre hs
    rw [hf] at hnot ⊢
    rw [cut_after_of_precedes (hnot f rfl) hpre hs hne]
    by_cases hint : f.interrupts (now + (op n).lasts) wake (n + 1) isWoken
    · simp only [Option.filter_some, hint, if_true]
    · -- the wait is over no later than it could be interrupted
      have hend : max f.time (now + (op n).lasts) = wake := by
        have htime := Firing.precedes_iff.mp hpre
        simp only [Firing.interrupts, hpre, Bool.true_and, Bool.or_eq_true, decide_eq_true_eq, not_or] at hint
        omega
      simp only [Option.filter_some, hint, cut_of_precedes hpre hs hne, hend]
      rfl
  · have hlater : ∀ f ∈ firingIn op (n + 1) r.starts fires?, ¬f.precedes (n + 1) wake :=
      fun f hf hpre => hnext ⟨f, hf, hpre⟩
    have hnone : fires?.filter (·.interrupts (now + (op n).lasts) wake (n + 1) isWoken) = none := by
      refine Option.filter_eq_none_iff.mpr fun f hf hint => ?_
      have hpre : f.precedes (n + 1) wake := ((Bool.and_eq_true ..).mp hint).1
      obtain rfl : fires? = some f := hf
      exact hlater f (firingIn_of_precedes hpre hs) hpre
    rw [hnone]
    exact (cut_after (fun f hf => ⟨hnot f hf, hlater f hf⟩) hr).symm

/-- A run that watches a cancellation is the run without one, cut where the cancellation fires. -/
theorem runUntilFrom_eq_cut {attempt : UInt32} (h : attempt < p.maxAttempts) (now : Nat) (fires? : Option Firing) :
    runUntilFrom p op draw woken attempt now fires? h = (runFrom p op draw attempt now h).cut op attempt.toNat now
      (firingIn op attempt.toNat (runFrom p op draw attempt now h).starts fires?) := by
  by_cases hhead : fires?.any (·.precedes attempt.toNat now)
  · obtain ⟨f, rfl, hf⟩ := (Option.any_eq_true ..).mp hhead
    exact runUntilFrom_of_precedes h hf
  have hnot := not_precedes_of_firingIn op hhead (le_of_mem_starts op draw now h)
  rw [runUntilFrom, if_neg hhead]
  rw [runFrom] at hnot ⊢
  cases hres : (op attempt.toNat).result with
  | ok v =>
    simp only [hres] at hnot ⊢
    exact (cut_single hnot rfl).symm
  | error e =>
    by_cases h' : attempt + 1 < p.maxAttempts
    · simp only [hres, h', ↓reduceDIte] at hnot ⊢
      obtain ⟨ss, hss⟩ := exists_starts_runFrom op draw
        (now + (op attempt.toNat).lasts + ticks (p.pause attempt (draw attempt.toNat))) h'
      have hnum := toNat_add_one_of_lt h
      -- by the time of the next call this one may have fired the cancellation
      have hfailed : attempt + 1 = .ofNat (attempt.toNat + 1) := by rw [← hnum, UInt32.ofNat_toNat]
      have ih := runUntilFrom_eq_cut h'
      simp only [hnum] at ih
      simp only [ih]
      exact wait_eq_cut hfailed hss (le_of_mem_starts op draw _ h') (Nat.le_add_right ..) hnot _
    · simp only [hres, h', ↓reduceDIte] at hnot ⊢
      exact (cut_single hnot rfl).symm
termination_by p.maxAttempts.toNat - attempt.toNat
decreasing_by
  have := UInt32.lt_iff_toNat_lt.mp h
  omega

/-! ### What the cut amounts to -/

/-- How many calls begin before a cancellation fires, if it ever does. -/
def callsBefore (fires? : Option Firing) (starts : List Nat) : Nat :=
  fires?.elim starts.length (begunBefore · 0 starts)

/-- That a run `r'` is the run `r` from time `now`, cut off where a cancellation fires. -/
structure CutOff (op : Nat → Call ε τ) (now : Nat) (fires? : Option Firing) (r r' : Run ε τ) : Prop where
  calls : r'.starts = r.starts.take (callsBefore fires? r.starts)
  none_after : ∀ n s, r'.starts[n]? = some s → ∀ f ∈ fires?, ¬f.precedes n s
  whole : callsBefore fires? r.starts = r.starts.length → r' = r
  quiet : (∀ f ∈ fires?, ¬f.precedes (r.starts.length - 1) r.ended) → r' = r
  /-- It ends as soon as the cancellation has fired and the calls that it makes are over. -/
  short : callsBefore fires? r.starts < r.starts.length → ∃ f, fires? = some f ∧ r'.result = .error .cancelled ∧
    r'.ended = max f.time (overAt op 0 now r.starts (callsBefore fires? r.starts))
  fired : r'.result = .error .cancelled → ∃ f, fires? = some f ∧ f.time ≤ r'.ended

theorem not_precedes_of_lt_begunBefore (hsorted : starts.Pairwise (· ≤ ·)) {i s : Nat} (hs : starts[i]? = some s)
    (hi : i < begunBefore f n starts) : ¬f.precedes (n + i) s := by
  induction starts generalizing n i with
  | nil => cases hs
  | cons t ts ih =>
    obtain ⟨hle, hsorted⟩ := List.pairwise_cons.mp hsorted
    by_cases ht : f.precedes n t
    · have hzero : begunBefore f n (t :: ts) = 0 :=
        begunBefore_of_precedes ht fun u hu => (List.mem_cons.mp hu).elim (fun h => Nat.le_of_eq h.symm) (hle u)
      exact absurd (hzero ▸ hi) (Nat.not_lt_zero _)
    · cases i with
      | zero =>
        obtain rfl : t = s := Option.some.inj hs
        exact ht
      | succ i =>
        have hi' : i < begunBefore f (n + 1) ts := by
          rw [begunBefore_cons, if_neg ht] at hi
          omega
        have hnum : n + (i + 1) = n + 1 + i := by omega
        rw [hnum]
        exact ih hsorted hs hi'

theorem begunBefore_eq_length (h : ¬f.precedes (n + (starts.length - 1)) now) (hs : ∀ s ∈ starts, s ≤ now) :
    begunBefore f n starts = starts.length := by
  have hall : (starts.zipIdx n).countP (fun (s, m) => !f.precedes m s) = (starts.zipIdx n).length := by
    refine List.countP_eq_length.mpr fun (s, m) hm => ?_
    obtain ⟨-, hlt, hmem⟩ := List.mem_zipIdx hm
    have hle : s ≤ now := hs s (hmem ▸ List.getElem_mem _)
    have hnot : ¬f.precedes m s := fun hp => h (Firing.precedes_mono hp (by omega) hle)
    simp only [Bool.not_eq_true] at hnot
    simp only [hnot, Bool.not_false]
  rw [begunBefore, hall, List.length_zipIdx]

theorem pairwise_starts_runFrom {attempt : UInt32} (h : attempt < p.maxAttempts) :
    (runFrom p op draw attempt now h).starts.Pairwise (· ≤ ·) := by
  fun_induction runFrom p op draw attempt now h with
  | case1 => exact List.pairwise_singleton ..
  | case2 attempt now h call ended e he h' ih =>
    refine List.pairwise_cons.mpr ⟨fun s hs => ?_, ih⟩
    have := le_of_mem_starts op draw _ h' s hs
    omega
  | case3 => exact List.pairwise_singleton ..

theorem le_ended_of_mem_starts {attempt : UInt32} (h : attempt < p.maxAttempts) :
    ∀ s ∈ (runFrom p op draw attempt now h).starts, s ≤ (runFrom p op draw attempt now h).ended := by
  fun_induction runFrom p op draw attempt now h with
  | case1 attempt now h call ended v hv =>
    intro s hs
    obtain rfl : s = now := List.mem_singleton.mp hs
    exact Nat.le_add_right ..
  | case2 attempt now h call ended e he h' ih =>
    intro s hs
    rcases List.mem_cons.mp hs with rfl | hs
    · obtain ⟨ss, hss⟩ := exists_starts_runFrom op draw (ended + ticks (p.pause attempt (draw attempt.toNat))) h'
      have := ih _ (hss ▸ List.mem_cons_self ..)
      show s ≤ (runFrom p op draw (attempt + 1) _ h').ended
      omega
    · exact ih s hs
  | case3 attempt now h call ended e he h' =>
    intro s hs
    obtain rfl : s = now := List.mem_singleton.mp hs
    exact Nat.le_add_right ..

theorem cut_of_eq_length (h : callsBefore fires? r.starts = r.starts.length) : r.cut op 0 now fires? = r := by
  cases fires? with
  | none => rfl
  | some f => exact if_pos h

theorem cut_of_lt_length (op : Nat → Call ε τ) (now : Nat) (h : callsBefore fires? r.starts < r.starts.length) :
    ∃ f, fires? = some f ∧ r.cut op 0 now fires? =
      ⟨r.starts.take (callsBefore fires? r.starts), .ofNat (0 + callsBefore fires? r.starts),
        max f.time (overAt op 0 now r.starts (callsBefore fires? r.starts)), .error .cancelled⟩ := by
  cases fires? with
  | none => exact absurd h (Nat.lt_irrefl _)
  | some f => exact ⟨f, rfl, if_neg (Nat.ne_of_lt h)⟩

theorem callsBefore_le_length (fires? : Option Firing) (starts : List Nat) :
    callsBefore fires? starts ≤ starts.length := by
  cases fires? with
  | none => exact Nat.le_refl _
  | some f => exact begunBefore_le_length f 0 starts

theorem starts_cut : (r.cut op 0 now fires?).starts = r.starts.take (callsBefore fires? r.starts) := by
  rcases Nat.lt_or_eq_of_le (callsBefore_le_length fires? r.starts) with hlt | heq
  · obtain ⟨f, -, hcut⟩ := cut_of_lt_length op now hlt
    rw [hcut]
  · rw [cut_of_eq_length heq, heq, List.take_length]

theorem Run.cut_cutOff (hsorted : r.starts.Pairwise (· ≤ ·)) (hle : ∀ s ∈ r.starts, s ≤ r.ended)
    (hplain : r.result ≠ .error .cancelled) : CutOff op now fires? r (r.cut op 0 now fires?) where
  calls := starts_cut
  none_after n s hs f hf := by
    obtain rfl : fires? = some f := hf
    rw [starts_cut, List.getElem?_take] at hs
    split at hs
    · next hlt =>
      have hnot := not_precedes_of_lt_begunBefore (f := f) (n := 0) hsorted hs hlt
      rwa [Nat.zero_add] at hnot
    · cases hs
  whole := cut_of_eq_length
  quiet h := by
    cases fires? with
    | none => rfl
    | some f => exact cut_of_eq_length (begunBefore_eq_length (by rw [Nat.zero_add]; exact h f rfl) hle)
  short h := by
    obtain ⟨f, hf, hcut⟩ := cut_of_lt_length op now h
    rw [hcut]
    exact ⟨f, hf, rfl, rfl⟩
  fired h := by
    rcases Nat.lt_or_eq_of_le (callsBefore_le_length fires? r.starts) with hlt | heq
    · obtain ⟨f, hf, hcut⟩ := cut_of_lt_length op now hlt
      rw [hcut]
      exact ⟨f, hf, Nat.le_max_left ..⟩
    · rw [cut_of_eq_length heq] at h
      exact absurd h hplain

/-- Nothing but a cancellation cancels a run. -/
theorem result_run_ne_cancelled (p : Policy α) (op : Nat → Call ε τ) (draw : Nat → Nat) (now : Nat) :
    (p.run op now draw).result ≠ .error .cancelled := by
  intro hc
  obtain ⟨i, h⟩ : ∃ i, Course p.normalized op draw 0 now i (p.run op now draw) :=
    course_runFrom p.maxAttempts_normalized_pos
  have hends := h.ends
  unfold Ends at hends
  rw [hc] at hends
  split at hends
  · cases hends.1
  · cases hends.1

/-- A run that watches a cancellation is the run without one, cut off, whichever of two things that are ready at the same
time it notices first. -/
theorem runUntil_cutOff (p : Policy α) (op : Nat → Call ε τ) (now : Nat) (at? : Option Nat) (order : Nat)
    (draw : Nat → Nat) (woken : Nat → Bool) :
    CutOff op now (firingIn op 0 (p.run op now draw).starts (at?.map (⟨·, order⟩))) (p.run op now draw)
      (p.runUntil op now at? order draw woken) := by
  have hcut : p.runUntil op now at? order draw woken =
      (p.run op now draw).cut op 0 now (firingIn op 0 (p.run op now draw).starts (at?.map (⟨·, order⟩))) :=
    runUntilFrom_eq_cut p.maxAttempts_normalized_pos now _
  rw [hcut]
  exact Run.cut_cutOff (pairwise_starts_runFrom p.maxAttempts_normalized_pos)
    (le_ended_of_mem_starts p.maxAttempts_normalized_pos) (result_run_ne_cancelled p op draw now)

end EndpointWatch.Retry
