import EndpointWatch.Retry.Run

/-!
# The law of a repeated operation

A run makes `callsUpTo` calls, waits for the pause of the policy between one call and the next and for nothing after the
last, and ends as the last call ended (`run_obeys`). Its counter of failed calls tells their true number, so that it
never wraps.
-/

namespace EndpointWatch.Retry

variable {ε τ α : Type} [Magnitude α]

/-- How many calls an operation takes: up to the first that succeeds, and no more than `bound`. -/
def callsUpTo (op : Nat → Call ε τ) (bound : Nat) : Nat :=
  ((List.range bound).find? fun n => (op n).result.isOk).elim bound (· + 1)

/-- What a run has to do under a policy. Calls are numbered from 0. -/
structure Obeys (p : Policy α) (op : Nat → Call ε τ) (draw : Nat → Nat) (now : Nat) (r : Run ε τ) : Prop where
  calls : r.starts.length = callsUpTo op p.maxAttempts.toNat
  first : r.starts[0]? = some now
  /-- Each later call begins when the pause after the one before it is over. -/
  next : ∀ n, n + 1 < r.starts.length →
    r.starts[n + 1]? = r.starts[n]?.map (· + (op n).lasts + ticks (p.pause (.ofNat n) (draw n)))
  /-- The run ends as its last call ends. -/
  ended : r.starts.getLast?.map (· + (op (r.starts.length - 1)).lasts) = some r.ended
  value : ∀ v, (op (r.starts.length - 1)).result = .ok v → r.result = .ok v
  error : ∀ e, (op (r.starts.length - 1)).result = .error e →
    ∃ attempts, r.result = .error (.exhausted attempts e) ∧ attempts.toNat = r.starts.length
  counted : r.failed.toNat = (List.range r.starts.length).countP fun n => !(op n).result.isOk

/-! ### A run that goes on -/

/-- How a run ends with call number `n`. -/
def Ends (p : Policy α) (op : Nat → Call ε τ) (n : Nat) (r : Run ε τ) : Prop :=
  match (op n).result with
  | .ok v => r.result = .ok v ∧ r.failed.toNat = n
  | .error e => r.result = .error (.exhausted p.maxAttempts e) ∧ r.failed.toNat = n + 1 ∧ p.maxAttempts.toNat = n + 1

/-- A run that went on at time `now` after `made` failed calls, and made `i + 1` more. -/
structure Course (p : Policy α) (op : Nat → Call ε τ) (draw : Nat → Nat) (made now i : Nat) (r : Run ε τ) : Prop where
  length : r.starts.length = i + 1
  bound : made + i < p.maxAttempts.toNat
  first : r.starts[0]? = some now
  next : ∀ n < i, r.starts[n + 1]? =
    r.starts[n]?.map (· + (op (made + n)).lasts + ticks (p.pause (.ofNat (made + n)) (draw (made + n))))
  failing : ∀ n < i, (op (made + n)).result.isOk = false
  ended : r.starts.getLast?.map (· + (op (made + i)).lasts) = some r.ended
  ends : Ends p op (made + i) r

variable {p : Policy α} {op : Nat → Call ε τ} {draw : Nat → Nat} {made now i : Nat} {r : Run ε τ}

theorem Course.after (h : Course p op draw (made + 1) (now + (op made).lasts + ticks (p.pause (.ofNat made) (draw made))) i r)
    (hfail : (op made).result.isOk = false) : Course p op draw made now (i + 1) (r.after now) := by
  have hshift (n : Nat) : made + 1 + n = made + (n + 1) := by omega
  refine ⟨congrArg (· + 1) h.length, hshift i ▸ h.bound, rfl, fun n hn => ?_, fun n hn => ?_, ?_, hshift i ▸ h.ends⟩
  · show r.starts[n]? = (now :: r.starts)[n]?.map _
    cases n with
    | zero => exact h.first
    | succ n => rw [List.getElem?_cons_succ, h.next n (Nat.lt_of_succ_lt_succ hn), hshift]
  · cases n with
    | zero => exact hfail
    | succ n => exact hshift n ▸ h.failing n (Nat.lt_of_succ_lt_succ hn)
  · show (now :: r.starts).getLast?.map _ = some r.ended
    obtain ⟨s, ss, hs⟩ := List.exists_cons_of_length_eq_add_one h.length
    rw [hs, List.getLast?_cons_cons, ← hs, ← hshift]
    exact h.ended

theorem course_runFrom {attempt : UInt32} (h : attempt < p.maxAttempts) :
    ∃ i, Course p op draw attempt.toNat now i (runFrom p op draw attempt now h) := by
  fun_induction runFrom p op draw attempt now h with
  | case1 attempt now h call ended v hv =>
    have hlt := UInt32.lt_iff_toNat_lt.mp h
    have hends : Ends p op attempt.toNat (⟨[now], attempt, ended, .ok v⟩ : Run ε τ) := by
      unfold Ends
      rw [hv]
      exact ⟨rfl, rfl⟩
    exact ⟨0, rfl, hlt, rfl, nofun, nofun, rfl, hends⟩
  | case2 attempt now h call ended e he h' ih =>
    -- what follows is a run after one more failed call, whose pause goes by the number of this one
    obtain ⟨i, hi⟩ := ih
    rw [toNat_add_one_of_lt h] at hi
    have hfail : (op attempt.toNat).result.isOk = false := by rw [he]; rfl
    refine ⟨i + 1, Course.after ?_ hfail⟩
    rwa [UInt32.ofNat_toNat]
  | case3 attempt now h call ended e he h' =>
    have hlt := UInt32.lt_iff_toNat_lt.mp h
    have hnext := toNat_add_one_of_lt h
    have hspent : p.maxAttempts.toNat = attempt.toNat + 1 := by
      have := UInt32.not_lt.mp h'
      have := UInt32.le_iff_toNat_le.mp this
      omega
    have hends : Ends p op attempt.toNat (⟨[now], attempt + 1, ended, .error (.exhausted p.maxAttempts e)⟩ : Run ε τ) := by
      unfold Ends
      rw [he]
      exact ⟨rfl, hnext, hspent⟩
    exact ⟨0, rfl, hlt, rfl, nofun, nofun, rfl, hends⟩

/-! ### Counting calls -/

theorem callsUpTo_of_ok {n bound : Nat} (hlt : n < bound) (hfail : ∀ m < n, (op m).result.isOk = false)
    (hok : (op n).result.isOk) : callsUpTo op bound = n + 1 := by
  have hfind : (List.range bound).find? (fun n => (op n).result.isOk) = some n :=
    List.find?_range_eq_some.mpr ⟨hok, List.mem_range.mpr hlt, fun m hm => by rw [hfail m hm]; rfl⟩
  rw [callsUpTo, hfind]
  rfl

theorem callsUpTo_of_failing {bound : Nat} (hfail : ∀ m < bound, (op m).result.isOk = false) :
    callsUpTo op bound = bound := by
  have hfind : (List.range bound).find? (fun n => (op n).result.isOk) = none :=
    List.find?_range_eq_none.mpr fun m hm => by rw [hfail m hm]; rfl
  rw [callsUpTo, hfind]
  rfl

theorem countP_failing {n : Nat} (hfail : ∀ m < n, (op m).result.isOk = false) :
    (List.range n).countP (fun m => !(op m).result.isOk) = n := by
  have hall : (List.range n).countP (fun m => !(op m).result.isOk) = (List.range n).length :=
    List.countP_eq_length.mpr fun m hm => by rw [hfail m (List.mem_range.mp hm)]; rfl
  rw [hall, List.length_range]

/-! ### A whole run -/

theorem Course.callsUpTo_eq (h : Course p op draw 0 now i r) : callsUpTo op p.maxAttempts.toNat = i + 1 := by
  obtain ⟨-, hbound, -, -, hfail, -, hends⟩ := h
  simp only [Nat.zero_add] at hbound hfail hends
  unfold Ends at hends
  cases hres : (op i).result with
  | ok v => exact callsUpTo_of_ok hbound hfail (by rw [hres]; rfl)
  | error e =>
    rw [hres] at hends
    obtain ⟨-, -, hspent⟩ := hends
    rw [hspent]
    refine callsUpTo_of_failing fun m hm => ?_
    rcases Nat.lt_succ_iff_lt_or_eq.mp hm with hm | rfl
    · exact hfail m hm
    · rw [hres]
      rfl

theorem Course.failed_eq (h : Course p op draw 0 now i r) :
    r.failed.toNat = (List.range (i + 1)).countP fun n => !(op n).result.isOk := by
  obtain ⟨-, -, -, -, hfail, -, hends⟩ := h
  simp only [Nat.zero_add] at hfail hends
  rw [List.range_succ, List.countP_append, countP_failing hfail, List.countP_singleton]
  unfold Ends at hends
  cases hres : (op i).result with
  | ok v =>
    rw [hres] at hends
    rw [hends.2]
    rfl
  | error e =>
    rw [hres] at hends
    rw [hends.2.1]
    rfl

theorem Course.obeys (h : Course p op draw 0 now i r) : Obeys p op draw now r := by
  have hcalls := h.callsUpTo_eq
  have hcounted := h.failed_eq
  obtain ⟨hlen, -, hfirst, hnext, -, hended, hends⟩ := h
  simp only [Nat.zero_add] at hnext hended hends
  have hlast : r.starts.length - 1 = i := by omega
  unfold Ends at hends
  refine ⟨?_, hfirst, fun n hn => hnext n (by omega), hlast ▸ hended, fun v hv => ?_, fun e he => ?_, ?_⟩
  · rw [hlen, hcalls]
  · rw [hlast] at hv
    rw [hv] at hends
    exact hends.1
  · rw [hlast] at he
    rw [he] at hends
    obtain ⟨hstop, -, hspent⟩ := hends
    exact ⟨_, hstop, hspent.trans hlen.symm⟩
  · rw [hlen, hcounted]

/-- Every run obeys its policy, whatever the operation does and however long it takes. -/
theorem run_obeys (p : Policy α) (op : Nat → Call ε τ) (draw : Nat → Nat) (now : Nat) :
    Obeys p.normalized op draw now (p.run op now draw) := by
  obtain ⟨i, h⟩ : ∃ i, Course p.normalized op draw 0 now i (p.run op now draw) :=
    course_runFrom p.maxAttempts_normalized_pos
  exact h.obeys

end EndpointWatch.Retry
