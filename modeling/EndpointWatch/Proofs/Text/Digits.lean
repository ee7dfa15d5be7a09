import EndpointWatch.Text.Number
import EndpointWatch.Unicode.Blank
import Mathlib.Algebra.GroupWithZero.Nat

/-!
# Runs of digits

Where a run of digits ends, and what padding does to a number: it has the width that was asked for (`length_padded`) and
still the same value (`toNat_padded`). Without padding there is no zero in front (`ofNat_eq_zero_cons`), and different
integers have different texts (`ofInt_injective`).
-/

namespace EndpointWatch.Text

variable {c : Char} {ds : List Char} {n width : Nat}

/-! ### The end of a run -/

theorem takeWhile_isDigit_append (h : ∀ d ∈ ds, d.isDigit = true) (hc : c.isDigit = false) (rest : List Char) :
    (ds ++ c :: rest).takeWhile Char.isDigit = ds := by
  rw [List.takeWhile_append_of_pos h, List.takeWhile_cons_of_neg (by rw [hc]; exact Bool.false_ne_true), List.append_nil]

theorem dropWhile_isDigit_append (h : ∀ d ∈ ds, d.isDigit = true) (hc : c.isDigit = false) (rest : List Char) :
    (ds ++ c :: rest).dropWhile Char.isDigit = c :: rest := by
  rw [List.dropWhile_append_of_pos h, List.dropWhile_cons_of_neg (by rw [hc]; exact Bool.false_ne_true)]

theorem toNat_of_isDigit (h : c.isDigit = true) : 48 ≤ c.toNat ∧ c.toNat ≤ 57 := by
  simp only [Char.isDigit, ge_iff_le, Bool.and_eq_true, decide_eq_true_eq, UInt32.le_iff_toNat_le] at h
  exact h

theorem isBlank_of_isDigit (h : c.isDigit = true) : Unicode.isBlank c = false := by
  have hc := toNat_of_isDigit h
  simp only [Unicode.isBlank, Bool.or_eq_false_iff, Bool.and_eq_false_iff, decide_eq_false_iff_not]
  omega

/-! ### Numbers -/

theorem isDigit_of_mem_padded (h : c ∈ padded width n) : c.isDigit = true := by
  rcases List.mem_append.mp h with h | h
  · rw [(List.mem_replicate.mp h).2]
    rfl
  · exact isDigit_of_mem_ofNat h

theorem length_padded (hw : 0 < width) (h : n < 10 ^ width) : (padded width n).length = width := by
  have hle : (ofNat n).length ≤ width := (Nat.length_toDigits_le_iff (by decide) hw).mpr h
  rw [padded, List.length_append, List.length_replicate]
  omega

theorem toNat_padded (width n : Nat) : toNat (padded width n) = n := by
  rw [padded, toNat, Nat.ofDigitChars_append, Nat.ofDigitChars_replicate_zero, Nat.mul_zero]
  exact toNat_ofNat n

theorem ofNat_injective : Function.Injective ofNat := fun m n h => by
  rw [← toNat_ofNat m, h, toNat_ofNat]

/-- A number begins with a zero only if it is zero. -/
theorem ofNat_eq_zero_cons (h : ofNat n = '0' :: ds) : n = 0 ∧ ds = [] := by
  induction n using Nat.strongRecOn generalizing ds with
  | _ n ih =>
    by_cases hn : n < 10
    · rw [ofNat, Nat.toDigits_of_lt_base hn, List.cons_eq_cons, Nat.digitChar_eq_zero] at h
      exact ⟨h.1, h.2.symm⟩
    · rw [ofNat, Nat.toDigits_of_base_le (by decide) (Nat.not_lt.mp hn)] at h
      -- the first digit is that of the number without its last digit, which is not zero
      obtain ⟨d, ds', hd⟩ := List.exists_cons_of_ne_nil (ofNat_ne_nil (n / 10))
      rw [← ofNat, hd, List.cons_append, List.cons_eq_cons] at h
      obtain ⟨rfl, -⟩ := h
      have := (ih (n / 10) (by omega) hd).1
      omega

/-- No two integers have the same digits: a sign is no digit, and the digits give the value. -/
theorem ofInt_injective : Function.Injective ofInt := by
  have hsign (n : Nat) (ds : List Char) : ofNat n ≠ '-' :: ds := fun h =>
    absurd (isDigit_of_mem_ofNat (h ▸ List.mem_cons_self)) (by decide : ¬Char.isDigit '-' = true)
  intro a b h
  cases a with
  | ofNat m =>
    cases b with
    | ofNat n => exact congrArg Int.ofNat (ofNat_injective h)
    | negSucc n => exact absurd h (hsign m _)
  | negSucc m =>
    cases b with
    | ofNat n => exact absurd h.symm (hsign n _)
    | negSucc n => exact congrArg Int.negSucc (Nat.succ.inj (ofNat_injective (List.cons_eq_cons.mp h).2))

end EndpointWatch.Text
