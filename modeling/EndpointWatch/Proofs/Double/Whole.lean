import Mathlib
import EndpointWatch.Proofs.Double.Rounding

/-!
# Whole numbers as doubles

The double for a whole number is one of the two around it (`unpack_ofNat`), so it can lie above the number. What is less
than this double is still no more than the number when its fraction is dropped (`toNat_toUInt64_le`): no double lies
between the two around a number, and from 53 bits on doubles have no fraction.
-/

namespace EndpointWatch.Double

open Float.Model (Format UnpackedFloat totalExponent)
open Float.Model.UnpackedFloat

/-! ### From whole numbers -/

theorem log2_mul_two_pow {n : Nat} (hpos : 0 < n) (k : Nat) : (n * 2 ^ k).log2 = n.log2 + k := by
  obtain ⟨hlo, hhi⟩ := (Nat.log2_eq_iff hpos.ne').mp rfl
  refine (Nat.log2_eq_iff (by positivity)).mpr ⟨?_, ?_⟩
  · rw [pow_add]
    exact Nat.mul_le_mul_right _ hlo
  · rw [add_right_comm, pow_add]
    exact Nat.mul_lt_mul_of_pos_right hhi (Nat.two_pow_pos k)

theorem mantissa_spec {n : Nat} (hpos : 0 < n) (hlog : n.log2 ≤ 52) :
    2 ^ 52 ≤ n * 2 ^ (52 - n.log2) ∧ n * 2 ^ (52 - n.log2) < 2 ^ 53 := by
  have hmul := log2_mul_two_pow hpos (52 - n.log2)
  rw [Nat.add_sub_cancel' hlog] at hmul
  exact (Nat.log2_eq_iff (by positivity)).mp hmul

/-- A number of 53 bits is a double. -/
theorem unpack_ofUInt64 {n : Nat} (hpos : 0 < n) (hn : n < 2 ^ 53) :
    (Float.Model.ofUInt64 n.toUInt64).unpack =
      .finite .positive (n * 2 ^ (52 - n.log2)) (n.log2 - 52) (by positivity) := by
  have hlog : n.log2 ≤ 52 := Nat.le_of_lt_succ ((Nat.log2_lt hpos.ne').mpr hn)
  obtain ⟨hlo, hhi⟩ := mantissa_spec hpos hlog
  have hround : ofUInt64 .binary64 n.toUInt64 =
      .finite .positive (n * 2 ^ (52 - n.log2)) (n.log2 - 52) (by positivity) := by
    have hword : n.toUInt64.toNat = n := Nat.mod_eq_of_lt (by omega)
    have hcompare : compare (n : Int) 0 = .gt := by rw [Int.compare_eq_gt]; omega
    have htarget : Format.binary64.targetExponent (totalExponent n 0) = n.log2 - 52 := by
      show max ((n.log2 : Int) + 1 + 0 - 53) (-1074) = _
      omega
    have hshift : (0 - ((n.log2 : Int) - 52)).toNat = 52 - n.log2 := by omega
    have hexponent : (0 : Int) - (52 - n.log2 : Nat) = n.log2 - 52 := by omega
    simp only [ofUInt64, UnpackedFloat.ofNat, UnpackedFloat.ofInt, UnpackedFloat.normalize, hword, hcompare,
      Int.toNat_natCast, UnpackedFloat.round, htarget, decreaseExponent, hshift, hexponent, Nat.shiftLeft_eq]
    exact roundWithAccuracy_self hlo hhi (by omega)
  show (Float.Model.pack (ofUInt64 .binary64 n.toUInt64)).unpack = _
  rw [hround, unpack_pack hlo hhi (by omega) (by omega)]

/-- A product is rounded to one of the two doubles around it. -/
theorem unpack_pack_mul {m n k : Nat} {d e t : Int} (hm : 0 < m) (hn : 0 < n) (hlog : (m * n).log2 = 52 + k)
    (ht : d + e + k = t) (hlo : -1074 ≤ t) (hhi : t ≤ 970) :
    ∃ m' e' hm', (Float.Model.pack (UnpackedFloat.mul .binary64 (.finite .positive m d hm)
        (.finite .positive n e hn))).unpack = .finite .positive m' e' hm' ∧ IsNext (m * n / 2 ^ k) t m' e' := by
  subst ht
  obtain ⟨m', e', hm', hround, hnext⟩ := exists_roundWithAccuracy (Nat.mul_pos hm hn) hlog hlo
  have he : e' = d + e + k ∨ e' = d + e + k + 1 := hnext.eq.imp (·.1) (·.1)
  refine ⟨m', e', hm', ?_, hnext⟩
  show (Float.Model.pack (roundWithAccuracy .binary64 .positive (m * n) (d + e) .exact)).unpack = _
  rw [hround, unpack_pack hnext.le hnext.lt (by omega) (by omega)]

/-- The double for a whole number is one of the two around its highest 53 bits. -/
theorem unpack_ofNat {n : Nat} (hpos : 0 < n) (hn : n < 2 ^ 1000) :
    ∃ f m e hm, (Float.ofNat n).toModel.unpack = .finite .positive m e hm ∧ IsNext f (n.log2 - 52) m e ∧
      f * 2 ^ n.log2 ≤ n * 2 ^ 52 := by
  have hlog : n.log2 < 1000 := (pow_lt_pow_iff_right₀ one_lt_two).mp ((Nat.log2_self_le hpos.ne').trans_lt hn)
  -- a number of 53 bits is converted and multiplied by 1, a larger one is shifted by 53 bits and divided
  by_cases hsmall : n < 2 ^ 53
  · have hbits : n.log2 ≤ 52 := Nat.le_of_lt_succ ((Nat.log2_lt hpos.ne').mpr hsmall)
    have hone : (Float.ofBits 4607182418800017408).toModel.unpack = .finite .positive (2 ^ 52) (-52) (by decide) := by
      rfl
    have hfloat : (Float.ofNat n).toModel.unpack = (Float.Model.pack (UnpackedFloat.mul .binary64
        (Float.Model.ofUInt64 n.toUInt64).unpack (Float.ofBits 4607182418800017408).toModel.unpack)).unpack := by
      show (Float.ofScientific n false 0).toModel.unpack = _
      rw [Float.ofScientific, dif_pos ⟨hsmall, Nat.zero_le _⟩]
      rfl
    have hproduct : (n * 2 ^ (52 - n.log2) * 2 ^ 52).log2 = 52 + 52 := by
      rw [log2_mul_two_pow (by positivity), log2_mul_two_pow hpos]
      omega
    have ht : (n.log2 - 52 : Int) + -52 + (52 : Nat) = n.log2 - 52 := by omega
    obtain ⟨m, e, hm, h, hnext⟩ := unpack_pack_mul (by positivity) (by decide) hproduct ht (by omega) (by omega)
    rw [Nat.mul_div_cancel _ (Nat.two_pow_pos 52)] at hnext
    rw [hfloat, unpack_ofUInt64 hpos hsmall, hone]
    refine ⟨_, m, e, hm, h, hnext, ?_⟩
    rw [mul_assoc, ← pow_add, Nat.sub_add_cancel hbits]
  · have hfloat : (Float.ofNat n).toModel.unpack = (Float.Model.pack (UnpackedFloat.mul .binary64
        (.finite .positive (n * 2 ^ 53) (-53) (by positivity)) (.finite .positive 1 0 (by decide)))).unpack := by
      have hsmallest : ¬(0 : Int) < -(2 ^ 11 + (n.log2 : Int)) := by omega
      show (Float.ofScientific n false 0).toModel.unpack = _
      rw [Float.ofScientific, dif_neg (fun h => hsmall h.1)]
      show (Float.Model.pack (UnpackedFloat.ofScientific .binary64 n 0)).unpack = _
      rw [UnpackedFloat.ofScientific, dif_neg hpos.ne', if_neg (by decide), if_neg hsmallest, if_pos le_rfl]
      simp only [Nat.shiftLeft_eq]
      rfl
    have hproduct : (n * 2 ^ 53 * 1).log2 = 52 + (n.log2 + 1) := by
      rw [mul_one, log2_mul_two_pow hpos]
      omega
    have ht : (-53 : Int) + 0 + (n.log2 + 1 : Nat) = n.log2 - 52 := by omega
    obtain ⟨m, e, hm, h, hnext⟩ := unpack_pack_mul (by positivity) (by decide) hproduct ht (by omega) (by omega)
    obtain ⟨f, hf⟩ : ∃ f, n * 2 ^ 53 * 1 / 2 ^ (n.log2 + 1) = f := ⟨_, rfl⟩
    have hle : f * 2 ^ (n.log2 + 1) ≤ n * 2 ^ 53 * 1 := hf ▸ Nat.div_mul_le_self ..
    rw [pow_succ 2 n.log2, ← mul_assoc] at hle
    rw [hfloat]
    exact ⟨f, m, e, hm, h, hf ▸ hnext, by omega⟩

/-! ### Back to whole numbers -/

theorem toInt_finite (s : Sign) (m : Nat) (e : Int) (hm : 0 < m) (lo hi : Int) :
    toInt lo hi (.finite s m e hm) = s.apply (m * 2 ^ e.toNat / 2 ^ (-e).toNat : Nat) := by
  have hshift : (0 - (e - e.toNat)).toNat = (-e).toNat := by omega
  have hzero : (e - 0).toNat = e.toNat := by omega
  show roundToInt s m e = _
  simp only [roundToInt, decreaseExponent, shiftToExponent, hzero, hshift, Nat.shiftLeft_eq]
  exact congrArg (fun n : Nat => s.apply n) (mantissa_shiftRight ..)

theorem toNat_ofNatClamp_le (n : Nat) : (UInt64.ofNatClamp n).toNat ≤ n := by
  unfold UInt64.ofNatClamp
  split
  · exact le_rfl
  · next h => exact Nat.le_trans (Nat.sub_le ..) (Nat.not_lt.mp h)

theorem toNat_toUInt64_finite_le (m : Nat) (e : Int) (hm : 0 < m) :
    (UnpackedFloat.toUInt64 (.finite .positive m e hm)).toNat ≤ m * 2 ^ e.toNat / 2 ^ (-e).toNat := by
  rw [UnpackedFloat.toUInt64, toInt_finite]
  exact toNat_ofNatClamp_le _

/-! ### Comparing the two -/

/-- A double above a whole number is not before the doubles around it. -/
theorem le_of_isNext {n f m m' : Nat} {e e' : Int} (hpos : 0 < n) (hnext : IsNext f (n.log2 - 52) m e)
    (hf : f * 2 ^ n.log2 ≤ n * 2 ^ 52) (hlt : m' < 2 ^ 53) (hle : 2 ^ 52 ≤ m' ∨ e' = -1074)
    (h : n * 2 ^ (-e').toNat < m' * 2 ^ e'.toNat) : e < e' ∨ e = e' ∧ m ≤ m' := by
  obtain ⟨a, ha⟩ : ∃ a, (-e').toNat = a := ⟨_, rfl⟩
  obtain ⟨b, hb⟩ : ∃ b, e'.toNat = b := ⟨_, rfl⟩
  rw [ha, hb] at h
  -- a larger value has no smaller exponent, and with the same exponent a larger mantissa
  have hexponent : n.log2 + a < 53 + b := by
    have hpow : 2 ^ (n.log2 + a) < 2 ^ (53 + b) := calc
      2 ^ (n.log2 + a) = 2 ^ n.log2 * 2 ^ a := pow_add ..
      _ ≤ n * 2 ^ a := Nat.mul_le_mul_right _ (Nat.log2_self_le hpos.ne')
      _ < m' * 2 ^ b := h
      _ ≤ 2 ^ 53 * 2 ^ b := Nat.mul_le_mul_right _ hlt.le
      _ = 2 ^ (53 + b) := (pow_add ..).symm
    exact (Nat.pow_lt_pow_iff_right (by decide)).mp hpow
  have hmantissa (hsame : n.log2 + a = 52 + b) : f < m' := by
    have hmul : f * 2 ^ (52 + b) < m' * 2 ^ (52 + b) := calc
      f * 2 ^ (52 + b) = f * 2 ^ n.log2 * 2 ^ a := by rw [← hsame, pow_add, mul_assoc]
      _ ≤ n * 2 ^ 52 * 2 ^ a := Nat.mul_le_mul_right _ hf
      _ = n * 2 ^ a * 2 ^ 52 := mul_right_comm ..
      _ < m' * 2 ^ b * 2 ^ 52 := Nat.mul_lt_mul_of_pos_right h (by decide)
      _ = m' * 2 ^ (52 + b) := by rw [mul_assoc, ← pow_add, add_comm b]
    exact Nat.lt_of_mul_lt_mul_right hmul
  rcases hnext.eq with ⟨rfl, hm⟩ | ⟨rfl, rfl, hcarry⟩ <;> omega

theorem le_finite {m m' : Nat} {e e' : Int} (hm : 0 < m) (hm' : 0 < m') (h : e < e' ∨ e = e' ∧ m ≤ m') :
    UnpackedFloat.le (.finite .positive m e hm) (.finite .positive m' e' hm') = true := by
  have hcompare : UnpackedFloat.le (.finite .positive m e hm) (.finite .positive m' e' hm') =
      ((compare e e').then (compare m m')).isLE := rfl
  rw [hcompare]
  rcases h with h | ⟨rfl, h⟩
  · rw [Int.compare_eq_lt.mpr h]
    rfl
  · rw [Int.compare_eq_eq.mpr rfl]
    exact Nat.isLE_compare.mpr h

/-- What is not from the double for a number on comes to no more than the number, and so does what is no number. -/
theorem toNat_toUInt64_le {x : Float} {n : Nat} (hpos : 0 < n) (hn : n < 2 ^ 1000) (h : ¬Float.ofNat n ≤ x) :
    x.toUInt64.toNat ≤ n := by
  obtain ⟨f, m, e, hm, hof, hnext, hf⟩ := unpack_ofNat hpos hn
  have hle : ¬UnpackedFloat.le (.finite .positive m e hm) x.toModel.unpack = true := fun hle => by
    refine h (decide_eq_true ?_)
    show UnpackedFloat.le (Float.ofNat n).toModel.unpack x.toModel.unpack = true
    rwa [hof]
  show (UnpackedFloat.toUInt64 x.toModel.unpack).toNat ≤ n
  cases hx : x.toModel.unpack with
  | notANumber => exact Nat.zero_le n
  | zero s => exact Nat.zero_le n
  | infinity s =>
    cases s with
    | negative => exact Nat.zero_le n
    | positive => exact absurd (hx ▸ rfl) hle
  | finite s m' e' hm' =>
    cases s with
    | negative =>
      have hneg (k : Nat) : (Sign.negative.apply k).toNat = 0 := Int.toNat_neg_natCast k
      rw [UnpackedFloat.toUInt64, toInt_finite, hneg]
      exact Nat.zero_le n
    | positive =>
      obtain ⟨hlt, hcanonical⟩ := canonical_of_unpack hx
      by_contra hgt
      have hwhole : n + 1 ≤ m' * 2 ^ e'.toNat / 2 ^ (-e').toNat :=
        Nat.lt_of_lt_of_le (Nat.not_le.mp hgt) (toNat_toUInt64_finite_le m' e' hm')
      have hvalue : n * 2 ^ (-e').toNat < m' * 2 ^ e'.toNat :=
        lt_of_lt_of_le (Nat.mul_lt_mul_of_pos_right (Nat.lt_succ_self n) (Nat.two_pow_pos _))
          ((Nat.le_div_iff_mul_le (Nat.two_pow_pos _)).mp hwhole)
      exact hle (hx ▸ le_finite hm hm' (le_of_isNext hpos hnext hf hlt hcanonical hvalue))

end EndpointWatch.Double
