import Mathlib
import EndpointWatch.Proofs.Stats.Double

/-!
# Rounding to a double

An exact positive value whose exponent is not too small is rounded to one of the two doubles around it: the mantissa is
cut to 53 bits, and then one is added or not (`exists_roundWithAccuracy`). Adding one can carry over, and the mantissa
is shifted once more. A mantissa of 53 bits survives its bit pattern (`unpack_pack`), and a bit pattern has no other
mantissas but with the smallest exponent (`canonical_of_unpack`).
-/

namespace EndpointWatch.Double

open Float.Model (Format UnpackedFloat)
open Float.Model.UnpackedFloat

/-! ### Mantissas -/

theorem log2_eq {m : Nat} (hlo : 2 ^ 52 ≤ m) (hhi : m < 2 ^ 53) : m.log2 = 52 :=
  (Nat.log2_eq_iff (by omega)).mpr ⟨hlo, hhi⟩

theorem mantissa_shiftRight (em : ExtendedMantissa) (n : Nat) : (em >>> n).mantissa = em.mantissa / 2 ^ n := by
  show (Nat.repeat ExtendedMantissa.shiftRightOne n em).mantissa = _
  induction n with
  | zero => exact (Nat.div_one _).symm
  | succ n ih =>
    rw [Nat.repeat, pow_succ, ← Nat.div_div_eq_div_mul, ← ih]
    rfl

theorem roundedMantissa_eq_or (em : ExtendedMantissa) :
    em.roundedMantissa = em.mantissa ∨ em.roundedMantissa = em.mantissa + 1 := by
  have htie (m : Nat) : m + m % 2 = m ∨ m + m % 2 = m + 1 := by omega
  match em with
  | ⟨_, false, false⟩ | ⟨_, false, true⟩ => exact .inl rfl
  | ⟨m, true, false⟩ => exact htie m
  | ⟨_, true, true⟩ => exact .inr rfl

/-- An exact mantissa without its lowest `n` bits, and what is known of these. -/
def shifted (m n : Nat) : ExtendedMantissa := ExtendedMantissa.ofMantissaAndAccuracy m .exact >>> n

theorem mantissa_shifted (m n : Nat) : (shifted m n).mantissa = m / 2 ^ n := mantissa_shiftRight ..

theorem roundedMantissa_shifted (m n : Nat) :
    (shifted m n).roundedMantissa = m / 2 ^ n ∨ (shifted m n).roundedMantissa = m / 2 ^ n + 1 := by
  have h := roundedMantissa_eq_or (shifted m n)
  rwa [mantissa_shifted] at h

theorem div_pow_spec {m k : Nat} (hpos : 0 < m) (hlog : m.log2 = 52 + k) :
    2 ^ 52 ≤ m / 2 ^ k ∧ m / 2 ^ k < 2 ^ 53 := by
  obtain ⟨hlo, hhi⟩ := (Nat.log2_eq_iff hpos.ne').mp hlog
  rw [pow_add] at hlo
  rw [add_right_comm, pow_add] at hhi
  exact ⟨(Nat.le_div_iff_mul_le (by positivity)).mpr hlo, (Nat.div_lt_iff_lt_mul (by positivity)).mpr hhi⟩

/-! ### Rounding -/

/-- How far a mantissa is shifted: to 53 bits, but not below the smallest exponent. -/
theorem shiftToTargetExponent_eq {m n : Nat} {e : Int}
    (h : (max ((m.log2 : Int) + 1 + e - 53) (-1074) - e).toNat = n) :
    shiftToTargetExponent .binary64 m e .exact = (shifted m n, e + n) := by
  subst h
  rfl

theorem roundWithAccuracy_eq {m n r j m' : Nat} {e : Int}
    (hfirst : shiftToTargetExponent .binary64 m e .exact = (shifted m n, e + n))
    (hround : (shifted m n).roundedMantissa = r)
    (hsecond : shiftToTargetExponent .binary64 r (e + n) .exact = (shifted r j, e + n + j))
    (hshift : r / 2 ^ j = m') (hpos : 0 < m') :
    roundWithAccuracy .binary64 .positive m e .exact = .finite .positive m' (e + n + j) hpos := by
  have hmantissa : (shifted r j).mantissa = m' := (mantissa_shifted r j).trans hshift
  simp only [roundWithAccuracy, hfirst, hround, hsecond, hmantissa, hpos.ne', dite_false]

/-- A double with 53 bits is what `f`, with exponent `t`, is rounded to: itself or the next one above. -/
structure IsNext (f : Nat) (t : Int) (m : Nat) (e : Int) : Prop where
  le : 2 ^ 52 ≤ m
  lt : m < 2 ^ 53
  eq : e = t ∧ (m = f ∨ m = f + 1) ∨ e = t + 1 ∧ m = 2 ^ 52 ∧ f + 1 = 2 ^ 53

theorem exists_roundWithAccuracy {m k : Nat} {e : Int} (hpos : 0 < m) (hlog : m.log2 = 52 + k) (he : -1074 ≤ e + k) :
    ∃ m' e' hm', roundWithAccuracy .binary64 .positive m e .exact = .finite .positive m' e' hm' ∧
      IsNext (m / 2 ^ k) (e + k) m' e' := by
  obtain ⟨hlo, hhi⟩ := div_pow_spec hpos hlog
  have hfirst := shiftToTargetExponent_eq (m := m) (n := k) (e := e) (by omega)
  have hround := roundedMantissa_shifted m k
  obtain ⟨r, hr⟩ : ∃ r, (shifted m k).roundedMantissa = r := ⟨_, rfl⟩
  rw [hr] at hround
  -- one more can carry over into a 54th bit; all below it are zero then, so that the second shift is exact
  by_cases hcarry : r < 2 ^ 53
  · have hlog := log2_eq (m := r) (by omega) hcarry
    have hsecond := shiftToTargetExponent_eq (m := r) (n := 0) (e := e + k) (by omega)
    refine ⟨r, _, by omega, roundWithAccuracy_eq hfirst hr hsecond (Nat.div_one r) (by omega), by omega, hcarry, ?_⟩
    exact .inl ⟨by omega, hround⟩
  · obtain rfl : r = 2 ^ 53 := by omega
    have hlog : (2 ^ 53).log2 = 53 := by decide
    have hsecond := shiftToTargetExponent_eq (m := 2 ^ 53) (n := 1) (e := e + k) (by omega)
    have hshift : 2 ^ 53 / 2 ^ 1 = 2 ^ 52 := by decide
    refine ⟨2 ^ 52, _, by decide, roundWithAccuracy_eq hfirst hr hsecond hshift (by decide), le_rfl, by decide, ?_⟩
    exact .inr ⟨by omega, rfl, by omega⟩

theorem roundWithAccuracy_self {m : Nat} {e : Int} (hlo : 2 ^ 52 ≤ m) (hhi : m < 2 ^ 53) (he : -1074 ≤ e) :
    roundWithAccuracy .binary64 .positive m e .exact = .finite .positive m e (by omega) := by
  have hlog := log2_eq hlo hhi
  have hfirst := shiftToTargetExponent_eq (m := m) (n := 0) (e := e) (by omega)
  have hsecond := shiftToTargetExponent_eq (m := m) (n := 0) (e := e + (0 : Nat)) (by omega)
  have hround : (shifted m 0).roundedMantissa = m := rfl
  rw [roundWithAccuracy_eq hfirst hround hsecond (Nat.div_one m) (by omega)]
  congr 1
  omega

/-! ### Bit patterns -/

theorem getLsbD_append_append {w v : Nat} (s : BitVec 1) (e : BitVec w) (m : BitVec v) :
    (s ++ e ++ m).getLsbD (v + w) = s.getLsbD 0 := by
  rw [BitVec.getLsbD_append, BitVec.getLsbD_append, if_neg (by omega), if_neg (by omega)]
  congr 1
  omega

theorem unpackSign_packComponents (s : Sign) (e : BitVec 11) (m : BitVec 52) :
    unpackSign (packComponents .binary64 s e m) = s.toBitVec := by
  refine BitVec.eq_of_getLsbD_eq fun i hi => ?_
  obtain rfl : i = 0 := by omega
  have h : (packComponents .binary64 s e m).getLsbD 63 = s.toBitVec.getLsbD 0 :=
    getLsbD_append_append s.toBitVec e m
  rw [← h, unpackSign, BitVec.getLsbD_cast, BitVec.getLsbD_extractLsb]
  rfl

theorem unpack_packComponents {e : BitVec 11} (m : BitVec 52) (h0 : e ≠ 0) (h1 : e ≠ -1) :
    unpack .binary64 (packComponents .binary64 .positive e m) =
      .finite .positive (1#1 ++ m).toNat (e.toNat - 1075) (by rw [toNat_one_append]; omega) := by
  unfold unpack
  simp only [unpackSign_packComponents, unpackExponent_packComponents, unpackMantissa_packComponents]
  exact (if_neg h1).trans (if_neg h0)

/-- A mantissa of 53 bits, with an exponent that has room, is read back. -/
theorem unpack_pack {m : Nat} {e : Int} (hlo : 2 ^ 52 ≤ m) (hhi : m < 2 ^ 53) (he : -1074 ≤ e) (he' : e ≤ 971) :
    (Float.Model.pack (.finite .positive m e (by omega))).unpack = .finite .positive m e (by omega) := by
  obtain ⟨b, hb⟩ : ∃ b, (e + 1075).toNat = b := ⟨_, rfl⟩
  have hexponent : (BitVec.ofNat 11 b).toNat = b := Nat.mod_eq_of_lt (by omega)
  have hmantissa : (BitVec.ofNat 52 m).toNat = m - 2 ^ 52 := by
    rw [BitVec.toNat_ofNat]
    omega
  have hone := toNat_one_append (.ofNat 52 m)
  have hpack : pack .binary64 (.finite .positive m e (by omega)) =
      packComponents .binary64 .positive (.ofNat 11 b) (.ofNat 52 m) := by
    have hbias : (e + Format.binary64.exponentBias + Format.binary64.mantissaBitsWithoutImplicit).toNat = b := by
      rw [← hb, add_assoc]
      rfl
    have hfits : ¬2 ^ Format.binary64.exponentBits ≤ b + 1 := by
      show ¬2 ^ 11 ≤ b + 1
      omega
    have hbits : m.log2 + 1 = Format.binary64.mantissaBits := congrArg (· + 1) (log2_eq hlo hhi)
    simp only [pack, hbias, if_neg hfits, if_pos hbits]
  show unpack .binary64 (pack .binary64 (.finite .positive m e (by omega))) = _
  -- the exponent is neither of the two that have a meaning of their own
  rw [hpack, unpack_packComponents]
  · congr 1 <;> omega
  · intro h
    have : b = 0 := hexponent.symm.trans (congrArg BitVec.toNat h)
    omega
  · intro h
    have : b = 2047 := hexponent.symm.trans (congrArg BitVec.toNat h)
    omega

/-- A finite double has 53 bits, or fewer with the smallest exponent. -/
theorem canonical_of_unpack {b : Bits} {s : Sign} {m : Nat} {e : Int} {hm : 0 < m}
    (h : unpack .binary64 b = .finite s m e hm) : m < 2 ^ 53 ∧ (2 ^ 52 ≤ m ∨ e = -1074) := by
  have hlt : (unpackMantissa b).toNat < 2 ^ 52 := (unpackMantissa b).isLt
  have hone := toNat_one_append (unpackMantissa b)
  unfold unpack at h
  simp only [] at h
  split at h
  · split at h <;> cases h
  split at h
  · next he =>
    split at h
    · cases h
    · injection h with _ hmantissa hexponent
      rw [he] at hexponent
      have hexponent : -1074 = e := hexponent
      omega
  · injection h with _ hmantissa hexponent
    omega

end EndpointWatch.Double
