import Mathlib
import EndpointWatch.Stats.Aggregate

/-!
# The order of doubles

Apart from NaN the doubles are ordered by sign, exponent and mantissa (`lt_iff`), and this order tells all of them
apart but the two zeros (`eq_of_rank_eq`).
-/

namespace EndpointWatch.Double

open Float.Model (Format UnpackedFloat)
open Float.Model.UnpackedFloat

/-! ### Fields of the bit pattern -/

abbrev Bits := BitVec Format.binary64.numBits

theorem bits_ext {b c : Bits} (hs : unpackSign b = unpackSign c) (he : unpackExponent b = unpackExponent c)
    (hm : unpackMantissa b = unpackMantissa c) : b = c := by
  have hs := congrArg BitVec.toNat hs
  have he := congrArg BitVec.toNat he
  have hm := congrArg BitVec.toNat hm
  have hb : b.toNat < 2 ^ 64 := b.isLt
  have hc : c.toNat < 2 ^ 64 := c.isLt
  simp only [unpackSign, unpackExponent, unpackMantissa, BitVec.toNat_cast, BitVec.extractLsb_toNat,
    Nat.shiftRight_eq_div_pow, Nat.reduceAdd, Nat.reduceSub, Nat.reducePow] at hs he hm hb hc
  exact BitVec.eq_of_toNat_eq (by omega)

/-- The sign, exponent and mantissa of the bit pattern that stands for a value. -/
def fields : UnpackedFloat → Sign × Nat × Nat
  | .notANumber => (.positive, 0, 0)
  | .infinity s => (s, 2 ^ 11 - 1, 0)
  | .zero s => (s, 0, 0)
  | .finite s m e _ => if m < 2 ^ 52 then (s, 0, m) else (s, (e + 1075).toNat, m - 2 ^ 52)

theorem toNat_one_append (m : BitVec 52) : (1#1 ++ m).toNat = 2 ^ 52 + m.toNat := by
  rw [BitVec.toNat_append, ← Nat.shiftLeft_add_eq_or_of_lt m.isLt, Nat.shiftLeft_eq]
  rfl

theorem fields_unpack {b : Bits} (hb : unpack .binary64 b ≠ .notANumber) :
    fields (unpack .binary64 b) =
      (Sign.ofBitVec (unpackSign b), (unpackExponent b).toNat, (unpackMantissa b).toNat) := by
  have hm : (unpackMantissa b).toNat < 2 ^ 52 := (unpackMantissa b).isLt
  unfold unpack at hb ⊢
  simp only [] at hb ⊢
  split at hb
  · next he =>
    split at hb
    · next h0 => rw [if_pos he, if_pos h0, he, h0]; rfl
    · exact absurd rfl hb
  · next he =>
    rw [if_neg he]
    split
    · next h0 =>
      split
      · next hz => rw [h0, hz]; rfl
      · rw [fields, if_pos hm, h0]; rfl
    · have hone := toNat_one_append (unpackMantissa b)
      have hbias : (Format.binary64.exponentBias + Format.binary64.mantissaBitsWithoutImplicit : Int) = 1075 := rfl
      rw [fields, if_neg (by omega), hbias, Int.sub_add_cancel, Int.toNat_natCast, hone, Nat.add_sub_cancel_left]

theorem ofBitVec_inj {v w : BitVec 1} (h : Sign.ofBitVec v = Sign.ofBitVec w) : v = w := by
  have hv (u : BitVec 1) : u = (Sign.ofBitVec u).toBitVec := by
    rcases BitVec.eq_zero_or_eq_one u with rfl | rfl <;> rfl
  rw [hv v, hv w, h]

/-- Reading a bit pattern loses nothing but which NaN it was. -/
theorem unpack_inj {b c : Bits} (h : unpack .binary64 b = unpack .binary64 c)
    (hb : unpack .binary64 b ≠ .notANumber) : b = c := by
  have hf := congrArg fields h
  rw [fields_unpack hb, fields_unpack (h ▸ hb)] at hf
  injection hf with hs hf
  injection hf with he hm
  exact bits_ext (ofBitVec_inj hs) (BitVec.eq_of_toNat_eq he) (BitVec.eq_of_toNat_eq hm)

/-! ### The order -/

/-- Where a value stands: its kind from negative to positive infinity, then its exponent, then its mantissa. -/
def rank : UnpackedFloat → Int × Int × Int
  | .infinity .negative => (-2, 0, 0)
  | .finite .negative m e _ => (-1, -e, -m)
  | .notANumber | .zero _ => (0, 0, 0)
  | .finite .positive m e _ => (1, e, m)
  | .infinity .positive => (2, 0, 0)

/-- The lexicographic order of ranks. -/
def Below (a b : Int × Int × Int) : Prop :=
  a.1 < b.1 ∨ a.1 = b.1 ∧ (a.2.1 < b.2.1 ∨ a.2.1 = b.2.1 ∧ a.2.2 < b.2.2)

theorem compare_eq_lt {u v : UnpackedFloat} (hu : u ≠ .notANumber) (hv : v ≠ .notANumber) :
    u.compare v = some .lt ↔ Below (rank u) (rank v) := by
  have hs : compare Sign.negative Sign.positive = .lt := rfl
  rcases u with ⟨_ | _⟩ | _ | _ | ⟨_ | _, m, e, hm⟩ <;> rcases v with ⟨_ | _⟩ | _ | _ | ⟨_ | _, m', e', hm'⟩ <;>
    simp [UnpackedFloat.compare, rank, Below, Ordering.then_eq_lt, Ordering.then_eq_gt, Int.compare_eq_lt,
      Nat.compare_eq_lt, Int.compare_eq_gt, Nat.compare_eq_gt, hs] at hu hv ⊢

theorem compare_eq_eq {u v : UnpackedFloat} (hu : u ≠ .notANumber) (hv : v ≠ .notANumber) :
    u.compare v = some .eq ↔ rank u = rank v := by
  have hs (s : Sign) : compare s s = .eq := by cases s <;> rfl
  rcases u with ⟨_ | _⟩ | _ | _ | ⟨_ | _, m, e, hm⟩ <;> rcases v with ⟨_ | _⟩ | _ | _ | ⟨_ | _, m', e', hm'⟩ <;>
    simp [UnpackedFloat.compare, rank, hs] at hu hv ⊢

/-- Only the two zeros share a rank. -/
theorem eq_of_rank_eq {u v : UnpackedFloat} (hu : u ≠ .notANumber) (hv : v ≠ .notANumber) (h : rank u = rank v)
    (hz : u ≠ .zero .negative) (hz' : v ≠ .zero .negative) : u = v := by
  rcases u with ⟨_ | _⟩ | _ | ⟨_ | _⟩ | ⟨_ | _, m, e, hm⟩ <;>
    rcases v with ⟨_ | _⟩ | _ | ⟨_ | _⟩ | ⟨_ | _, m', e', hm'⟩ <;>
    simp [rank] at hu hv hz hz' h ⊢ <;> omega

/-! ### On doubles -/

/-- A double that is a number, and not the negative zero. -/
structure IsPlain (x : Float) : Prop where
  isNaN : x.isNaN = false
  ne_negZero : x ≠ -0

instance (x : Float) : Decidable (IsPlain x) :=
  decidable_of_iff (x.isNaN = false ∧ x ≠ -0) ⟨fun h => ⟨h.1, h.2⟩, fun h => ⟨h.1, h.2⟩⟩

variable {x y z : Float}

theorem unpack_ne_of_isNaN (h : x.isNaN = false) : x.toModel.unpack ≠ .notANumber := by
  intro hx
  rw [Float.isNaN, Float.Model.isNaN, hx] at h
  cases h

theorem IsPlain.unpack_ne (h : IsPlain x) : x.toModel.unpack ≠ .notANumber := unpack_ne_of_isNaN h.isNaN

theorem eq_of_unpack_eq (h : x.toModel.unpack = y.toModel.unpack) (hx : x.toModel.unpack ≠ .notANumber) : x = y := by
  obtain ⟨⟨b, hb⟩⟩ := x
  obtain ⟨⟨c, hc⟩⟩ := y
  obtain rfl : b = c := UInt64.toBitVec_inj.mp (unpack_inj h hx)
  rfl

theorem IsPlain.unpack_ne_zero (h : IsPlain x) : x.toModel.unpack ≠ .zero .negative := by
  intro hx
  have hz : (-0 : Float).toModel.unpack = .zero .negative := by rfl
  exact h.ne_negZero (eq_of_unpack_eq (hx.trans hz.symm) h.unpack_ne)

/-- Where a double stands. -/
def place (x : Float) : Int × Int × Int := rank x.toModel.unpack

theorem lt_iff (hx : x.isNaN = false) (hy : y.isNaN = false) : x < y ↔ Below (place x) (place y) := by
  rw [place, place, ← compare_eq_lt (unpack_ne_of_isNaN hx) (unpack_ne_of_isNaN hy)]
  show decide (x.toModel.unpack.lt y.toModel.unpack = true) = true ↔ _
  rw [decide_eq_true_iff, UnpackedFloat.lt, beq_iff_eq]

theorem IsPlain.eq_of_place_eq (hx : IsPlain x) (hy : IsPlain y) (h : place x = place y) : x = y :=
  eq_of_unpack_eq (eq_of_rank_eq hx.unpack_ne hy.unpack_ne h hx.unpack_ne_zero hy.unpack_ne_zero) hx.unpack_ne

/-- A plain double that equals zero is the positive zero. -/
theorem IsPlain.eq_zero (hx : IsPlain x) (h : x == 0) : x = 0 := by
  have h0 : IsPlain 0 := ⟨by rfl, by intro h; cases h⟩
  refine hx.eq_of_place_eq h0 ((compare_eq_eq hx.unpack_ne h0.unpack_ne).mp ?_)
  exact beq_iff_eq.mp h

theorem IsPlain.lt_or_lt (hx : IsPlain x) (hy : IsPlain y) (hne : x ≠ y) : x < y ∨ y < x := by
  rw [lt_iff hx.isNaN hy.isNaN, lt_iff hy.isNaN hx.isNaN]
  by_cases h : place x = place y
  · exact absurd (hx.eq_of_place_eq hy h) hne
  · rw [Prod.ext_iff, Prod.ext_iff] at h
    simp only [Below]
    omega

theorem lt_asymm (hx : x.isNaN = false) (hy : y.isNaN = false) (h : x < y) : ¬y < x := by
  rw [lt_iff hx hy] at h
  rw [lt_iff hy hx]
  simp only [Below] at h ⊢
  omega

theorem lt_or_lt_of_lt (hx : x.isNaN = false) (hy : y.isNaN = false) (hz : z.isNaN = false) (h : x < z) :
    x < y ∨ y < z := by
  rw [lt_iff hx hz] at h
  rw [lt_iff hx hy, lt_iff hy hz]
  simp only [Below] at h ⊢
  omega

/-! ### The smallest and the largest of some doubles -/

open Aggregate

/-- A strict order of the doubles, from below or from above, that tells plain ones apart. -/
structure Strict (r : Float → Float → Prop) : Prop where
  asymm : ∀ x y, x.isNaN = false → y.isNaN = false → r x y → ¬r y x
  cotrans : ∀ x y z, x.isNaN = false → y.isNaN = false → z.isNaN = false → r x z → r x y ∨ r y z
  total : ∀ x y, IsPlain x → IsPlain y → x ≠ y → r x y ∨ r y x

theorem strict_lt : Strict (· < ·) where
  asymm _ _ := lt_asymm
  cotrans _ _ _ := lt_or_lt_of_lt
  total _ _ := IsPlain.lt_or_lt

theorem strict_gt : Strict (· > ·) where
  asymm _ _ hx hy h := lt_asymm hy hx h
  cotrans _ _ _ hx hy hz h := (lt_or_lt_of_lt hz hy hx h).symm
  total _ _ hx hy hne := (hx.lt_or_lt hy hne).symm

/-- The first one of two doubles in some order; a NaN gives way. -/
def first (r : Float → Float → Prop) [DecidableRel r] (x y : Float) : Float :=
  if x.isNaN then y else if r y x then y else x

variable {r : Float → Float → Prop} [DecidableRel r]

theorem first_right_comm (hr : Strict r) (hx : IsPlain x) (hy : IsPlain y) (z : Float) :
    first r (first r z x) y = first r (first r z y) x := by
  by_cases hne : x = y
  · rw [hne]
  have hnx := hx.isNaN
  have hny := hy.isNaN
  have htotal := hr.total x y hx hy hne
  have hasymm := hr.asymm x y hnx hny
  cases hz : z.isNaN with
  | true =>
    simp only [first, hz, hnx, hny, if_true, if_false, Bool.false_eq_true]
    grind
  | false =>
    have hxz := hr.cotrans x y z hnx hny hz
    have hyz := hr.cotrans y x z hny hnx hz
    simp only [first, hz, Bool.false_eq_true, if_false]
    grind

/-- The smallest and the largest of some plain doubles do not depend on their order. -/
theorem foldl_first_perm (hr : Strict r) {xs ys : List Float} (h : xs.Perm ys) (hxs : ∀ x ∈ xs, IsPlain x)
    (z : Float) : xs.foldl (first r) z = ys.foldl (first r) z :=
  h.foldl_eq' (fun x hx y hy z => first_right_comm hr (hxs x hx) (hxs y hy) z) z

theorem foldl_lesser_perm {xs ys : List Float} (h : xs.Perm ys) (hxs : ∀ x ∈ xs, IsPlain x) (z : Float) :
    xs.foldl lesser z = ys.foldl lesser z :=
  foldl_first_perm strict_lt h hxs z

theorem foldl_greater_perm {xs ys : List Float} (h : xs.Perm ys) (hxs : ∀ x ∈ xs, IsPlain x) (z : Float) :
    xs.foldl greater z = ys.foldl greater z :=
  foldl_first_perm strict_gt h hxs z

end EndpointWatch.Double
