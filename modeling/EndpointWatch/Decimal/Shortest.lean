import EndpointWatch.Arith

/-!
# Shortest decimal digits of a binary number

`Binary.shortest x` is the decimal `⟨digits, point⟩` with the fewest digits among those that read back
as `x`; of two with equally few the nearer one, of two equally near the larger. Everything is exact
arithmetic on `Nat`: on the grid of `n` significant digits only the two neighbours of `x` can lie in
the interval of reals that round to `x`, so the first `n` for which one of them does gives the answer.
-/

namespace EndpointWatch.Decimal

open scoped EndpointWatch.Arith

/-- The number `mantissa * 2 ^ exponent`. `edge` says that the next smaller number is only half as far
away as the next larger one. -/
structure Binary where
  mantissa : Nat
  exponent : Int
  edge : Bool
  deriving DecidableEq, Repr

/-- What the bits of a double stand for. -/
inductive Double where
  | nan
  | infinite (negative : Bool)
  | finite (negative : Bool) (size : Binary)
  deriving DecidableEq, Repr

/-- Splits a double into sign and magnitude; subnormal numbers share the least exponent. -/
def Double.ofFloat (x : Float) : Double :=
  let bits := x.toBits.toNat
  let negative := bits / 2 ^ (63 : Nat) = 1
  let e : Nat := bits / 2 ^ (52 : Nat) % 2 ^ (11 : Nat)
  let m : Nat := bits % 2 ^ (52 : Nat)
  if e = 2047 then if m = 0 then .infinite negative else .nan
  else if e = 0 then .finite negative ⟨m, -1074, false⟩
  else .finite negative ⟨2 ^ (52 : Nat) + m, (e : Int) - 1075, m = 0 && e != 1⟩

/-- Decimal digits `d₁ … dₙ` with the point in front of place `point`: `0.d₁…dₙ * 10 ^ point`. -/
structure Digits where
  digits : List Char
  point : Int
  deriving DecidableEq, Repr

/-- `base ^ e` for `e ≥ 0`, else 1. -/
def powPos (base : Nat) (e : Int) : Nat := base ^ e.toNat

def digitCount (n : Nat) : Nat := (Nat.toDigits 10 n).length

/-- The `p` with `10 ^ p ≤ num / den < 10 ^ (p + 1)`, for positive arguments. -/
def decimalExponent (num den : Nat) : Int :=
  if den ≤ num then (digitCount (num / den) : Int) - 1
  else
    let c := digitCount (den / num)
    if den ≤ num * 10 ^ (c - 1) then -((c : Int) - 1) else -(c : Int)

namespace Binary

/-- `4 * mantissa * 2 ^ (exponent - 2)` is the number itself; so the ends of the interval that rounds
to it are whole multiples of the same power of two. -/
def quarters (x : Binary) : Nat := 4 * x.mantissa

def low (x : Binary) : Nat := x.quarters - if x.edge then 1 else 2

def high (x : Binary) : Nat := x.quarters + 2

/-- Whether `d * 10 ^ q` reads back as `x`; the ends of the interval belong to it for an even mantissa. -/
def readsBack (x : Binary) (d : Nat) (q : Int) : Bool :=
  let scale := powPos 2 (x.exponent - 2) * powPos 10 (-q)
  let here := d * (powPos 10 q * powPos 2 (2 - x.exponent))
  if x.mantissa % 2 = 0 then x.low * scale ≤ here && here ≤ x.high * scale
  else x.low * scale < here && here < x.high * scale

/-- The multiple of `10 ^ q` that reads back as `x` and lies nearest to it, if there is one. -/
def onGrid (x : Binary) (q : Int) : Option Nat :=
  let num := x.quarters * (powPos 2 (x.exponent - 2) * powPos 10 (-q))
  let den := powPos 10 q * powPos 2 (2 - x.exponent)
  let d := num / den
  match x.readsBack d q, x.readsBack (d + 1) q with
  | false, false => none
  | true, false => some d
  | false, true => some (d + 1)
  | true, true => if 2 * (num % den) < den then some d else some (d + 1)

def trimZeros (ds : List Char) : List Char := (ds.reverse.dropWhile (· == '0')).reverse

/-- Tries grids of `n, n + 1, …` digits, at most `tries` of them. -/
def search (x : Binary) (p : Int) : Nat → Nat → Option (Nat × Int)
  | 0, _ => none
  | tries + 1, n =>
    let q := p - n + 1
    match x.onGrid q with
    | some d => if d = 0 then search x p tries (n + 1) else some (d, q)
    | none => search x p tries (n + 1)

/-- The shortest digits that read back as `x`; no digits for zero. Seventeen digits always do. -/
def shortest (x : Binary) : Digits :=
  if x.mantissa = 0 then ⟨[], 0⟩
  else
    let p := decimalExponent (x.mantissa * powPos 2 x.exponent) (powPos 2 (-x.exponent))
    match x.search p 17 1 with
    | some (d, q) =>
      let ds := Nat.toDigits 10 d
      ⟨trimZeros ds, q + ds.length⟩
    | none => ⟨[], 0⟩

end Binary

end EndpointWatch.Decimal
