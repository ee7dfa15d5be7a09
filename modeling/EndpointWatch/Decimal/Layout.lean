import EndpointWatch.Decimal.Shortest

/-!
# How a double is written

Two layouts of the shortest digits: `plain` never has an exponent and leaves a whole number without a
point; `scientific` keeps `.0` on whole numbers and turns to an exponent of at least two digits, always
signed, below `10⁻⁵` and from `10¹⁶` on. `read?` reads either back.
-/

namespace EndpointWatch.Decimal

def zeros (n : Nat) : List Char := List.replicate n '0'

namespace Digits

/-- Digits around the point, with nothing behind the point of a whole number. -/
def plain (d : Digits) : List Char :=
  if d.digits.isEmpty then ['0']
  else if d.point ≤ 0 then '0' :: '.' :: (zeros (-d.point).toNat ++ d.digits)
  else
    let k := d.point.toNat
    if k < d.digits.length then d.digits.take k ++ '.' :: d.digits.drop k
    else d.digits ++ zeros (k - d.digits.length)

/-- One digit, the others behind the point, then the exponent. -/
def withExponent (d : Digits) : List Char :=
  let e := d.point - 1
  let size := Nat.toDigits 10 e.natAbs
  let digits := match d.digits with
    | [] => ['0']
    | [c] => [c]
    | c :: rest => c :: '.' :: rest
  digits ++ 'e' :: (if e < 0 then '-' else '+') :: (zeros (2 - size.length) ++ size)

/-- Positional text for magnitudes in `[10⁻⁵, 10¹⁶)` and for zero, else an exponent. -/
def scientific (d : Digits) : List Char :=
  if d.digits.isEmpty then ['0', '.', '0']
  else if -4 ≤ d.point ∧ d.point ≤ 16 then
    if d.digits.length ≤ d.point then d.plain ++ ['.', '0'] else d.plain
  else d.withExponent

end Digits

/-- Puts sign and special names around the digits of a magnitude. -/
def Double.write (layout : Digits → List Char) : Double → List Char
  | .nan => ['N', 'a', 'N']
  | .infinite negative => (if negative then ['-'] else []) ++ ['i', 'n', 'f']
  | .finite negative size => (if negative then ['-'] else []) ++ layout size.shortest

/-- The text of a measured value: shortest digits, never an exponent, `-0` for negative zero. -/
def plain (x : Float) : String := .ofList ((Double.ofFloat x).write Digits.plain)

/-- The text of a value inside a message. -/
def scientific (x : Float) : String := .ofList ((Double.ofFloat x).write Digits.scientific)

/-- `m * 10 ^ e`, rounded once. Exponents too large for any double are cut off first. -/
def scale (m : Nat) (e : Int) : Float :=
  if m = 0 then 0
  else if 400 < e then 1 / 0
  else if e + digitCount m < -400 then 0
  else .ofScientific m (e < 0) e.natAbs

/-- An exponent part, sign optional; no text is the exponent 0. -/
def readExponent? : List Char → Option Int
  | [] => some 0
  | c :: rest =>
    if c = 'e' ∨ c = 'E' then
      let (negative, ds) := match rest with
        | '-' :: ds => (true, ds)
        | '+' :: ds => (false, ds)
        | ds => (false, ds)
      if ds.isEmpty || !ds.all Char.isDigit then none
      else
        let e := Nat.ofDigitChars 10 ds 0
        some (if negative then -e else e)
    else none

/-- A magnitude: digits with an optional point, then an optional exponent. -/
def readMagnitude? (cs : List Char) : Option Float :=
  let whole := cs.takeWhile Char.isDigit
  let rest := cs.dropWhile Char.isDigit
  let (part, rest) := match rest with
    | '.' :: r => (r.takeWhile Char.isDigit, r.dropWhile Char.isDigit)
    | r => ([], r)
  if whole.isEmpty && part.isEmpty then none
  else (readExponent? rest).map fun e => scale (Nat.ofDigitChars 10 (whole ++ part) 0) (e - part.length)

/-- Reads a double; the result is the double nearest to the decimal. -/
def read? (s : String) : Option Float :=
  let (negative, cs) := match s.toList with
    | '-' :: cs => (true, cs)
    | '+' :: cs => (false, cs)
    | cs => (false, cs)
  let name := cs.map Char.toLower
  let size := if name = "nan".toList then some (0 / 0)
    else if name = "inf".toList ∨ name = "infinity".toList then some (1 / 0)
    else readMagnitude? cs
  size.map fun x => if negative then -x else x

end EndpointWatch.Decimal
