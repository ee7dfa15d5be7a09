import EndpointWatch.Arith
import EndpointWatch.Json.Fault
import EndpointWatch.Text.Hex

/-!
# Strings and numbers of JSON

The scanners of the two kinds of token that carry content. `text` gives the content of a string and
`skipText` only its end; a skipped string may hold half of a surrogate pair. A number is first cut into its
parts, and `Number.value?` then says which value they stand for.
-/

namespace EndpointWatch.Json

open scoped EndpointWatch.Arith

/-- Blank between tokens. -/
def isBlank (c : Char) : Bool := c = ' ' || c = '\n' || c = '\t' || c = '\r'

def skipBlank (cs : List Char) : List Char := cs.dropWhile isBlank

/-! ### Strings -/

/-- The number written with four hexadecimal digits. -/
def hex4? : List Char → Option (Nat × List Char)
  | a :: b :: c :: d :: rest => do
    let a ← Text.hexValue? a
    let b ← Text.hexValue? b
    let c ← Text.hexValue? c
    let d ← Text.hexValue? d
    some (((a * 16 + b) * 16 + c) * 16 + d, rest)
  | _ => none

/-- The character that a letter stands for behind a backslash. -/
def shortEscape? (c : Char) : Option Char :=
  match c with
  | '"' => some '"'
  | '\\' => some '\\'
  | '/' => some '/'
  | 'b' => some '\x08'
  | 'f' => some '\x0c'
  | 'n' => some '\n'
  | 'r' => some '\r'
  | 't' => some '\t'
  | _ => none

/-- The second half of a surrogate pair, written as an escape. -/
def lowHalf? : List Char → Option (Nat × List Char)
  | '\\' :: 'u' :: rest => do
    let (n, rest) ← hex4? rest
    if 0xdc00 ≤ n ∧ n ≤ 0xdfff then some (n, rest) else none
  | _ => none

/-- The character escaped behind a backslash. -/
def escape? : List Char → Option (Char × List Char)
  | 'u' :: rest => do
    let (n, rest) ← hex4? rest
    if 0xdc00 ≤ n ∧ n ≤ 0xdfff then none
    else if 0xd800 ≤ n ∧ n ≤ 0xdbff then do
      let (m, rest) ← lowHalf? rest
      some (.ofNat ((n - 0xd800) * 0x400 + (m - 0xdc00) + 0x10000), rest)
    else some (.ofNat n, rest)
  | c :: rest => (shortEscape? c).map (·, rest)
  | [] => none

/-- An escape as far as its form goes. -/
def skipEscape? : List Char → Option (List Char)
  | 'u' :: rest => (hex4? rest).map (·.2)
  | c :: rest => (shortEscape? c).map fun _ => rest
  | [] => none

theorem length_hex4? {cs rest : List Char} {n : Nat} (h : hex4? cs = some (n, rest)) :
    rest.length < cs.length := by
  unfold hex4? at h
  split at h
  · simp only [Option.bind_eq_bind, Option.bind_eq_some_iff, Option.some.injEq, Prod.mk.injEq] at h
    obtain ⟨_, _, _, _, _, _, _, _, _, rfl⟩ := h
    simp; omega
  · simp at h

theorem length_lowHalf? {cs rest : List Char} {n : Nat} (h : lowHalf? cs = some (n, rest)) :
    rest.length < cs.length := by
  unfold lowHalf? at h
  split at h
  · simp only [Option.bind_eq_bind, Option.bind_eq_some_iff] at h
    obtain ⟨p, hp, h⟩ := h
    have := length_hex4? hp
    simp only [Option.ite_none_right_eq_some, Option.some.injEq, Prod.mk.injEq] at h
    obtain ⟨_, _, rfl⟩ := h
    simp; omega
  · simp at h

theorem length_escape? {cs rest : List Char} {c : Char} (h : escape? cs = some (c, rest)) :
    rest.length < cs.length := by
  unfold escape? at h
  split at h
  · simp only [Option.bind_eq_bind, Option.bind_eq_some_iff] at h
    obtain ⟨p, hp, h⟩ := h
    have h1 := length_hex4? hp
    simp only [Option.ite_none_left_eq_some] at h
    obtain ⟨_, h⟩ := h
    split at h
    · simp only [Option.bind_eq_some_iff, Option.some.injEq, Prod.mk.injEq] at h
      obtain ⟨q, hq, _, rfl⟩ := h
      have h2 := length_lowHalf? hq
      simp; omega
    · simp only [Option.some.injEq, Prod.mk.injEq] at h
      obtain ⟨_, rfl⟩ := h
      simp; omega
  · simp at h; obtain ⟨_, _, _, rfl⟩ := h; simp
  · simp at h

theorem length_skipEscape? {cs rest : List Char} (h : skipEscape? cs = some rest) :
    rest.length < cs.length := by
  unfold skipEscape? at h
  split at h
  · simp only [Option.map_eq_some_iff] at h
    obtain ⟨p, hp, rfl⟩ := h
    have := length_hex4? hp
    simp; omega
  · simp at h; obtain ⟨_, _, rfl⟩ := h; simp
  · simp at h

/-- The content of a string up to its closing quote. Controls must be escaped. -/
def text? : List Char → Option (List Char × List Char)
  | [] => none
  | c :: rest =>
    if c = '"' then some ([], rest)
    else if c = '\\' then
      match h : escape? rest with
      | some (d, rest') =>
        have := length_escape? h
        (text? rest').map fun (s, r) => (d :: s, r)
      | none => none
    else if c.toNat < 0x20 then none
    else (text? rest).map fun (s, r) => (c :: s, r)
termination_by cs => cs.length
decreasing_by all_goals simp_all; try omega

/-- What is behind the closing quote of a string. -/
def skipText? : List Char → Option (List Char)
  | [] => none
  | c :: rest =>
    if c = '"' then some rest
    else if c = '\\' then
      match h : skipEscape? rest with
      | some rest' =>
        have := length_skipEscape? h
        skipText? rest'
      | none => none
    else if c.toNat < 0x20 then none
    else skipText? rest
termination_by cs => cs.length
decreasing_by all_goals simp_all; try omega

/-! ### Numbers -/

/-- The parts of a number; the exponent is a sign and digits. -/
structure Number where
  negative : Bool
  whole : List Char
  part : Option (List Char)
  exponent : Option (Bool × List Char)
  deriving Repr, DecidableEq

/-- A run of at least one digit. -/
def digitRun? (cs : List Char) : Option (List Char × List Char) :=
  match cs.takeWhile Char.isDigit with
  | [] => none
  | ds => some (ds, cs.dropWhile Char.isDigit)

/-- Digits of a whole number, without zeros in front. -/
def whole? (cs : List Char) : Option (List Char × List Char) := do
  let (ds, rest) ← digitRun? cs
  match ds with
  | '0' :: _ :: _ => none
  | _ => some (ds, rest)

/-- A fraction, if a point follows. -/
def part? : List Char → Option (Option (List Char) × List Char)
  | '.' :: rest => (digitRun? rest).map fun (ds, rest) => (some ds, rest)
  | rest => some (none, rest)

/-- An exponent, if its letter follows; `true` stands for a minus sign. -/
def exponent? : List Char → Option (Option (Bool × List Char) × List Char)
  | [] => some (none, [])
  | c :: rest =>
    if c = 'e' ∨ c = 'E' then
      let (negative, rest) := match rest with
        | '-' :: rest => (true, rest)
        | '+' :: rest => (false, rest)
        | rest => (false, rest)
      (digitRun? rest).map fun (ds, rest) => (some (negative, ds), rest)
    else some (none, c :: rest)

/-- Cuts a number into its parts. -/
def number? (cs : List Char) : Option (Number × List Char) := do
  let (negative, cs) := match cs with
    | '-' :: cs => (true, cs)
    | cs => (false, cs)
  let (whole, cs) ← whole? cs
  let (part, cs) ← part? cs
  let (exponent, cs) ← exponent? cs
  some (⟨negative, whole, part, exponent⟩, cs)

/-- The value of a number: an integer if it is written as one and fits into 64 bits, else a double. -/
inductive NumberValue where
  | integer (n : Int)
  | float (x : Float)
  deriving Repr

namespace Number

/-- Appends digits to a 64-bit significand while it fits; gives the significand and the digits left. -/
def significand (s : Nat) : List Char → Nat × List Char
  | [] => (s, [])
  | d :: ds =>
    let s' := 10 * s + (d.toNat - '0'.toNat)
    if s' < 2 ^ (64 : Nat) then significand s' ds else (s, d :: ds)

/-- The powers of ten that scale a significand; each is a double of its own. -/
def tenTo (n : Nat) : Float := .ofScientific 1 false n

/-- `x / 10 ^ k`, in steps of at most 308 places. -/
def scaleDown (x : Float) (k : Nat) : Float :=
  if k ≤ 308 then x / tenTo k
  else if x == 0 then x
  else scaleDown (x / tenTo 308) (k - 308)
termination_by k

/-- A significand scaled by a power of ten; there is none beyond the largest double. -/
def scale? (s : Nat) (e : Int) : Option Float :=
  let x := s.toUInt64.toFloat
  if e < 0 then some (scaleDown x e.natAbs)
  else if 308 < e then if x == 0 then some x else none
  else
    let y := x * tenTo e.toNat
    if y.isInf then none else some y

/-- The magnitude as a double: as many digits as fit into 64 bits, scaled by the rest. Exponents stop at
`2 ^ 31`. -/
def magnitude? (n : Number) : Option Float :=
  let (s, dropped) := significand 0 n.whole
  let part := n.part.getD []
  let (s, left) := significand s part
  let e : Int := dropped.length - (part.length - left.length : Nat)
  match n.exponent with
  | none => scale? s e
  | some (negative, ds) =>
    let size := Text.toNat ds
    if size < 2 ^ (31 : Nat) then scale? s (if negative then e - size else e + size)
    else if s ≠ 0 ∧ !negative then none
    else some 0

/-- The value that the parts stand for; none if the magnitude is beyond all doubles. -/
def value? (n : Number) : Option NumberValue :=
  let float := n.magnitude?.map fun x => NumberValue.float (if n.negative then -x else x)
  match n.part, n.exponent with
  | none, none =>
    let size := Text.toNat n.whole
    if n.negative then
      if 0 < size ∧ size ≤ 2 ^ (63 : Nat) then some (.integer (-size)) else float
    else if size < 2 ^ (64 : Nat) then some (.integer size) else float
  | _, _ => float

end Number

end EndpointWatch.Json
