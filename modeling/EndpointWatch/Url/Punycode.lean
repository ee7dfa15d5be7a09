/-!
# Punycode

Text of any characters written in letters, digits and hyphens: first the ASCII characters, then for each
other one, in increasing order, the distance from the last, as digits in base 36 with moving thresholds.
`decode?` refuses distances that leave the range of characters.
-/

namespace EndpointWatch.Url.Punycode

/-- The letter or digit for a value below 36. -/
def digit (d : Nat) : Char := if d < 26 then Char.ofNat (0x61 + d) else Char.ofNat (0x16 + d)

def digitValue? (c : Char) : Option Nat :=
  if 'a' ≤ c ∧ c ≤ 'z' then some (c.toNat - 0x61)
  else if '0' ≤ c ∧ c ≤ '9' then some (c.toNat - 0x16)
  else none

/-- Digits below the threshold end a number; it lies between 1 and 26. -/
def threshold (place bias : Nat) : Nat := max 1 (min 26 (place - bias))

theorem one_le_threshold (place bias : Nat) : 1 ≤ threshold place bias := by
  unfold threshold; omega

theorem threshold_le (place bias : Nat) : threshold place bias ≤ 26 := by
  unfold threshold; omega

/-- Divides by 35 until the rest is small, and gives the places that this takes. -/
def shrink (delta places : Nat) : Nat × Nat :=
  if 455 < delta then shrink (delta / 35) (places + 36) else (delta, places)
termination_by delta
decreasing_by exact Nat.div_lt_self (by omega) (by omega)

/-- The bias after a distance, when `count` characters are written. -/
def adapt (delta count : Nat) (first : Bool) : Nat :=
  let delta := if first then delta / 700 else delta / 2
  let (rest, places) := shrink (delta + delta / count) 0
  places + 36 * rest / (rest + 38)

/-! ### Encoding -/

/-- The digits of a distance, from `place` on. -/
def encodeNumber (bias place q : Nat) : List Char :=
  let t := threshold place bias
  if q < t then [digit q]
  else digit (t + (q - t) % (36 - t)) :: encodeNumber bias (place + 36) ((q - t) / (36 - t))
termination_by q
decreasing_by
  have h1 := one_le_threshold place bias
  calc (q - threshold place bias) / (36 - threshold place bias)
      ≤ q - threshold place bias := Nat.div_le_self _ _
    _ < q := by omega

/-- What is written so far: the digits, the distance since the last character, the bias, and how many
characters are placed. -/
structure Encoding where
  digits : List Char
  delta : Nat
  bias : Nat
  placed : Nat

/-- Passes one character of the text in the round for the code point `m`. -/
def Encoding.pass (basic m : Nat) (e : Encoding) (c : Char) : Encoding :=
  if c.toNat < m then { e with delta := e.delta + 1 }
  else if c.toNat = m then
    ⟨e.digits ++ encodeNumber e.bias 36 e.delta, 0, adapt e.delta (e.placed + 1) (e.placed = basic),
      e.placed + 1⟩
  else e

/-- A round for each code point, in increasing order; `next` is the first one not passed yet. -/
def encodeRounds (text : List Char) (basic : Nat) : List Nat → (next : Nat) → Encoding → Encoding
  | [], _, e => e
  | m :: ms, next, e =>
    let e := { e with delta := e.delta + (m - next) * (e.placed + 1) }
    let e := text.foldl (Encoding.pass basic m) e
    encodeRounds text basic ms (m + 1) { e with delta := e.delta + 1 }

/-- Puts a number into increasing order, once. -/
def insertOnce (n : Nat) : List Nat → List Nat
  | [] => [n]
  | m :: ms => if n < m then n :: m :: ms else if n = m then m :: ms else m :: insertOnce n ms

def isBasic (c : Char) : Bool := c.toNat < 0x80

def encode (text : List Char) : List Char :=
  let basic := text.filter isBasic
  let others := (text.filter fun c => !isBasic c).foldl (fun ms c => insertOnce c.toNat ms) []
  let e := encodeRounds text basic.length others 0x80 ⟨[], 0, 72, basic.length⟩
  (if basic.isEmpty then [] else basic ++ ['-']) ++ e.digits

/-! ### Decoding -/

/-- Reads the digits of a distance. -/
def decodeNumber (bias : Nat) : (place weight : Nat) → List Char → Option (Nat × List Char)
  | _, _, [] => none
  | place, weight, c :: cs => do
    let d ← digitValue? c
    let t := threshold place bias
    if d < t then some (d * weight, cs)
    else
      let (n, rest) ← decodeNumber bias (place + 36) (weight * (36 - t)) cs
      some (d * weight + n, rest)

theorem length_decodeNumber {bias place weight n : Nat} {cs rest : List Char}
    (h : decodeNumber bias place weight cs = some (n, rest)) : rest.length < cs.length := by
  induction cs generalizing place weight n with
  | nil => simp [decodeNumber] at h
  | cons c cs ih =>
    simp only [decodeNumber, Option.bind_eq_bind, Option.bind_eq_some_iff] at h
    obtain ⟨d, _, h⟩ := h
    split at h
    · simp only [Option.some.injEq, Prod.mk.injEq] at h
      obtain ⟨_, rfl⟩ := h
      simp
    · simp only [Option.bind_eq_some_iff, Option.some.injEq, Prod.mk.injEq] at h
      obtain ⟨p, hp, _, rfl⟩ := h
      have := ih (n := p.1) hp
      simp
      omega

/-- Whether there is a character with this number. -/
def isCharNumber (n : Nat) : Bool := n < 0xd800 || (0xdfff < n && n < 0x110000)

/-- Places characters one by one; `at_` is where the last distance ended. -/
def decodeFrom (code at_ bias : Nat) (first : Bool) (out cs : List Char) : Option (List Char) :=
  if cs.isEmpty then some out
  else
    match h : decodeNumber bias 36 1 cs with
    | none => none
    | some (delta, rest) =>
      have := length_decodeNumber h
      let count := out.length + 1
      let code := code + (at_ + delta) / count
      let place := (at_ + delta) % count
      if isCharNumber code then
        decodeFrom code (place + 1) (adapt delta count first) false
          (out.take place ++ Char.ofNat code :: out.drop place) rest
      else none
termination_by cs.length

/-- The characters before the last hyphen and those behind it; a hyphen in front separates nothing. -/
def splitBasic (cs : List Char) : List Char × List Char :=
  let back := (cs.reverse.takeWhile (· ≠ '-')).reverse
  let front := cs.take (cs.length - back.length - 1)
  if front.isEmpty then ([], cs) else (front, back)

def decode? (cs : List Char) : Option (List Char) :=
  let (basic, digits) := splitBasic cs
  if basic.all isBasic then decodeFrom 0x80 0 72 true basic digits else none

end EndpointWatch.Url.Punycode
