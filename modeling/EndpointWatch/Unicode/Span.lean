import EndpointWatch.Text.Hex
import EndpointWatch.Text.Search

/-!
# Tables of characters

A property of characters is written as lines of entries in hexadecimal and in increasing order: `9-d` or
`85` for membership, and behind `=`, `>` or `/` the numbers that go with the range, as in `c0-d6>e0`. A table
is read once, and a character is then looked up by halving.
-/

namespace EndpointWatch.Unicode

open Text

/-- How the numbers of an entry go with its characters: the same for all, or counted on from the first, one
by one or only for every second character; or not at all. -/
inductive Rule where
  | member
  | same
  | shifted
  | alternate
  | refused
  deriving DecidableEq, Repr, Inhabited

/-- A range of code points, ends included, with a rule and its numbers. -/
structure Span where
  lo : Nat
  hi : Nat
  rule : Rule
  numbers : List Nat
  deriving Repr, Inhabited

abbrev Spans : Type := Array Span

/-- The rule that a mark stands for. -/
def Rule.ofMark (c : Char) : Rule :=
  if c = '=' then same else if c = '>' then shifted else if c = '/' then alternate else refused

def Span.read (entry : List Char) : Span :=
  let isKey (c : Char) : Bool := isHexDigit c || c = '-'
  let (lo, hi) := match splitAt '-' (entry.takeWhile isKey) with
    | [a, b] => (ofHex a, ofHex b)
    | key => (ofHex key.flatten, ofHex key.flatten)
  match entry.dropWhile isKey with
  | [] => ⟨lo, hi, .member, []⟩
  | c :: numbers =>
    ⟨lo, hi, .ofMark c, if numbers.isEmpty then [] else (splitAt '.' numbers).map ofHex⟩

/-- Reads lines of entries with spaces between them. -/
def Spans.read (lines : List String) : Spans :=
  (lines.flatMap fun line => (splitAt ' ' line.toList).map Span.read).toArray

/-- Halves the stretch `lo ≤ i < hi` until it holds the one entry that can contain `n`. -/
def Spans.find (t : Spans) (n lo hi : Nat) : Option Span :=
  if hi ≤ lo + 1 then t[lo]?.filter fun s => s.lo ≤ n && n ≤ s.hi
  else
    let mid := (lo + hi) / 2
    match t[mid]? with
    | some s => if s.lo ≤ n then Spans.find t n mid hi else Spans.find t n lo mid
    | none => none
termination_by hi - lo

/-- The entry that a code point falls under. -/
def Spans.find? (t : Spans) (n : Nat) : Option Span := t.find n 0 t.size

def Spans.contains (t : Spans) (c : Char) : Bool := (t.find? c.toNat).isSome

/-- The first number that goes with a character, or 0. -/
def Spans.number (t : Spans) (c : Char) : Nat := ((t.find? c.toNat).bind (·.numbers.head?)).getD 0

end EndpointWatch.Unicode
