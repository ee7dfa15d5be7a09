import EndpointWatch.Arith
import EndpointWatch.Url.Domain
import EndpointWatch.Url.Percent
import EndpointWatch.Net.SocketAddress

/-!
# Hosts

The host of a URL: a name, or an address. In the schemes of the web a name is a domain name, and one whose
last label is a number must be an IPv4 address; in other schemes it is any text without some characters.
-/

namespace EndpointWatch.Url

open scoped EndpointWatch.Arith

inductive Host where
  | name (text : List Char)
  | ipv4 (ip : Net.Ipv4)
  | ipv6 (groups : List UInt16)
  deriving DecidableEq, Repr

namespace Host

def write : Host → List Char
  | name text => text
  | ipv4 ip => ip.write
  | ipv6 gs => '[' :: Net.compress gs ++ [']']

/-! ### IPv4 -/

/-- The digits of a number and their base: 16 behind `0x`, 8 behind another zero, else 10. -/
def baseAndDigits (cs : List Char) : Nat × List Char :=
  match cs with
  | '0' :: x :: rest => if x = 'x' ∨ x = 'X' then (16, rest) else (8, x :: rest)
  | cs => (10, cs)

/-- A number in decimal, octal or hexadecimal digits. -/
def number? (cs : List Char) : Option Nat :=
  let (base, ds) := baseAndDigits cs
  if cs.isEmpty then none
  else ds.foldl (fun n? c => do
    let n ← n?
    let d ← Text.hexValue? c
    if d < base then some (base * n + d) else none) (some 0)

/-- Whether the last label is a number, with a point behind it if one likes. -/
def endsInNumber (domain : List Char) : Bool :=
  let last := match (Text.splitAt '.' domain).reverse with
    | [] :: l :: _ => l
    | [] :: [] => []
    | l :: _ => l
    | [] => []
  (!last.isEmpty && last.all Char.isDigit) || (number? last).isSome

/-- One to four numbers; the last one fills the bytes that are left. -/
def ipv4? (domain : List Char) : Option Net.Ipv4 := do
  let parts := match (Text.splitAt '.' domain).reverse with
    | [] :: rest => rest.reverse
    | parts => parts.reverse
  let numbers ← parts.mapM number?
  let last ← numbers.getLast?
  let front := numbers.dropLast
  if 4 < numbers.length ∨ front.any (255 < ·) ∨ 256 ^ (4 - front.length) ≤ last then none
  else
    let n := (front.zipIdx.map fun p : Nat × Nat => p.1 * 256 ^ (3 - p.2)).sum + last
    some ⟨(n / 2 ^ (24 : Nat)).toUInt8, (n / 2 ^ (16 : Nat)).toUInt8, (n / 2 ^ (8 : Nat)).toUInt8, n.toUInt8⟩

/-! ### IPv6 -/

/-- An IPv6 address; an IPv4 address may stand for its last two groups. -/
def ipv6? (cs : List Char) : Option (List UInt16) :=
  match Net.ipv6? cs with
  | some (gs, []) => some gs
  | _ => none

/-! ### Any host -/

/-- What a host name may not hold outside the schemes of the web. -/
def isForbidden (c : Char) : Bool :=
  c.toNat = 0 || "\t\n\r #/:<>?@[\\]^|".toList.contains c

/-- The text between square brackets, if there are any. -/
def bracketed? (cs : List Char) : Option (Option (List Char)) :=
  match cs with
  | '[' :: rest => if rest.getLast? = some ']' then some (some rest.dropLast) else some none
  | _ => none

def ofDomain? (cs : List Char) : Option Host :=
  match bracketed? cs with
  | some inner => inner.bind fun cs => (ipv6? cs).map ipv6
  | none => do
    let text ← Percent.text? (Percent.decode cs)
    let domain ← Domain.toAscii? text
    if domain.isEmpty then none
    else if endsInNumber domain then (ipv4? domain).map ipv4
    else some (name domain)

def ofText? (cs : List Char) : Option Host :=
  match bracketed? cs with
  | some inner => inner.bind fun cs => (ipv6? cs).map ipv6
  | none => if cs.any isForbidden then none else some (name (Percent.encode Percent.isControl cs))

end Host

end EndpointWatch.Url
