import EndpointWatch.Arith
import EndpointWatch.Text.Number
import EndpointWatch.Text.Hex

/-!
# Socket addresses

An IP address with a port, read and written in the usual notation: four decimal numbers, or in square
brackets up to eight hexadecimal groups with one run of zero groups written `::`.
-/

namespace EndpointWatch.Net

open scoped EndpointWatch.Arith

/-- Four bytes, first one first. -/
structure Ipv4 where
  a : UInt8
  b : UInt8
  c : UInt8
  d : UInt8
  deriving DecidableEq, Repr

inductive SocketAddress where
  | v4 (ip : Ipv4) (port : UInt16)
  | v6 (groups : List UInt16) (zone : UInt32) (port : UInt16)
  deriving DecidableEq, Repr

/-! ### Writing -/

namespace Ipv4

def write (ip : Ipv4) : List Char :=
  Text.ofNat ip.a.toNat ++ '.' :: Text.ofNat ip.b.toNat ++ '.' :: Text.ofNat ip.c.toNat
    ++ '.' :: Text.ofNat ip.d.toNat

/-- The address as two groups of 16 bits. -/
def toGroups (ip : Ipv4) : List UInt16 :=
  [ip.a.toUInt16 <<< 8 ||| ip.b.toUInt16, ip.c.toUInt16 <<< 8 ||| ip.d.toUInt16]

/-- The address in two groups. -/
def ofGroups (g h : UInt16) : Ipv4 := ⟨(g >>> 8).toUInt8, g.toUInt8, (h >>> 8).toUInt8, h.toUInt8⟩

end Ipv4

/-- Groups in hexadecimal with colons between them. -/
def writeGroups : List UInt16 → List Char
  | [] => []
  | [g] => Nat.toDigits 16 g.toNat
  | g :: gs => Nat.toDigits 16 g.toNat ++ ':' :: writeGroups gs

/-- The length of the run of zeros at the front. -/
def zeroRun (gs : List UInt16) : Nat := (gs.takeWhile (· = 0)).length

/-- Start and length of the first longest run of zeros. -/
def longestZeros (gs : List UInt16) : Nat × Nat :=
  (List.range gs.length).foldl
    (fun best i => let n := zeroRun (gs.drop i); if best.2 < n then (i, n) else best) (0, 0)

/-- Groups with the first longest run of two or more zeros left out. -/
def compress (gs : List UInt16) : List Char :=
  let (start, n) := longestZeros gs
  if 1 < n then writeGroups (gs.take start) ++ ':' :: ':' :: writeGroups (gs.drop (start + n))
  else writeGroups gs

/-- The text of an IPv6 address; one that holds an IPv4 address ends with it. -/
def writeIpv6 (gs : List UInt16) : List Char :=
  match gs with
  | [0, 0, 0, 0, 0, 0xffff, g, h] => "::ffff:".toList ++ (Ipv4.ofGroups g h).write
  | _ => compress gs

def SocketAddress.write : SocketAddress → List Char
  | v4 ip port => ip.write ++ ':' :: Text.ofNat port.toNat
  | v6 gs zone port =>
    '[' :: writeIpv6 gs ++ (if zone = 0 then [] else '%' :: Text.ofNat zone.toNat)
      ++ ']' :: ':' :: Text.ofNat port.toNat

/-! ### Reading -/

/-- What a step of reading gives: a value and the rest of the text. -/
abbrev Step (α : Type) : Type := List Char → Option (α × List Char)

/-- A decimal number below `limit`, with zeros in front as one likes. -/
def decimal? (limit : Nat) : Step Nat := fun cs =>
  let ds := cs.takeWhile Char.isDigit
  if ds.isEmpty ∨ limit ≤ Text.toNat ds then none else some (Text.toNat ds, cs.drop ds.length)

/-- A byte in at most three digits, without zeros in front. -/
def byte? : Step UInt8 := fun cs =>
  let ds := cs.takeWhile Char.isDigit
  if 3 < ds.length ∨ (1 < ds.length ∧ ds.head? = some '0') then none
  else (decimal? 256 cs).map fun (n, rest) => (n.toUInt8, rest)

def mark? (c : Char) (cs : List Char) : Option (List Char) :=
  match cs with
  | d :: rest => if c = d then some rest else none
  | [] => none

def ipv4? : Step Ipv4 := fun cs => do
  let (a, cs) ← byte? cs
  let cs ← mark? '.' cs
  let (b, cs) ← byte? cs
  let cs ← mark? '.' cs
  let (c, cs) ← byte? cs
  let cs ← mark? '.' cs
  let (d, cs) ← byte? cs
  some (⟨a, b, c, d⟩, cs)

/-- A group of one to four hexadecimal digits. -/
def group? : Step UInt16 := fun cs =>
  let ds := cs.takeWhile Text.isHexDigit
  if ds.isEmpty ∨ 4 < ds.length then none else some ((Text.ofHex ds).toUInt16, cs.drop ds.length)

/-- At most `limit` groups with colons between them, as many as there are; an IPv4 address may stand for
the last two. Says also whether one does. `first` means that no colon comes first. -/
def groups (limit : Nat) (first : Bool) (cs : List Char) : List UInt16 × Bool × List Char :=
  match limit with
  | 0 => ([], false, cs)
  | limit + 1 =>
    match if first then some cs else mark? ':' cs with
    | none => ([], false, cs)
    | some next =>
      match if limit = 0 then none else ipv4? next with
      | some (ip, rest) => (ip.toGroups, true, rest)
      | none =>
        match group? next with
        | none => ([], false, cs)
        | some (g, rest) =>
          let (gs, embedded, rest) := groups limit false rest
          (g :: gs, embedded, rest)

def ipv6? : Step (List UInt16) := fun cs =>
  let (front, embedded, rest) := groups 8 true cs
  if front.length = 8 then some (front, rest)
  else if embedded then none
  else do
    let rest ← mark? ':' rest
    let rest ← mark? ':' rest
    let (back, _, rest) := groups (7 - front.length) true rest
    some (front ++ List.replicate (8 - front.length - back.length) 0 ++ back, rest)

def port? : Step UInt16 := fun cs => do
  let cs ← mark? ':' cs
  let (port, cs) ← decimal? 65536 cs
  some (port.toUInt16, cs)

/-- A zone number behind a percent sign. -/
def zone (cs : List Char) : UInt32 × List Char :=
  match (mark? '%' cs).bind (decimal? (2 ^ (32 : Nat))) with
  | some (z, rest) => (z.toUInt32, rest)
  | none => (0, cs)

def SocketAddress.read? (cs : List Char) : Option SocketAddress := do
  let (address, rest) ← match cs with
    | '[' :: cs => do
      let (gs, cs) ← ipv6? cs
      let (z, cs) := zone cs
      let cs ← mark? ']' cs
      let (port, cs) ← port? cs
      some (SocketAddress.v6 gs z port, cs)
    | cs => do
      let (ip, cs) ← ipv4? cs
      let (port, cs) ← port? cs
      some (SocketAddress.v4 ip port, cs)
  if rest.isEmpty then some address else none

end EndpointWatch.Net
