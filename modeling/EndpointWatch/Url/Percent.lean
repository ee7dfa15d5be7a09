import EndpointWatch.Text.Hex

/-!
# Percent encoding

Bytes written as `%` and two hexadecimal digits. Which ASCII characters are written so depends on the part
of the URL; other characters always are.
-/

namespace EndpointWatch.Url.Percent

/-- One upper case hexadecimal digit. -/
def upperHex (n : Nat) : Char := if n < 10 then Char.ofNat (0x30 + n) else Char.ofNat (0x37 + n)

def encodeByte (b : UInt8) : List Char := ['%', upperHex (b.toNat / 16), upperHex (b.toNat % 16)]

/-- A character in UTF-8. -/
def bytes (c : Char) : List UInt8 := (String.singleton c).toUTF8.toList

def isControl (c : Char) : Bool := c.toNat < 0x20 || c.toNat = 0x7f

/-- Writes a text, with the characters of a set and all beyond ASCII encoded. -/
def encode (inSet : Char → Bool) (cs : List Char) : List Char :=
  cs.flatMap fun c => if inSet c || 0x7f < c.toNat then (bytes c).flatMap encodeByte else [c]

/-! ### The sets -/

def inFragment (c : Char) : Bool := isControl c || " \"<>`".toList.contains c
def inPath (c : Char) : Bool := inFragment c || "#?\x7b\x7d".toList.contains c
def inUser (c : Char) : Bool := inPath c || "/:;=@[\\]^|".toList.contains c
def inQuery (c : Char) : Bool := isControl c || " \"#<>".toList.contains c

/-- In the schemes of the web a query also encodes the single quote. -/
def inWebQuery (c : Char) : Bool := inQuery c || c.toNat = 0x27

/-! ### Decoding -/

/-- The bytes of a text with the encoded ones decoded; a lone percent sign stays. -/
def decode : List Char → List UInt8
  | '%' :: a :: b :: rest =>
    match Text.hexValue? a, Text.hexValue? b with
    | some x, some y => (16 * x + y).toUInt8 :: decode rest
    | _, _ => 0x25 :: decode (a :: b :: rest)
  | c :: rest => bytes c ++ decode rest
  | [] => []

/-- The text that bytes in UTF-8 stand for. -/
def text? (bs : List UInt8) : Option (List Char) :=
  (String.fromUTF8? ⟨bs.toArray⟩).map String.toList

end EndpointWatch.Url.Percent
