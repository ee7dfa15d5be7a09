import EndpointWatch.Url.Punycode
import EndpointWatch.Unicode.DomainMap
import EndpointWatch.Unicode.Normal
import EndpointWatch.Unicode.Direction
import EndpointWatch.Unicode.Joining

/-!
# Domain names in ASCII

`Domain.toAscii?` maps the characters of a domain name, normalizes them, checks each label and writes a
label with other characters in Punycode behind `xn--`. A label that comes in Punycode is checked like the
one it stands for.
-/

namespace EndpointWatch.Url.Domain

open Unicode

def isAscii (c : Char) : Bool := c.toNat < 0x80

/-- ASCII characters that no domain name may hold. -/
def isForbidden (c : Char) : Bool :=
  c.toNat ≤ 0x20 || c.toNat = 0x7f || "%#/:<>?@[\\]^|".toList.contains c

def punycodeMark : List Char := "xn--".toList

/-- A checked label: its text, and its form in ASCII. -/
structure Label where
  text : List Char
  ascii : List Char

/-! ### Rules on labels -/

def zeroWidthNonJoiner : Char := '\u200c'
def zeroWidthJoiner : Char := '\u200d'

/-- How the first character joins that a joiner does not look through. -/
def firstJoining? (cs : List Char) : Option Joining :=
  (cs.dropWhile fun c => joining c = .transparent).head?.map joining

/-- Joiners stand behind a virama; one that does not join may also stand between letters that would. `before`
is the text in front, in reverse. -/
def joinersFit (before : List Char) : List Char → Bool
  | [] => true
  | c :: cs =>
    let afterVirama := before.head?.any isVirama
    let between := (firstJoining? before).any (fun j => j = .left || j = .dual)
      && (firstJoining? cs).any (fun j => j = .right || j = .dual)
    let fits := if c = zeroWidthNonJoiner then afterVirama || between
      else c ≠ zeroWidthJoiner || afterVirama
    fits && joinersFit (c :: before) cs

/-- A label starts with no mark, and its joiners fit. -/
def isValidLabel (cs : List Char) : Bool := !cs.head?.any isMark && joinersFit [] cs

/-! ### Right-to-left names -/

/-- Whether a character makes a domain name one with right-to-left text. -/
def turnsRight (c : Char) : Bool :=
  match direction c with
  | .right | .arabicLetter | .arabicNumber => true
  | _ => false

/-- What may stand in a right-to-left label. -/
def inRightLabel : Direction → Bool
  | .left => false
  | _ => true

/-- What may stand in a left-to-right label. -/
def inLeftLabel : Direction → Bool
  | .right | .arabicLetter | .arabicNumber => false
  | _ => true

/-- The rules for a label in a name with right-to-left text: how it starts, what it holds, how it ends, and
that it does not mix the two kinds of digits. -/
def directionsFit (label : List Char) : Bool :=
  let ds := label.map direction
  let last := (ds.reverse.dropWhile (· = .mark)).head?
  match ds with
  | [] => true
  | .right :: _ | .arabicLetter :: _ =>
    ds.all inRightLabel
      && last.any (fun d => d = .right || d = .arabicLetter || d = .europeanNumber || d = .arabicNumber)
      && !(ds.contains .europeanNumber && ds.contains .arabicNumber)
  | .left :: _ => ds.all inLeftLabel && last.any fun d => d = .left || d = .europeanNumber
  | _ => false

/-! ### The whole name -/

/-- Takes a label out of Punycode if it is in it. What comes out must need Punycode, and must be mapped and
normalized. -/
def label? (cs : List Char) : Option Label :=
  if punycodeMark.isPrefixOf cs then do
    let text ← Punycode.decode? (cs.drop 4)
    if text.all isAscii || !text.all isDomainChar || compose text ≠ text then none else some ⟨text, cs⟩
  else if cs.all isAscii then some ⟨cs, cs⟩
  else some ⟨cs, punycodeMark ++ Punycode.encode cs⟩

def join : List (List Char) → List Char
  | [] => []
  | [l] => l
  | l :: ls => l ++ '.' :: join ls

/-- A domain name in ASCII, if it is one. -/
def toAscii? (cs : List Char) : Option (List Char) := do
  let mapped ← cs.mapM mapDomainChar
  let labels ← (Text.splitAt '.' (compose mapped.flatten)).mapM label?
  let texts := labels.map Label.text
  let ascii := join (labels.map Label.ascii)
  if texts.all isValidLabel && (!texts.any (·.any turnsRight) || texts.all directionsFit)
      && !texts.any (·.any isForbidden) then some ascii else none

end EndpointWatch.Url.Domain
