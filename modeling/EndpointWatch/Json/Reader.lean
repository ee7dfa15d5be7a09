import EndpointWatch.Arith
import EndpointWatch.Json.Scan
import EndpointWatch.Dict
import EndpointWatch.Instant.Rfc3339

/-!
# Readers of JSON values

Each reader takes one value of the wanted type off the front of a text, after blanks. Where another value
begins it is read as far as the message about it needs. `document` reads a whole text.
-/

namespace EndpointWatch.Json

open scoped EndpointWatch.Arith

/-- Takes a fixed word, such as the rest of `null`. -/
def word (w : List Char) (cs : List Char) : Except Fault (List Char) :=
  if w.isPrefixOf cs then .ok (cs.drop w.length) else .error .malformed

/-- Reads a string, whose opening quote is next. -/
def textBody : Reader String := fun cs =>
  match text? cs with
  | some (s, rest) => .ok (.ofList s, rest)
  | none => .error .malformed

/-- Reads a number of either kind. -/
def numberValue : Reader NumberValue := fun cs =>
  match number? cs with
  | some (n, rest) =>
    match n.value? with
    | some v => .ok (v, rest)
    | none => .error .malformed
  | none => .error .malformed

def NumberValue.found : NumberValue → Found
  | .integer n => .integer n
  | .float x => .float x

/-- Whether a number begins with this character. -/
def startsNumber (c : Char) : Bool := c = '-' || c.isDigit

/-- Names the value that begins here; lists and objects only by their bracket. -/
def found (cs : List Char) : Except Fault Found :=
  match cs with
  | [] => .error .malformed
  | c :: rest =>
    if c = 'n' then (word "ull".toList rest).map fun _ => .null
    else if c = 't' then (word "rue".toList rest).map fun _ => .boolean true
    else if c = 'f' then (word "alse".toList rest).map fun _ => .boolean false
    else if c = '"' then (textBody rest).map fun (s, _) => .string s
    else if c = '[' then .ok .sequence
    else if c = '\x7b' then .ok .map
    else if startsNumber c then (numberValue (c :: rest)).map fun (v, _) => v.found
    else .error .malformed

/-- Fails because something else than the expected type begins here. -/
def wrongType {α : Type} (expected : String) (cs : List Char) : Except Fault α :=
  match found cs with
  | .ok f => .error (.type f expected)
  | .error e => .error e

/-! ### Plain values -/

/-- A string; `expected` names what it should be. -/
def stringAs (expected : String) : Reader String := fun cs =>
  match skipBlank cs with
  | '"' :: rest => textBody rest
  | cs => wrongType expected cs

def string : Reader String := stringAs "a string"

def boolean : Reader Bool := fun cs =>
  match skipBlank cs with
  | 't' :: rest => (word "rue".toList rest).map (true, ·)
  | 'f' :: rest => (word "alse".toList rest).map (false, ·)
  | cs => wrongType "a boolean" cs

/-- A number, handed on to `accept`. -/
def numberAs {α : Type} (expected : String) (accept : NumberValue → Except Fault α) : Reader α := fun cs =>
  match skipBlank cs with
  | c :: rest =>
    if startsNumber c then do
      let (v, rest) ← numberValue (c :: rest)
      let a ← accept v
      .ok (a, rest)
    else wrongType expected (c :: rest)
  | [] => .error .malformed

/-- An integer from `lo` to `hi`. -/
def integerIn (expected : String) (lo hi : Int) : Reader Int :=
  numberAs expected fun
    | .integer n => if lo ≤ n ∧ n ≤ hi then .ok n else .error (.value (.integer n) expected)
    | .float x => .error (.type (.float x) expected)

def Reader.map {α β : Type} (f : α → β) (r : Reader α) : Reader β := fun cs =>
  match r cs with
  | .ok (a, rest) => .ok (f a, rest)
  | .error e => .error e

def Reader.check {α β : Type} (r : Reader α) (f : α → Except Fault β) : Reader β := fun cs =>
  match r cs with
  | .ok (a, rest) =>
    match f a with
    | .ok b => .ok (b, rest)
    | .error e => .error e
  | .error e => .error e

def int64 : Reader Int64 := (integerIn "i64" (-2 ^ (63 : Nat)) (2 ^ (63 : Nat) - 1)).map Int64.ofInt
def uint64 : Reader UInt64 := (integerIn "u64" 0 (2 ^ (64 : Nat) - 1)).map fun n => n.toNat.toUInt64
def uint32 : Reader UInt32 := (integerIn "u32" 0 (2 ^ (32 : Nat) - 1)).map fun n => n.toNat.toUInt32
def uint16 : Reader UInt16 := (integerIn "u16" 0 (2 ^ (16 : Nat) - 1)).map fun n => n.toNat.toUInt16

/-- A size in memory, of 64 bits. -/
def size : Reader UInt64 := (integerIn "usize" 0 (2 ^ (64 : Nat) - 1)).map fun n => n.toNat.toUInt64

/-- A double; integers are rounded to one. -/
def float : Reader Float :=
  numberAs "f64" fun
    | .integer n => .ok (if n < 0 then -(n.natAbs.toUInt64.toFloat) else n.natAbs.toUInt64.toFloat)
    | .float x => .ok x

/-- A value or `null`. -/
def optional {α : Type} (r : Reader α) : Reader (Option α) := fun cs =>
  match skipBlank cs with
  | 'n' :: rest => (word "ull".toList rest).map (none, ·)
  | cs => r.map some cs

def instant : Reader Instant :=
  (stringAs "an RFC 3339 formatted date and time string").check fun s =>
    match Instant.read? s.toList with
    | some i => .ok i
    | none => .error .timestamp

/-! ### Values that are passed over -/

/-- Brackets that are open around a passed-over value. -/
inductive Bracket where
  | list
  | object
  deriving DecidableEq, Repr

def Bracket.closing : Bracket → Char
  | list => ']'
  | object => '\x7d'

/-- A member's name and colon inside an object, nothing inside a list. -/
def skipName : Bracket → List Char → Option (List Char)
  | .list, cs => some cs
  | .object, cs =>
    match skipBlank cs with
    | '"' :: rest => do
      let rest ← skipText? rest
      match skipBlank rest with
      | ':' :: rest => some rest
      | _ => none
    | _ => none

/-- Closes brackets behind a value, up to a comma or the end of the outermost one. -/
def skipClosing : List Bracket → List Char → Option (List Bracket × List Char)
  | [], cs => some ([], cs)
  | b :: open_, cs =>
    match skipBlank cs with
    | c :: rest =>
      if c = b.closing then skipClosing open_ rest
      else if c = ',' then (skipName b rest).map (b :: open_, ·)
      else none
    | [] => none

/-- The word that begins with this letter, without it. -/
def wordRest? (c : Char) : Option (List Char) :=
  if c = 'n' then some "ull".toList
  else if c = 't' then some "rue".toList
  else if c = 'f' then some "alse".toList
  else none

/-- Passes over a word, a number or a string. -/
def skipScalar? : List Char → Option (List Char)
  | [] => none
  | c :: rest =>
    if c = '"' then skipText? rest
    else if startsNumber c then (number? (c :: rest)).map (·.2)
    else (wordRest? c).bind fun w => if w.isPrefixOf rest then some (rest.drop w.length) else none

/-- Passes over values until all brackets are closed again. Each round takes a bracket or a scalar, so
there are no more rounds than characters. -/
def skipFrom : (rounds : Nat) → List Bracket → List Char → Option (List Char)
  | 0, _, _ => none
  | rounds + 1, open_, cs =>
    let opened (b : Bracket) (rest : List Char) : Option (List Bracket × List Char) :=
      match skipBlank rest with
      | c :: after =>
        if c = b.closing then skipClosing open_ after
        else (skipName b (c :: after)).map (b :: open_, ·)
      | [] => none
    let next := match skipBlank cs with
      | '[' :: rest => opened .list rest
      | '\x7b' :: rest => opened .object rest
      | cs => (skipScalar? cs).bind (skipClosing open_)
    match next with
    | some ([], rest) => some rest
    | some (open_, rest) => skipFrom rounds open_ rest
    | none => none

/-- Passes over one value of any depth. -/
def skip (cs : List Char) : Except Fault (List Char) :=
  match skipFrom (cs.length + 1) [] cs with
  | some rest => .ok rest
  | none => .error .malformed

/-! ### Lists and objects -/

/-- Whether a further member follows, and the text behind its opening quote, or else behind the closing
bracket. `first` says that no member came before. -/
def nextMember (first : Bool) (cs : List Char) : Except Fault (Bool × List Char) :=
  match skipBlank cs with
  | '\x7d' :: rest => .ok (false, rest)
  | ',' :: rest =>
    match first, skipBlank rest with
    | false, '"' :: rest => .ok (true, rest)
    | _, _ => .error .malformed
  | '"' :: rest => if first then .ok (true, rest) else .error .malformed
  | _ => .error .malformed

/-- The text of a further element, if there is one; a closing bracket is left standing. -/
def nextElement (first : Bool) (cs : List Char) : Except Fault (Option (List Char)) :=
  match skipBlank cs with
  | [] => .error .malformed
  | ']' :: _ => .ok none
  | ',' :: rest =>
    match first, skipBlank rest with
    | true, _ | false, ']' :: _ | false, [] => .error .malformed
    | false, rest => .ok (some rest)
  | cs => if first then .ok (some cs) else .error .malformed

def listEnd (cs : List Char) : Except Fault (List Char) :=
  match skipBlank cs with
  | ']' :: rest => .ok rest
  | _ => .error .malformed

def colon (cs : List Char) : Except Fault (List Char) :=
  match skipBlank cs with
  | ':' :: rest => .ok rest
  | _ => .error .malformed

/-- Members with string values up to the closing bracket; the last value of a name stays. -/
def stringMembers : (rounds : Nat) → (first : Bool) → Dict String String → Reader (Dict String String)
  | 0, _, _, _ => .error .malformed
  | rounds + 1, first, d, cs => do
    let (more, cs) ← nextMember first cs
    if more then
      let (name, cs) ← textBody cs
      let cs ← colon cs
      let (value, cs) ← string cs
      stringMembers rounds false (d.insert name value) cs
    else .ok (d, cs)

/-- An object whose values are strings. -/
def stringMap : Reader (Dict String String) := fun cs =>
  match skipBlank cs with
  | '\x7b' :: rest => stringMembers (rest.length + 1) true .empty rest
  | cs => wrongType "a map" cs

/-- One of some names: a string, or an object with the name as its only member and the value `null`. -/
def choice {α : Type} (names : List (String × α)) : Reader α :=
  let pick (name : String) : Except Fault α :=
    match names.lookup name with
    | some a => .ok a
    | none => .error (.variant name (names.map Prod.fst))
  fun cs =>
    match skipBlank cs with
    | '"' :: rest => do
      let (name, rest) ← textBody rest
      let a ← pick name
      .ok (a, rest)
    | '\x7b' :: rest => do
      let (name, rest) ← stringAs "variant identifier" rest
      let a ← pick name
      let rest ← colon rest
      let rest ← match skipBlank rest with
        | 'n' :: rest => word "ull".toList rest
        | cs => wrongType "unit" cs
      match skipBlank rest with
      | '\x7d' :: rest => .ok (a, rest)
      | _ => .error .malformed
    | _ => .error .malformed

/-- Reads a whole text; only blanks may follow the value. -/
def document {α : Type} (r : Reader α) (cs : List Char) : Except Fault α :=
  match r cs with
  | .ok (a, rest) => if (skipBlank rest).isEmpty then .ok a else .error .malformed
  | .error e => .error e

end EndpointWatch.Json
