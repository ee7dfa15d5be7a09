import EndpointWatch.Arith
import EndpointWatch.Instant.Basic
import EndpointWatch.Text.Number
import EndpointWatch.Unicode.Blank

/-!
# RFC 3339

`Instant.render` writes the shortest of no, 3, 6 or 9 fraction digits, and a year outside 0 to 9999 with
its sign. `Instant.read?` is more lenient than that: white space around the fields, fields of one digit,
years of any width after a sign, a lower case `t` or a space between date and time, `UTC` as offset, and
any number of fraction digits, of which nine count.
-/

namespace EndpointWatch.Instant

open scoped EndpointWatch.Arith

open Text

/-! ### Writing -/

def fraction (nano : Nat) : List Char :=
  if nano = 0 then []
  else if nano % 1_000_000 = 0 then '.' :: padded 3 (nano / 1_000_000)
  else if nano % 1_000 = 0 then '.' :: padded 6 (nano / 1_000)
  else '.' :: padded 9 nano

def yearText (year : Int) : List Char :=
  if 0 ≤ year ∧ year ≤ 9999 then padded 4 year.toNat
  else (if year < 0 then '-' else '+') :: padded 4 year.natAbs

def dateText (d : Date) : List Char := yearText d.year ++ '-' :: padded 2 d.month ++ '-' :: padded 2 d.day

/-- Hour, minute and second of a second of the day; a leap second is the 61st of its minute. -/
def clockText (secondOfDay nano : Nat) : List Char :=
  let (extra, nano) := if nano < 1_000_000_000 then (0, nano) else (1, nano - 1_000_000_000)
  padded 2 (secondOfDay / 3600) ++ ':' :: padded 2 (secondOfDay / 60 % 60)
    ++ ':' :: padded 2 (secondOfDay % 60 + extra) ++ fraction nano

/-- Date and clock in UTC, then the given offset text. -/
def renderWith (offset : List Char) (i : Instant) : List Char :=
  dateText (Date.ofDays (i.second / 86400)) ++ 'T' :: clockText (i.second % 86400).toNat i.nano ++ offset

/-- The text of an instant, as in `2024-01-01T00:00:00Z`. -/
def render (i : Instant) : List Char := i.renderWith ['Z']

/-- The text of an instant with a numeric offset, as in `2024-01-01T00:00:00+00:00`. -/
def renderNumeric (i : Instant) : List Char := i.renderWith ['+', '0', '0', ':', '0', '0']

/-! ### Reading -/

/-- A run of one up to `width` digits, with what is behind it. -/
def digits? (width : Nat) (cs : List Char) : Option (Nat × List Char) :=
  let ds := (cs.take width).takeWhile Char.isDigit
  if ds.isEmpty then none else some (toNat ds, cs.drop ds.length)

/-- A number of at most two digits, after white space. -/
def field? (cs : List Char) : Option (Nat × List Char) := digits? 2 (Unicode.trimFront cs)

/-- A given character, after white space. -/
def mark? (c : Char) (cs : List Char) : Option (List Char) :=
  match Unicode.trimFront cs with
  | d :: rest => if c = d then some rest else none
  | [] => none

/-- Four digits at most, or any number of them after a sign. -/
def year? (cs : List Char) : Option (Int × List Char) :=
  match Unicode.trimFront cs with
  | '-' :: rest => (digits? rest.length rest).map fun (y, rest) => (-(y : Int), rest)
  | '+' :: rest => (digits? rest.length rest).map fun (y, rest) => ((y : Int), rest)
  | rest => (digits? 4 rest).map fun (y, rest) => ((y : Int), rest)

/-- A point and digits, of which the first nine count; no point is no fraction. -/
def nano? : List Char → Option (Nat × List Char)
  | '.' :: cs =>
    let ds := cs.takeWhile Char.isDigit
    if ds.isEmpty then none
    else some (toNat (ds.take 9) * 10 ^ (9 - ds.length), cs.dropWhile Char.isDigit)
  | cs => some (0, cs)

/-- Two digits, hours of an offset or its minutes. -/
def twoDigits? : List Char → Option (Nat × List Char)
  | a :: b :: rest => if a.isDigit ∧ b.isDigit then some (toNat [a, b], rest) else none
  | _ => none

/-- Minutes east of UTC, less than a day. -/
def offset? (cs : List Char) : Option (Int × List Char) :=
  match cs with
  | 'Z' :: rest | 'z' :: rest => some (0, rest)
  | sign :: rest =>
    if (cs.take 3).map Char.toUpper = ['U', 'T', 'C'] then some (0, cs.drop 3)
    else if sign = '+' ∨ sign = '-' ∨ sign = '\u2212' then do
      let (hours, rest) ← twoDigits? rest
      let (minutes, rest) ← twoDigits? (rest.dropWhile fun c => c = ':' || Unicode.isBlank c)
      if hours < 24 ∧ minutes < 60 then
        let total : Int := 60 * hours + minutes
        some (if sign = '+' then total else -total, rest)
      else none
    else none
  | [] => none

/-- The years that dates may have. -/
def supportedYears (year : Int) : Bool := -262143 ≤ year && year ≤ 262142

/-- A date that exists and whose year is supported. -/
def date? (cs : List Char) : Option (Date × List Char) := do
  let (year, cs) ← year? cs
  let cs ← mark? '-' cs
  let (month, cs) ← field? cs
  let cs ← mark? '-' cs
  let (day, cs) ← field? cs
  let date : Date := ⟨year, month, day⟩
  if date.IsValid ∧ supportedYears year then some (date, cs) else none

/-- The second of the day, and nanoseconds; the second 60 of any minute is a leap second. -/
def clock? (cs : List Char) : Option (Nat × Nat × List Char) := do
  let (hour, cs) ← field? cs
  let cs ← mark? ':' cs
  let (minute, cs) ← field? cs
  let cs ← mark? ':' cs
  let (second, cs) ← field? cs
  let (nano, cs) ← nano? cs
  if hour < 24 ∧ minute < 60 ∧ second ≤ 60 then
    let start := 3600 * hour + 60 * minute
    some (if second = 60 then (start + 59, nano + 1_000_000_000, cs) else (start + second, nano, cs))
  else none

/-- Checks that the parts make an instant. -/
def ofParts? (second : Int) (nano : Nat) : Option Instant :=
  if h : nano < 2_000_000_000 ∧ (1_000_000_000 ≤ nano → second % 60 = 59) then
    if supportedYears (Date.ofDays (second / 86400)).year then some ⟨second, nano, h.1, h.2⟩ else none
  else none

/-- Reads an instant; nothing but white space may follow it. -/
def read? (cs : List Char) : Option Instant := do
  let (date, cs) ← date? cs
  let cs ← match cs with
    | 't' :: rest | 'T' :: rest | ' ' :: rest => some rest
    | _ => none
  let (secondOfDay, nano, cs) ← clock? cs
  let (offset, cs) ← offset? (Unicode.trimFront cs)
  if (Unicode.trimFront cs).isEmpty then
    ofParts? (date.toDays * 86400 + secondOfDay - 60 * offset) nano
  else none

end EndpointWatch.Instant
