import EndpointWatch.Unicode.Blank
import EndpointWatch.Text.Search

/-!
# Files of variables

A line `NAME=value` sets a variable that is not set yet. Values may be quoted, escape single characters
with a backslash and refer to other variables as `$NAME`. Reading stops at the first line that breaks these
rules; what was set before stays set.
-/

namespace EndpointWatch.EnvFile

abbrev Variables : Type := String → Option String

/-- Which quote is open. -/
inductive Quote where
  | none
  | single
  | double
  deriving DecidableEq, Repr

/-- Where in a value the reader stands; a variable's name may be put in braces. -/
inductive Place where
  | text
  | escaped
  | name (braced : Bool) (sofar : List Char)
  | blank
  deriving DecidableEq, Repr

def isLetterOrDigit (c : Char) : Bool := c.isAlphanum

/-- What a backslash makes of the next character. -/
def escaped? (c : Char) : Option Char :=
  if c = 'n' then some '\n'
  else if c = '\\' ∨ c.toNat = 0x27 ∨ c = '"' ∨ c = '$' ∨ c = ' ' then some c
  else none

/-- The value of a variable; one that is not set is empty. -/
def lookUp (vars : Variables) (name : List Char) : List Char :=
  ((vars (.ofList name)).getD "").toList

def isSingleQuote (c : Char) : Bool := c.toNat = 0x27

/-- Reads a value up to the end of its line. Behind a blank outside quotes only a comment may follow. -/
def value? (vars : Variables) : Quote → Place → List Char → Option (List Char)
  | q, p, [] =>
    match p, q with
    | .name true _, _ => none
    | .name false n, .none => some (lookUp vars n)
    | _, .none => some []
    | _, _ => none
  | q, .blank, c :: cs =>
    if c = ' ' ∨ c = '\t' then value? vars q .blank cs
    else if c = '#' then some []
    else none
  | q, .escaped, c :: cs => do
    let d ← escaped? c
    (value? vars q .text cs).map (d :: ·)
  | q, .name braced n, c :: cs =>
    if isLetterOrDigit c then value? vars q (.name braced (n ++ [c])) cs
    else if braced then
      if c = '\x7d' then (value? vars q .text cs).map (lookUp vars n ++ ·)
      else value? vars q (.name true (n ++ [c])) cs
    else if c = '\x7b' ∧ n = [] then value? vars q (.name true []) cs
    else if c = '$' then (value? vars q (.name false []) cs).map (lookUp vars n ++ ·)
    else (value? vars q .text cs).map (lookUp vars n ++ c :: ·)
  | .single, .text, c :: cs =>
    if isSingleQuote c then value? vars .none .text cs else (value? vars .single .text cs).map (c :: ·)
  | .double, .text, c :: cs =>
    if c = '$' then value? vars .double (.name false []) cs
    else if c = '"' then value? vars .none .text cs
    else if c = '\\' then value? vars .double .escaped cs
    else (value? vars .double .text cs).map (c :: ·)
  | .none, .text, c :: cs =>
    if c = '$' then value? vars .none (.name false []) cs
    else if isSingleQuote c then value? vars .single .text cs
    else if c = '"' then value? vars .double .text cs
    else if c = '\\' then value? vars .none .escaped cs
    else if c = ' ' ∨ c = '\t' then value? vars .none .blank cs
    else (value? vars .none .text cs).map (c :: ·)

/-- A name: letters, digits, underscores and points, not starting with a digit or a point. -/
def name? (cs : List Char) : Option (List Char × List Char) :=
  let isPart (c : Char) : Bool := c.isAlphanum || c = '_' || c = '.'
  match cs with
  | c :: _ => if c.isAlpha || c = '_' then some (cs.takeWhile isPart, cs.dropWhile isPart) else none
  | [] => none

/-- The equals sign and the blanks around it. -/
def equals? (cs : List Char) : Option (List Char) :=
  match Unicode.trimFront cs with
  | '=' :: rest => some (Unicode.trimFront rest)
  | _ => none

/-- A name and the text of its value. The word `export` may stand in front, and may also be a name. -/
def assignment? (cs : List Char) : Option (List Char × List Char) := do
  let (name, rest) ← name? cs
  match equals? rest with
  | some text => some (name, text)
  | none =>
    if name = "export".toList then
      let (name, rest) ← name? (Unicode.trimFront rest)
      (equals? rest).map (name, ·)
    else none

/-- Reads one line: nothing for a blank line or a comment, else a name and a value; none if it is broken. -/
def line? (vars : Variables) (cs : List Char) : Option (Option (String × String)) :=
  match Unicode.trim cs with
  | [] | '#' :: _ => some none
  | cs => do
    let (name, text) ← assignment? cs
    let value ← match text with
      | [] | '#' :: _ => some []
      | text => value? vars .none .text text
    some (some (.ofList name, .ofList value))

/-- Sets a variable that is not set yet. -/
def setNew (vars : Variables) (name value : String) : Variables := fun n =>
  (vars n).orElse fun _ => if n = name then some value else none

/-- The variables after the lines of a file. -/
def load (vars : Variables) : List (List Char) → Variables
  | [] => vars
  | line :: rest =>
    match line? vars line with
    | none => vars
    | some none => load vars rest
    | some (some (name, value)) => load (setNew vars name value) rest

def loadText (vars : Variables) (text : String) : Variables :=
  load vars (Text.splitAt '\n' text.toList)

end EndpointWatch.EnvFile
