import EndpointWatch.Text.Number

/-!
# Writing JSON

Compact text: no blanks, and only what must be is escaped.
-/

namespace EndpointWatch.Json

def hex4 (n : Nat) : List Char :=
  let ds := Nat.toDigits 16 n
  List.replicate (4 - ds.length) '0' ++ ds

def writeChar (c : Char) : List Char :=
  if c = '"' then ['\\', '"']
  else if c = '\\' then ['\\', '\\']
  else if c = '\x08' then ['\\', 'b']
  else if c = '\x0c' then ['\\', 'f']
  else if c = '\n' then ['\\', 'n']
  else if c = '\r' then ['\\', 'r']
  else if c = '\t' then ['\\', 't']
  else if c.toNat < 0x20 then '\\' :: 'u' :: hex4 c.toNat
  else [c]

def writeString (s : String) : List Char := '"' :: (s.toList.flatMap writeChar ++ ['"'])

def writeBool (b : Bool) : List Char := if b then "true".toList else "false".toList

/-- A value or `null`. -/
def writeOptional {α : Type} (write : α → List Char) : Option α → List Char
  | some a => write a
  | none => "null".toList

/-- Members in the given order, each with its value's text. -/
def writeMembers : List (String × List Char) → List Char
  | [] => []
  | [(name, value)] => writeString name ++ ':' :: value
  | (name, value) :: rest => writeString name ++ ':' :: value ++ ',' :: writeMembers rest

def writeObject (members : List (String × List Char)) : List Char :=
  '\x7b' :: (writeMembers members ++ ['\x7d'])

end EndpointWatch.Json
