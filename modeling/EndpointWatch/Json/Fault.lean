import EndpointWatch.Decimal.Layout
import EndpointWatch.Text.Number
import EndpointWatch.Text.Quoted

/-!
# What can be wrong with a JSON text

A reader stops at the first fault from the left. Every violation of the grammar, and every number that no
double can hold, is `malformed`; the other faults say what was found and what was expected instead.
-/

namespace EndpointWatch.Json

/-- The kind of value that stands in the wrong place, as far as a message shows it. -/
inductive Found where
  | null
  | boolean (b : Bool)
  | integer (n : Int)
  | float (x : Float)
  | string (s : String)
  | sequence
  | map
  deriving Repr

namespace Found

def message : Found → String
  | null => "null"
  | boolean b => s!"boolean `{b}`"
  | integer n => s!"integer `{String.ofList (Text.ofInt n)}`"
  | float x => s!"floating point `{Decimal.scientific x}`"
  | string s => "string " ++ Text.quoted s
  | sequence => "sequence"
  | map => "map"

end Found

/-- Why a text does not hold what is read from it. -/
inductive Fault where
  | malformed
  | timestamp
  | address
  | type (found : Found) (expected : String)
  | value (found : Found) (expected : String)
  | missing (field : String)
  | duplicate (field : String)
  | variant (found : String) (names : List String)
  | length (count : Nat) (expected : String)
  deriving Repr

namespace Fault

/-- Names in backquotes: two with `or`, more after `one of`. -/
def choices : List String → String
  | [] => "there are no variants"
  | [a] => s!"`{a}`"
  | [a, b] => s!"`{a}` or `{b}`"
  | names => "one of " ++ ", ".intercalate (names.map fun n => s!"`{n}`")

def message : Fault → String
  | malformed => "malformed JSON"
  | timestamp => "bad timestamp"
  | address => "invalid socket address syntax"
  | type found expected => s!"invalid type: {found.message}, expected {expected}"
  | value found expected => s!"invalid value: {found.message}, expected {expected}"
  | missing field => s!"missing field `{field}`"
  | duplicate field => s!"duplicate field `{field}`"
  | variant found names => s!"unknown variant `{found}`, expected {choices names}"
  | length count expected => s!"invalid length {count}, expected {expected}"

end Fault

/-- Reads a value off the front of a text. -/
abbrev Reader (α : Type) : Type := List Char → Except Fault (α × List Char)

end EndpointWatch.Json
