import EndpointWatch.Json.Reader

/-!
# Shapes of records

A `Shape` says how a record is read: its name, its members in order, and what an absent member means. An
object gives the members by name in any order, and others are passed over; a list gives them in the order
of the shape.
-/

namespace EndpointWatch.Json

/-- What it means that a member is not there. -/
inductive Absence (α : Type) where
  /-- It is missing. -/
  | fault
  /-- An object may leave it out. -/
  | inObject (a : α)
  /-- An object may leave it out, and a list may end before it. -/
  | anywhere (a : α)

structure Member (α : Type) where
  name : String
  read : Reader α
  absence : Absence α

inductive Members : List Type → Type 1 where
  | nil : Members []
  | cons {α : Type} {αs : List Type} (m : Member α) (rest : Members αs) : Members (α :: αs)

/-- One value for each member. -/
def Values : List Type → Type
  | [] => Unit
  | α :: αs => α × Values αs

/-- The values read so far. -/
def Slots : List Type → Type
  | [] => Unit
  | α :: αs => Option α × Slots αs

def Slots.empty : (αs : List Type) → Slots αs
  | [] => ()
  | _ :: αs => (none, Slots.empty αs)

namespace Members

def length : {αs : List Type} → Members αs → Nat
  | _, nil => 0
  | _, cons _ rest => rest.length + 1

/-- Reads the value of the member with this name, from its colon on. -/
def store : {αs : List Type} → Members αs → String → Slots αs → Reader (Slots αs)
  | _, nil, _, _, cs => do
    let cs ← colon cs
    let cs ← skip cs
    .ok ((), cs)
  | _, cons m rest, name, (slot, slots), cs =>
    if m.name = name then
      match slot with
      | some _ => .error (.duplicate name)
      | none => do
        let cs ← colon cs
        let (a, cs) ← m.read cs
        .ok ((some a, slots), cs)
    else do
      let (slots, cs) ← rest.store name slots cs
      .ok ((slot, slots), cs)

/-- Fills in what an object left out. -/
def fill : {αs : List Type} → Members αs → Slots αs → Except Fault (Values αs)
  | _, nil, _ => .ok ()
  | _, cons m rest, (slot, slots) => do
    let a ← match slot, m.absence with
      | some a, _ => .ok a
      | none, .inObject a | none, .anywhere a => .ok a
      | none, .fault => .error (.missing m.name)
    let values ← rest.fill slots
    .ok (a, values)

/-- Reads the members of an object up to its closing bracket. -/
def readObject {αs : List Type} (ms : Members αs) :
    (rounds : Nat) → (first : Bool) → Slots αs → Reader (Slots αs)
  | 0, _, _, _ => .error .malformed
  | rounds + 1, first, slots, cs => do
    let (more, cs) ← nextMember first cs
    if more then
      let (name, cs) ← textBody cs
      let (slots, cs) ← ms.store name slots cs
      ms.readObject rounds false slots cs
    else .ok (slots, cs)

/-- Reads elements for the members from number `index` on; `whole` names the record. -/
def readList (whole : String) : {αs : List Type} → Members αs → (index : Nat) → Reader (Values αs)
  | _, nil, _, cs => .ok ((), cs)
  | _, cons m rest, index, cs => do
    match ← nextElement (index = 0) cs with
    | some cs =>
      let (a, cs) ← m.read cs
      let (values, cs) ← rest.readList whole (index + 1) cs
      .ok ((a, values), cs)
    | none =>
      match m.absence with
      | .anywhere a =>
        let (values, cs) ← rest.readList whole (index + 1) cs
        .ok ((a, values), cs)
      | _ => .error (.length index whole)

end Members

/-- How a record is read. -/
structure Shape (ρ : Type) where
  name : String
  types : List Type
  members : Members types
  build : Values types → ρ

namespace Shape

variable {ρ : Type}

def title (s : Shape ρ) : String := s!"struct {s.name}"

/-- The record with its number of members, for messages. -/
def fullTitle (s : Shape ρ) : String :=
  let n := s.members.length
  let noun := if n = 1 then "element" else "elements"
  s!"{s.title} with {n} {noun}"

/-- Reads a record from an object or a list. -/
def read (s : Shape ρ) : Reader ρ := fun cs =>
  match skipBlank cs with
  | '\x7b' :: rest => do
    let (slots, rest) ← s.members.readObject (rest.length + 1) true (.empty _) rest
    let values ← s.members.fill slots
    .ok (s.build values, rest)
  | '[' :: rest => do
    let (values, rest) ← s.members.readList s.fullTitle 0 rest
    let rest ← listEnd rest
    .ok (s.build values, rest)
  | cs => wrongType s.title cs

end Shape

end EndpointWatch.Json
