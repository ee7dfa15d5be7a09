import EndpointWatch.Collector.Schedule

/-!
# Registered collectors

A `Registry` knows its collectors by name. It runs one of them, or all that are switched on side by side.
-/

namespace EndpointWatch

/-- Collectors by their names, and how many of them run at once at most. -/
structure Registry where
  workers : Nat
  collectors : Dict String Collector
  workers_pos : 0 < workers

namespace Registry

def defaultWorkers : Nat := 5

/-- No collectors yet. Without any workers there are as many as by default. -/
def fresh (workers : Nat) : Registry where
  workers := if workers = 0 then defaultWorkers else workers
  collectors := .empty
  workers_pos := by
    split
    · decide
    · exact Nat.pos_of_ne_zero ‹_›

def add (r : Registry) (name : String) (c : Collector) : Except CollectError Registry :=
  if name = "" then .error .emptyName
  else if r.collectors.contains name then .error (.duplicate name)
  else .ok { r with collectors := r.collectors.insert name c }

def remove (r : Registry) (name : String) : Except CollectError Registry :=
  if r.collectors.contains name then .ok { r with collectors := r.collectors.erase name }
  else .error (.notFound name)

def names (r : Registry) : List String := r.collectors.keys

def setEnabled (r : Registry) (name : String) (isEnabled : Bool) : Except CollectError Registry :=
  match r.collectors.get? name with
  | some c => .ok { r with collectors := r.collectors.insert name { c with isEnabled } }
  | none => .error (.notFound name)

def enabled (r : Registry) : Dict String Collector := r.collectors.filter fun _ c => c.isEnabled

/-- What one collector yields; nothing if it is switched off. -/
def collectFrom (r : Registry) (name : String) : Except CollectError Collected :=
  match r.collectors.get? name with
  | none => .error (.notFound name)
  | some c =>
    if !c.isEnabled then .ok (.metrics [])
    else
      match c.result with
      | .failed reason => .error (.failed name reason)
      | .metrics _ | .crashed _ => .ok c.result

/-- The moves of a collection from all that are switched on. -/
def schedule (r : Registry) (cancelAt : Option Nat) : List Pool.Move := Schedule.moves r.workers cancelAt r.enabled

/-- The pool before a collection. There is none with more workers than there can be. -/
def pool? (r : Registry) (isCancelled : Bool) : Option Pool :=
  if r.workers ≤ Pool.mostWorkers then some (.fresh r.workers isCancelled r.enabled) else none

/-- What a collection from all that are switched on yields. With too many workers it crashes. -/
def collectAll (r : Registry) (cancelAt : Option Nat) : Option Collection := do
  let p ← r.pool? (cancelAt == some 0)
  (p.moves? (r.schedule cancelAt)).map Pool.outcome

end Registry

end EndpointWatch
