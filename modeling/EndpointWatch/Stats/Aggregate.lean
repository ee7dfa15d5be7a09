import EndpointWatch.Record.Metric

/-!
# Aggregates of a metric

Mean, range and sample standard deviation of the values of one metric, in double arithmetic from left to
right.
-/

namespace EndpointWatch

/-- What the values of a metric come to; without values there is only the count. -/
structure Aggregate where
  name : String
  count : Nat
  average? : Option Float
  minimum? : Option Float
  maximum? : Option Float
  deviation? : Option Float
  deriving Inhabited

namespace Aggregate

/-- The sum from left to right. It starts at `-0`, which is neutral for every double. -/
def sum (xs : List Float) : Float := xs.foldl (· + ·) (-0.0)

/-- The smaller of two doubles, where a NaN gives way to the other one. -/
def lesser (x y : Float) : Float := if x.isNaN then y else if y < x then y else x

/-- The larger of two doubles, where a NaN gives way to the other one. -/
def greater (x y : Float) : Float := if x.isNaN then y else if x < y then y else x

/-- The sample standard deviation around a mean, of two values or more. -/
def deviation (mean : Float) (xs : List Float) : Float :=
  (sum (xs.map fun x => (x - mean) * (x - mean)) / Float.ofNat (xs.length - 1)).sqrt

def ofValues (name : String) (xs : List Float) : Aggregate :=
  if xs.isEmpty then ⟨name, 0, none, none, none, none⟩
  else
    let mean := sum xs / Float.ofNat xs.length
    { name
      count := xs.length
      average? := some mean
      minimum? := some (xs.foldl lesser (1 / 0))
      maximum? := some (xs.foldl greater (-1 / 0))
      deviation? := if 1 < xs.length then some (deviation mean xs) else none }

end Aggregate

end EndpointWatch
