import EndpointWatch.Record.CheckResult

/-!
# Statistics of results

Counts by status and the mean and maximum of the response times that are not zero. A `Tally` goes through the
results one by one; the times are added up in 64 bits, and it is a crash when they come to more than that. Counts are
of results that are in memory, so that none of them can get that far.
-/

namespace EndpointWatch

/-- A success has a status from 200 to 299, a failure one from 400 on or none. -/
structure ResultStats where
  total : Nat
  successful : Nat
  failed : Nat
  averageTime? : Option Float
  maximumTime? : Option UInt64
  deriving Inhabited

namespace CheckResult

/-- Whether a result counts as a success: its status is 2xx. -/
def isUp (r : CheckResult) : Bool := r.status?.any fun s => 200 ≤ s && s < 300

/-- Whether a result counts as a failure: its status is 400 or more, or there is none. -/
def isDown (r : CheckResult) : Bool := r.status?.all (400 ≤ ·)

end CheckResult

/-- The sum of two times, if 64 bits hold it. -/
def addTime? (a b : UInt64) : Option UInt64 := if a.toNat + b.toNat < UInt64.size then some (a + b) else none

/-- What is counted and added up while results are gone through. -/
structure Tally where
  total : Nat
  successful : Nat
  failed : Nat
  /-- How many response times are not zero. -/
  timed : Nat
  timeSum : UInt64
  maximumTime? : Option UInt64

namespace Tally

def start : Tally := ⟨0, 0, 0, 0, 0, none⟩

/-- What is told of a crash over times that come to more than 64 bits hold. -/
def overflow : String := "attempt to add with overflow"

/-- Counts a result by its status. -/
def count (t : Tally) (r : CheckResult) : Tally :=
  let t := { t with total := t.total + 1 }
  if r.isUp then { t with successful := t.successful + 1 }
  else if r.isDown then { t with failed := t.failed + 1 }
  else t

/-- Counts one more result and adds its time, if there is room for it. -/
def add? (t : Tally) (r : CheckResult) : Option Tally :=
  let t := t.count r
  if 0 < r.responseTime then
    (addTime? t.timeSum r.responseTime).map fun timeSum =>
      { t with
        timed := t.timed + 1
        timeSum
        maximumTime? := max t.maximumTime? (some r.responseTime) }
  else some t

/-- Counts results one after the other; there is no tally if it comes to a crash. -/
def ofResults? (results : List CheckResult) : Option Tally := results.foldlM add? start

def stats (t : Tally) : ResultStats where
  total := t.total
  successful := t.successful
  failed := t.failed
  averageTime? := if 0 < t.timed then some (t.timeSum.toFloat / Float.ofNat t.timed) else none
  maximumTime? := t.maximumTime?

end Tally

namespace ResultStats

def ofResults? (results : List CheckResult) : Option ResultStats := (Tally.ofResults? results).map Tally.stats

/-- The share of successes in percent; 0 without results. -/
def uptime (successful total : Nat) : Float :=
  if total = 0 then 0 else Float.ofNat successful / Float.ofNat total * 100

def uptimePercent (s : ResultStats) : Float := uptime s.successful s.total

end ResultStats

end EndpointWatch
