import EndpointWatch.Arith

/-!
# The civil calendar

Dates of the Gregorian calendar, extended to all years, and their count of days from 1970-01-01.
-/

namespace EndpointWatch

open scoped EndpointWatch.Arith

/-- A year, a month counted from 1 and a day counted from 1. -/
structure Date where
  year : Int
  month : Nat
  day : Nat
  deriving DecidableEq, Repr

namespace Date

def isLeap (year : Int) : Bool := year % 4 = 0 && (year % 100 ≠ 0 || year % 400 = 0)

def monthLengths (year : Int) : List Nat :=
  [31, if isLeap year then 29 else 28, 31, 30, 31, 30, 31, 31, 30, 31, 30, 31]

def IsValid (d : Date) : Prop :=
  1 ≤ d.month ∧ 1 ≤ d.day ∧ d.day ≤ (monthLengths d.year).getD (d.month - 1) 0

instance (d : Date) : Decidable d.IsValid := inferInstanceAs (Decidable (_ ∧ _ ∧ _))

/-- Days from the start of year 0 to the start of a year. -/
def daysBefore (year : Int) : Int := 365 * year + (year + 3) / 4 - (year + 99) / 100 + (year + 399) / 400

/-- Days from the start of year 0 to 1970-01-01. -/
def epoch : Int := 719528

/-- Days from 1970-01-01, negative before it. -/
def toDays (d : Date) : Int :=
  daysBefore d.year + ((monthLengths d.year).take (d.month - 1)).sum + d.day - 1 - epoch

/-- The year that holds the `n`-th day of the calendar. A year has 146097/400 days on average, and the
guess from that is at most one year off. -/
def yearOf (n : Int) : Int :=
  let guess := n * 400 / 146097
  if n < daysBefore guess then guess - 1
  else if daysBefore (guess + 1) ≤ n then guess + 1
  else guess

/-- Month and day of the `n`-th day after the start of month `month`, given the lengths from there on. -/
def monthAndDay : List Nat → (month n : Nat) → Nat × Nat
  | [], month, n => (month, n + 1)
  | length :: rest, month, n =>
    if n < length then (month, n + 1) else monthAndDay rest (month + 1) (n - length)

/-- The date that many days after 1970-01-01. -/
def ofDays (days : Int) : Date :=
  let n := days + epoch
  let year := yearOf n
  let (month, day) := monthAndDay (monthLengths year) 1 (n - daysBefore year).toNat
  ⟨year, month, day⟩

end Date

end EndpointWatch
