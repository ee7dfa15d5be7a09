/-!
# Tickers

A `Ticker` is due again and again at a fixed interval. One that is served late does not make up for what it missed:
it is due next an interval after it was served.
-/

namespace EndpointWatch

/-- A ticker, in any unit of time. `tolerance` is by how much it can be late and still keep its times. -/
structure Ticker where
  interval : Nat
  tolerance : Nat
  due : Nat
  deriving DecidableEq, Repr

namespace Ticker

/-- A ticker that is due at once, on a clock that counts `perMilli` for a millisecond. Up to five milliseconds are not
late. -/
def start (perMilli interval now : Nat) : Ticker := ⟨interval, 5 * perMilli, now⟩

def serve (now : Nat) (t : Ticker) : Ticker :=
  { t with due := (if t.due + t.tolerance < now then now else t.due) + t.interval }

/-- A ticker is served when it is due, or later. -/
def serve? (t : Ticker) (now : Nat) : Option Ticker := if t.due ≤ now then some (t.serve now) else none

/-- When a ticker that nobody looks at before `now` can be served. -/
def next (now : Nat) (t : Ticker) : Nat := max now t.due

end Ticker

end EndpointWatch
