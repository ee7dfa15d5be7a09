import EndpointWatch.Text.Number
import EndpointWatch.Text.Search

/-!
# Durations as text

A duration in the largest unit of seconds or milliseconds that it fills, with the fraction that is left; none at
all is `0ns`.
-/

namespace EndpointWatch.Text

/-- A duration of whole milliseconds. -/
def duration (ms : Nat) : List Char :=
  if ms = 0 then ['0', 'n', 's']
  else if ms < 1000 then ofNat ms ++ ['m', 's']
  else
    let fraction := trimEnd (· = '0') (padded 3 (ms % 1000))
    ofNat (ms / 1000) ++ (if fraction.isEmpty then [] else '.' :: fraction) ++ ['s']

end EndpointWatch.Text
