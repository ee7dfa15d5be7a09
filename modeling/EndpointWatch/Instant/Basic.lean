import EndpointWatch.Instant.Civil

/-!
# Instants

A point in time as whole seconds since 1970-01-01T00:00:00Z and nanoseconds after that second. Within a
leap second, which only follows the last second of a minute, the nanoseconds run on beyond `10⁹`.
-/

namespace EndpointWatch

structure Instant where
  second : Int
  nano : Nat
  nano_lt : nano < 2_000_000_000 := by decide
  leap : 1_000_000_000 ≤ nano → second % 60 = 59 := by decide
  deriving DecidableEq, Repr

namespace Instant

@[ext] theorem ext {a b : Instant} (hs : a.second = b.second) (hn : a.nano = b.nano) : a = b := by
  cases a; cases b; simp_all

def le (a b : Instant) : Bool := a.second < b.second || (a.second = b.second && a.nano ≤ b.nano)

def lt (a b : Instant) : Bool := !le b a

/-- 1970-01-01T00:00:00Z. -/
def epoch : Instant := ⟨0, 0, by decide, by decide⟩

instance : Inhabited Instant := ⟨epoch⟩

/-- The instant `nano` nanoseconds into a second; outside a second the fraction is dropped. -/
def ofSeconds (second : Int) (nano : Nat) : Instant :=
  if h : nano < 1_000_000_000 then ⟨second, nano, by omega, by omega⟩ else ⟨second, 0, by decide, by omega⟩

/-- Whole milliseconds since the epoch, rounded down. -/
def toMillis (i : Instant) : Int := i.second * 1000 + (i.nano / 1_000_000 : Nat)

/-- The instant that many milliseconds after the epoch. -/
def ofMillis (ms : Int) : Instant :=
  ⟨ms / 1000, (ms % 1000).toNat * 1_000_000, by omega, by omega⟩

/-- The instant with what lies below a millisecond dropped. -/
def floorMillis (i : Instant) : Instant := ofMillis i.toMillis

@[simp] theorem toMillis_ofMillis (ms : Int) : (ofMillis ms).toMillis = ms := by
  simp only [toMillis, ofMillis]; omega

@[simp] theorem floorMillis_floorMillis (i : Instant) : i.floorMillis.floorMillis = i.floorMillis := by
  simp [floorMillis]

/-- The instant that many seconds earlier. -/
def minusSeconds (i : Instant) (s : Nat) : Instant :=
  if i.nano < 1_000_000_000 then ofSeconds (i.second - s) i.nano
  else ofSeconds (i.second + 1 - s) (i.nano - 1_000_000_000)

end Instant

end EndpointWatch
