import EndpointWatch.Breaker.Basic

/-!
# Calls through a breaker

A `Session` is a breaker with its clock and the calls that are in flight. A call arrives, runs if it is let
in, and later finishes or is abandoned; only a finished call is counted.
-/

namespace EndpointWatch.Breaker

/-- Why a call through a breaker gave no value. -/
inductive Failure (ε : Type) where
  | turnedAway
  | cancelled
  | inner (e : ε)
  deriving DecidableEq, Repr

namespace Failure

variable {ε : Type}

def message (name : String) (text : ε → String) : Failure ε → String
  | turnedAway => s!"circuit breaker '{name}' is open"
  | cancelled => s!"circuit breaker '{name}' call cancelled"
  | inner e => text e

def isTurnedAway : Failure ε → Bool
  | turnedAway => true
  | cancelled | inner _ => false

end Failure

/-- A breaker in use. -/
structure Session where
  settings : Settings
  breaker : Breaker
  now : Nat
  inFlight : List Nat
  deriving DecidableEq, Repr

namespace Session

def start (s : Settings) : Session := ⟨s.effective, .fresh, 0, []⟩

def advance (ms : Nat) (s : Session) : Session := { s with now := s.now + ms }

/-- Closes the breaker and forgets its counts; calls stay in flight. -/
def reset (s : Session) : Session := { s with breaker := .fresh }

/-- A call arrives. If it is let in it is in flight under its number. -/
def arrive? (call : Nat) (s : Session) : Option Session :=
  (s.breaker.admit? s.settings s.now).map fun b => { s with breaker := b, inFlight := call :: s.inFlight }

/-- A call in flight ends with an outcome. -/
def finish? (call : Nat) (success : Bool) (s : Session) : Option Session :=
  if call ∈ s.inFlight then
    some { s with breaker := s.breaker.record s.settings s.now success, inFlight := s.inFlight.erase call }
  else none

/-- A call in flight is given up. -/
def abandon? (call : Nat) (s : Session) : Option Session :=
  if call ∈ s.inFlight then some { s with inFlight := s.inFlight.erase call } else none

variable {ε τ : Type}

/-- How a call ends: with an outcome, or cancelled before it starts or while it runs. -/
inductive Ending (ε τ : Type) where
  | outcome (r : Except ε τ)
  | cancelledBefore
  | cancelledDuring

/-- A whole call: what comes of it, and whether its operation ran. -/
def call (ending : Ending ε τ) (s : Session) : (Except (Failure ε) τ × Bool) × Session :=
  match ending with
  | .cancelledBefore => ((.error .cancelled, false), s)
  | .cancelledDuring =>
    match s.breaker.admit? s.settings s.now with
    | none => ((.error .turnedAway, false), s)
    | some b => ((.error .cancelled, true), { s with breaker := b })
  | .outcome r =>
    match s.breaker.admit? s.settings s.now with
    | none => ((.error .turnedAway, false), s)
    | some b =>
      let b := b.record s.settings s.now r.isOk
      ((r.mapError .inner, true), { s with breaker := b })

end Session

end EndpointWatch.Breaker
