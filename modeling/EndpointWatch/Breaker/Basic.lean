import EndpointWatch.Arith

/-!
# Circuit breakers

A breaker counts the outcomes of calls. Enough failures in a row open it, and while it is open calls are
turned away until `resetInterval` has passed since the last failure. The next call then runs on trial: two
successes close the breaker, a failure opens it again. Times are in milliseconds.
-/

namespace EndpointWatch.Breaker

/-- The name and limits of a breaker. -/
structure Settings where
  name : String
  maxFailures : UInt32
  resetInterval : Nat
  deriving DecidableEq, Repr, Inhabited

namespace Settings

/-- Five failures, one minute. -/
def named (name : String) : Settings := ⟨name, 5, 60_000⟩

def standard : Settings := named "default"

/-- Zero limits give way to the standard ones. -/
def effective (s : Settings) : Settings :=
  { s with
    maxFailures := if s.maxFailures = 0 then standard.maxFailures else s.maxFailures
    resetInterval := if s.resetInterval = 0 then standard.resetInterval else s.resetInterval }

end Settings

inductive Phase where
  | closed
  | opened
  | halfOpen
  deriving DecidableEq, Repr, Inhabited

namespace Phase

def name : Phase → String
  | closed => "closed"
  | opened => "open"
  | halfOpen => "half-open"

/-- The phases under their names. -/
def named : List (String × Phase) := [closed, opened, halfOpen].map fun p => (p.name, p)

end Phase

end Breaker

open Breaker
open scoped Arith

/-- The counts of a breaker: failures since the last success, and successes on trial. -/
structure Breaker where
  phase : Phase
  failures : UInt32
  successes : UInt32
  lastFailure? : Option Nat
  deriving DecidableEq, Repr, Inhabited

namespace Breaker

def fresh : Breaker := ⟨.closed, 0, 0, none⟩

/-- Successes that close the breaker from half-open. -/
def trialSuccesses : UInt32 := 2

/-- Whether the reset interval has passed since the last failure. -/
def cooledDown (s : Settings) (now : Nat) (b : Breaker) : Bool :=
  b.lastFailure?.all fun at_ => s.resetInterval ≤ now - at_

/-- Lets a call in, or gives nothing if it is turned away. The first call after the reset interval turns
an open breaker half-open. -/
def admit? (s : Settings) (now : Nat) (b : Breaker) : Option Breaker :=
  match b.phase with
  | .opened => if b.cooledDown s now then some { b with phase := .halfOpen, successes := 0 } else none
  | .closed | .halfOpen => some b

variable {s : Settings} {now : Nat} {b b' : Breaker}

theorem admit?_eq_some_iff : b.admit? s now = some b' ↔ b.phase ≠ .opened ∧ b' = b ∨
    b.phase = .opened ∧ b.cooledDown s now ∧ b' = { b with phase := .halfOpen, successes := 0 } := by
  rcases hp : b.phase with _ | _ | _ <;> simp [admit?, hp, @eq_comm _ b']

/-- Counts a success. A success that comes in while the breaker is open changes nothing. -/
def recordSuccess (b : Breaker) : Breaker :=
  match b.phase with
  | .halfOpen =>
    if trialSuccesses ≤ b.successes + 1 then { b with phase := .closed, failures := 0, successes := 0 }
    else { b with successes := b.successes + 1 }
  | .closed => { b with failures := 0 }
  | .opened => b

theorem recordSuccess_of_closed (hp : b.phase = .closed) : b.recordSuccess = { b with failures := 0 } := by
  simp only [recordSuccess, hp]

theorem recordSuccess_of_opened (hp : b.phase = .opened) : b.recordSuccess = b := by
  simp only [recordSuccess, hp]

theorem recordSuccess_of_first (hp : b.phase = .halfOpen) (h0 : b.successes = 0) :
    b.recordSuccess = { b with successes := 1 } := by
  simp only [recordSuccess, hp, h0]
  rfl

theorem recordSuccess_of_second (hp : b.phase = .halfOpen) (h1 : b.successes = 1) :
    b.recordSuccess = { b with phase := .closed, failures := 0, successes := 0 } := by
  simp only [recordSuccess, hp, h1]
  rfl

/-- One more, but no more than 32 bits hold. -/
def bump (n : UInt32) : UInt32 := if n = .ofNat (2 ^ (32 : Nat) - 1) then n else n + 1

/-- Counts a failure and notes its time, in every phase. -/
def recordFailure (s : Settings) (now : Nat) (b : Breaker) : Breaker :=
  let failures := bump b.failures
  let phase := match b.phase with
    | .halfOpen | .opened => .opened
    | .closed => if s.maxFailures ≤ failures then .opened else .closed
  ⟨phase, failures, 0, some now⟩

def record (s : Settings) (now : Nat) (success : Bool) (b : Breaker) : Breaker :=
  if success then b.recordSuccess else b.recordFailure s now

end Breaker

end EndpointWatch
