import EndpointWatch.Retry.Policy

/-!
# Repeating an operation

`Policy.run` calls an operation until it succeeds or the attempts are spent; `Policy.runUntil` also stops
once a cancellation has fired, which it notices before each call and while it waits. Time is counted in
milliseconds; the operation is given by what its `n`-th call does. The failed calls are counted in 32 bits,
and the count stays below the bound on attempts.
-/

namespace EndpointWatch.Retry

/-- One call of an operation: how long it takes, how it ends, and whether it fires the cancellation when
it ends. -/
structure Call (ε τ : Type) where
  lasts : Nat
  result : Except ε τ
  cancels : Bool

/-- Why a run ended without a value. -/
inductive Stop (ε : Type) where
  | exhausted (attempts : UInt32) (last : ε)
  | cancelled
  deriving DecidableEq, Repr

namespace Stop

variable {ε : Type}

def message (show_ : ε → String) : Stop ε → String
  | exhausted attempts last => s!"max retries ({attempts}) exceeded: {show_ last}"
  | cancelled => "operation cancelled"

/-- The error of the final attempt, when all attempts were made. -/
def lastError? : Stop ε → Option ε
  | exhausted _ last => some last
  | cancelled => none

end Stop

/-- What a run did: when each call began, how many failed calls it counted, when it ended, and how. -/
structure Run (ε τ : Type) where
  starts : List Nat
  failed : UInt32
  ended : Nat
  result : Except (Stop ε) τ

variable {ε τ : Type}

/-- Puts an earlier call in front. -/
def Run.after (start : Nat) (r : Run ε τ) : Run ε τ := { r with starts := start :: r.starts }

theorem toNat_add_one_of_lt {a b : UInt32} (h : a < b) : (a + 1).toNat = a.toNat + 1 := by
  have := UInt32.lt_iff_toNat_lt.mp h
  have := b.toNat_lt
  rw [UInt32.toNat_add, UInt32.toNat_one]
  omega

variable {α : Type} [Magnitude α]

/-- Goes on at time `now`, after `attempt` calls that failed. `draw` gives the draw for the jitter after each call. -/
def runFrom (p : Policy α) (op : Nat → Call ε τ) (draw : Nat → Nat) (attempt : UInt32) (now : Nat)
    (_h : attempt < p.maxAttempts) : Run ε τ :=
  let call := op attempt.toNat
  let ended := now + call.lasts
  match call.result with
  | .ok value => ⟨[now], attempt, ended, .ok value⟩
  | .error e =>
    if h' : attempt + 1 < p.maxAttempts then
      (runFrom p op draw (attempt + 1) (ended + ticks (p.pause attempt (draw attempt.toNat))) h').after now
    else ⟨[now], attempt + 1, ended, .error (.exhausted p.maxAttempts e)⟩
termination_by p.maxAttempts.toNat - attempt.toNat
decreasing_by
  have := toNat_add_one_of_lt _h
  have := UInt32.lt_iff_toNat_lt.mp _h
  omega

/-- Calls the operation, starting at time `now`, until it succeeds or the attempts are spent. -/
def Policy.run (p : Policy α) (op : Nat → Call ε τ) (now : Nat) (draw : Nat → Nat := fun _ => 0) : Run ε τ :=
  runFrom p.normalized op draw 0 now p.maxAttempts_normalized_pos

/-- The wait in milliseconds after that many failing calls; none when no call is left. -/
def Policy.wait? (p : Policy α) (made : Nat) : Option Nat :=
  if made < p.maxAttempts.toNat then some (ticks (p.delay (made - 1).toUInt32)) else none

/-- When a cancellation fires: at a time, and of the calls that begin at that very time after those whose numbers are
below `order`. -/
structure Firing where
  time : Nat
  order : Nat
  deriving DecidableEq, Repr

namespace Firing

/-- Whether it fires before the call with this number begins. -/
def precedes (f : Firing) (call begins : Nat) : Bool := f.time < begins || (f.time = begins && f.order ≤ call)

/-- Whether it fires no later than another one. -/
def before (f g : Firing) : Bool := f.precedes g.order g.time

/-- Whether it ends the wait that follows a call that `ended`, and after which the call with number `next` would begin
at `wake`. If the wait is over when it is noticed, it is a matter of chance which of the two is noticed first. -/
def interrupts (f : Firing) (ended wake next : Nat) (woken : Bool) : Bool :=
  f.precedes next wake && (max f.time ended < wake || !woken)

end Firing

/-- The firing of a cancellation, when it may also be fired by a call. -/
def firing (fires? : Option Firing) (cancels : Bool) (f : Firing) : Option Firing :=
  if cancels then some (fires?.elim f fun g => if g.before f then g else f) else fires?

/-- As `runFrom`, watching a cancellation. `woken` says after which calls the end of the wait is noticed first, where that
is a matter of chance. -/
def runUntilFrom (p : Policy α) (op : Nat → Call ε τ) (draw : Nat → Nat) (woken : Nat → Bool) (attempt : UInt32)
    (now : Nat) (fires? : Option Firing) (_h : attempt < p.maxAttempts) : Run ε τ :=
  if fires?.any (·.precedes attempt.toNat now) then ⟨[], attempt, now, .error .cancelled⟩
  else
    let call := op attempt.toNat
    let ended := now + call.lasts
    let fires? := firing fires? call.cancels ⟨ended, attempt.toNat + 1⟩
    match call.result with
    | .ok value => ⟨[now], attempt, ended, .ok value⟩
    | .error e =>
      if h' : attempt + 1 < p.maxAttempts then
        let wake := ended + ticks (p.pause attempt (draw attempt.toNat))
        match fires?.filter (·.interrupts ended wake (attempt.toNat + 1) (woken attempt.toNat)) with
        | some f => ⟨[now], attempt + 1, max f.time ended, .error .cancelled⟩
        | none => (runUntilFrom p op draw woken (attempt + 1) wake fires? h').after now
      else ⟨[now], attempt + 1, ended, .error (.exhausted p.maxAttempts e)⟩
termination_by p.maxAttempts.toNat - attempt.toNat
decreasing_by
  have := toNat_add_one_of_lt _h
  have := UInt32.lt_iff_toNat_lt.mp _h
  omega

/-- Calls the operation until it succeeds, the attempts are spent or a cancellation has fired. The cancellation fires at
the time `at?`, and then before the calls from number `order` on. -/
def Policy.runUntil (p : Policy α) (op : Nat → Call ε τ) (now : Nat) (at? : Option Nat) (order : Nat := 0)
    (draw : Nat → Nat := fun _ => 0) (woken : Nat → Bool := fun _ => false) : Run ε τ :=
  runUntilFrom p.normalized op draw woken 0 now (at?.map (⟨·, order⟩)) p.maxAttempts_normalized_pos

end EndpointWatch.Retry
