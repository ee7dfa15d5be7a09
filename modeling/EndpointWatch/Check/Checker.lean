import EndpointWatch.Check.Probe

/-!
# The checker

A `Checker` keeps one breaker for each endpoint that it has met. A check arrives, is turned away or let in, makes
its probes and leaves its outcome with the breaker that let it in. Many checks can be under way at once; a breaker
that was forgotten meanwhile no longer takes outcomes.
-/

namespace EndpointWatch

/-- A breaker in the register, with its number in the order in which they were made. -/
structure Guard where
  serial : Nat
  settings : Breaker.Settings
  breaker : Breaker
  deriving DecidableEq, Repr

structure Checker where
  policy : Retry.Policy Float
  template : Breaker.Settings
  guards : Dict Int64 Guard
  nextSerial : Nat

/-- What an arriving check meets. -/
inductive Arrival where
  | refused (f : CheckFailure)
  | admitted (serial : Nat)
  deriving DecidableEq, Repr

namespace Checker

def fresh (policy : Retry.Policy Float) (template : Breaker.Settings) : Checker :=
  ⟨policy.normalized, template, .empty, 1⟩

def breakerName (c : Checker) (id : Int64) : String := s!"{c.template.name}-{String.ofList (Text.ofInt id.toInt)}"

/-- The breaker of an endpoint, made closed if there is none yet. -/
def guardFor (id : Int64) (c : Checker) : Guard × Checker :=
  match c.guards.get? id with
  | some g => (g, c)
  | none =>
    let settings : Breaker.Settings := { c.template with name := c.breakerName id }
    let g : Guard := ⟨c.nextSerial, settings.effective, .fresh⟩
    (g, { c with guards := c.guards.insert id g, nextSerial := c.nextSerial + 1 })

/-- A check arrives. An unreadable URL is turned away before any breaker is asked. -/
def arrive (e : Endpoint) (now : Nat) (c : Checker) : Arrival × Checker :=
  if Url.isValidAddress e.url then
    let (g, c) := c.guardFor e.id
    match g.breaker.admit? g.settings now with
    | none => (.refused (.guarded g.settings.name .turnedAway), c)
    | some b => (.admitted g.serial, { c with guards := c.guards.insert e.id { g with breaker := b } })
  else (.refused .invalidUrl, c)

/-- A check leaves its outcome with the breaker that let it in, if that is still there. -/
def record (id : Int64) (serial now : Nat) (success : Bool) (c : Checker) : Checker :=
  match c.guards.get? id with
  | some g =>
    if g.serial = serial then
      { c with guards := c.guards.insert id { g with breaker := g.breaker.record g.settings now success } }
    else c
  | none => c

def reset (id : Int64) (c : Checker) : Checker :=
  let (g, c) := c.guardFor id
  { c with guards := c.guards.insert id { g with breaker := .fresh } }

/-- Forgets the breakers of all other endpoints. -/
def retain (ids : List Int64) (c : Checker) : Checker :=
  { c with guards := c.guards.filter fun id _ => ids.contains id }

def count (c : Checker) : Nat := c.guards.size

/-- How a check that was let in and has made its probes ended. -/
def outcome (c : Checker) (id : Int64) (r : Except (Retry.Stop ProbeError) Answered) : CheckOutcome :=
  r.mapError fun s => .guarded (c.breakerName id) (.inner s)

/-- A check as a whole: how it ended, when its probes began, and when it was over. -/
structure Checked where
  outcome : CheckOutcome
  probes : List Nat
  ended : Nat

/-- A check with nothing else going on. `probe` says what its `n`-th probe does, and `draw` gives the draw for the jitter
after it. -/
def check (e : Endpoint) (now : Nat) (probe : Nat → ProbeCall) (c : Checker) (draw : Nat → Nat := fun _ => 0) :
    Checked × Checker :=
  match c.arrive e now with
  | (.refused f, c) => (⟨.error f, [], now⟩, c)
  | (.admitted serial, c) =>
    let r := c.policy.run probe now draw
    (⟨c.outcome e.id r.result, r.starts, r.ended⟩, c.record e.id serial r.ended r.result.isOk)

/-- The network after that many probes of an endpoint. -/
def afterProbes (e : Endpoint) (fallback : Nat) (net : Http.Network) : Nat → Http.Network
  | 0 => net
  | n + 1 => (e.probe fallback (afterProbes e fallback net n)).2

/-- A check over a network with nothing else going on. -/
def checkOver (e : Endpoint) (fallback now : Nat) (net : Http.Network) (c : Checker) :
    Checked × Checker × Http.Network :=
  let (r, c) := c.check e now fun n => (e.probe fallback (afterProbes e fallback net n)).1
  (r, c, afterProbes e fallback net r.probes.length)

end Checker

end EndpointWatch
