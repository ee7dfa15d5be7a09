import EndpointWatch.Check.Checker

/-!
# Checks under way

A `Session` is a checker with its clock and the checks that are under way, each on behalf of a cycle. A check
arrives, is turned away or let in, and then makes one probe after the other; the wait between two probes is part
of the time at which the next one begins. A check that is over stays under way until it has handed in how it ended.
-/

namespace EndpointWatch

/-- How far a check has come: not yet at the checker, or let in by a breaker and making the probe after `made`
others, which begins at `since`, or over at the time `ended`. -/
inductive Check.Stage where
  | spawned
  | probing (serial made since : Nat)
  | done (o : CheckOutcome) (ended : Nat)

structure Check where
  cycle : Nat
  endpoint : Endpoint
  stage : Check.Stage

namespace Checker

structure Session where
  checker : Checker
  now : Nat
  underWay : Dict Nat Check
  nextCheck : Nat

namespace Session

def start (c : Checker) : Session := ⟨c, 0, .empty, 0⟩

def advance (ms : Nat) (s : Session) : Session := { s with now := s.now + ms }

def spawn (cycle : Nat) (e : Endpoint) (s : Session) : Session :=
  { s with underWay := s.underWay.insert s.nextCheck ⟨cycle, e, .spawned⟩, nextCheck := s.nextCheck + 1 }

/-- Forgets the breakers of all other endpoints. -/
def retain (ids : List Int64) (s : Session) : Session := { s with checker := s.checker.retain ids }

def proceed (n : Nat) (k : Check) (stage : Check.Stage) (s : Session) : Session :=
  { s with underWay := s.underWay.insert n { k with stage } }

/-- A check arrives at the checker. It is over at once if it is turned away. -/
def arrive? (n : Nat) (s : Session) : Option Session :=
  match s.underWay.get? n with
  | some k =>
    match k.stage with
    | .spawned =>
      let (a, checker) := s.checker.arrive k.endpoint s.now
      let s := { s with checker }
      some <| match a with
        | .refused f => s.proceed n k (.done (.error f) s.now)
        | .admitted serial => s.proceed n k (.probing serial 0 s.now)
    | .probing .. | .done .. => none
  | none => none

/-- The probe that a check makes ends. The check is over if it was answered or was the last one. -/
def probed? (n : Nat) (r : Except ProbeError Answered) (s : Session) : Option Session :=
  match s.underWay.get? n with
  | some k =>
    match k.stage with
    | .probing serial made since =>
      if s.now < since then none
      else
        let leave (r : Except (Retry.Stop ProbeError) Answered) : Session :=
          { s with checker := s.checker.record k.endpoint.id serial s.now r.isOk }.proceed n k
            (.done (s.checker.outcome k.endpoint.id r) s.now)
        some <| match r with
          | .ok a => leave (.ok a)
          | .error e =>
            match s.checker.policy.wait? (made + 1) with
            | some ms => s.proceed n k (.probing serial (made + 1) (s.now + ms))
            | none => leave (.error (.exhausted s.checker.policy.maxAttempts e))
    | .spawned | .done .. => none
  | none => none

/-- A check that is over hands in how it ended and when. -/
def handIn? (n : Nat) (s : Session) : Option ((Check × CheckOutcome × Nat) × Session) :=
  match s.underWay.get? n with
  | some k =>
    match k.stage with
    | .done o ended => some ((k, o, ended), { s with underWay := s.underWay.erase n })
    | .spawned | .probing .. => none
  | none => none

end Session

end Checker

end EndpointWatch
