import EndpointWatch.Agenda
import EndpointWatch.Evaluator.Service
import EndpointWatch.Monitor.Basic
import EndpointWatch.Monitor.Scheduler
import EndpointWatch.Storage.Flaky

/-!
# A monitor at work

A `Deployment` is a monitor with all that it works with: a store, a result stream, an evaluator and a network, some
of which fail as they are told to, and a scheduler. Where only waiting takes time, what happens has one definite
order: `agenda` holds what is due when, and `run` does it, each time as a move of the monitor.
-/

namespace EndpointWatch

/-- What can be due. -/
inductive Job where
  | arrive (check : Nat)
  | probe (check : Nat)
  | probed (check : Nat) (r : Except ProbeError Answered)
  | stop (cycle : Nat) (e : CycleError)
  | call (delivery : Nat)
  | called (delivery : Nat) (success : Bool)
  | giveUp (delivery : Nat)
  | tick

/-- A monitor and its surroundings. `unsavable` are the endpoints whose results the store refuses, `repeated` those
that it lists twice, `linked` the cycles that a shutdown ends; `told` is how much of the log was looked at. Limits
are in milliseconds. -/
structure Deployment where
  monitor : Monitor
  clientLimit : Nat
  cycleLimit : Nat
  store : Storage.Memory
  fetchFailure? : Option StorageError
  unsavable : List Int64
  repeated : List Int64
  stream : Storage.FlakyStream
  evaluator? : Option Evaluator
  evaluatorCalls : Nat
  network : Http.Network
  linked : List Nat
  scheduler? : Option Scheduler
  agenda : Agenda Job
  told : Nat

namespace Deployment

/-- The stream that saved results go to. -/
def resultStream : String := "api-metrics"

def start (handOver : HandOver) (epoch : Instant) (checker : Checker) (clientLimit cycleLimit : Nat)
    (stream : Storage.FlakyStream) (evaluator? : Option Evaluator) (network : Http.Network) : Deployment where
  monitor := .start { handOver with hasEvaluator := evaluator?.isSome } epoch checker
  clientLimit
  cycleLimit
  store := .empty
  fetchFailure? := none
  unsavable := []
  repeated := []
  stream
  evaluator?
  evaluatorCalls := 0
  network
  linked := []
  scheduler? := none
  agenda := []
  told := 0

def now (d : Deployment) : Nat := d.monitor.now

/-- Something to do after that many milliseconds. -/
def later (ms : Nat) (j : Job) (d : Deployment) : Deployment := { d with agenda := d.agenda.add (d.now + ms) j }

/-- The active endpoints as the store lists them. -/
def fetch (d : Deployment) : Except StorageError (List Endpoint) :=
  match d.fetchFailure? with
  | some e => .error e
  | none =>
    let es := d.store.activeEndpoints
    .ok (es ++ es.filter fun e => d.repeated.contains e.id)

/-- A move of the monitor. One that has become impossible is left out. -/
def move (m : Monitor.Move) (d : Deployment) : Deployment :=
  match d.monitor.move? m with
  | some monitor => { d with monitor }
  | none => d

/-- Begins a cycle that is stopped after `limit` milliseconds, and gives its number. A linked one ends with the
shutdown. -/
def beginCycle (isLinked isCancelled : Bool) (limit : Nat) (e : CycleError) (d : Deployment) : Nat × Deployment :=
  let n := d.monitor.nextCycle
  let first := d.monitor.session.nextCheck
  let d := d.move (.beginCycle isCancelled d.fetch)
  let checks := List.range' first (d.monitor.session.nextCheck - first)
  let d := if checks.isEmpty then d else d.later limit (.stop n e)
  let d := if isLinked then { d with linked := n :: d.linked } else d
  (n, checks.foldl (fun d k => d.later 0 (.arrive k)) d)

def beginLinked (d : Deployment) : Nat × Deployment :=
  d.beginCycle true d.monitor.isShutDown d.cycleLimit (.deadline d.cycleLimit)

/-- When a cycle of the scheduler has ended, the ticker is looked at again. -/
def resume (d : Deployment) : Deployment :=
  match d.scheduler?.bind (·.resume? d.now d.monitor) with
  | some (_, s) => { d with scheduler? := some s, agenda := d.agenda.add (s.ticker.next d.now) .tick }
  | none => d

/-- The scheduler begins a cycle, if it is time. -/
def tick (d : Deployment) : Deployment :=
  match d.scheduler?.bind (·.tick? d.now) with
  | some s =>
    let (n, d) := d.beginLinked
    { d with scheduler? := s.fetched? n }.resume
  | none => d

/-- A cycle saves a result that waits, and ends if that was the last. -/
def saveNext (n : Nat) (d : Deployment) : Deployment :=
  let d := d.move (.take n)
  match (d.monitor.cycles.get? n).bind Cycle.saving? with
  | some r =>
    let success := !d.unsavable.contains r.endpointId
    let d := if success then { d with store := d.store.saveResult r } else d
    let first := d.monitor.nextDelivery
    let d := d.move (.saved n success)
    let deliveries := List.range' first (d.monitor.nextDelivery - first)
    ((deliveries.foldl (fun d k => d.later 0 (.call k)) d).move (.complete n)).resume
  | none => d

/-- A check has moved on: its next probe begins when it is due, and if it is over it hands in its result, which its
cycle saves. -/
def followUp (check cycle : Nat) (d : Deployment) : Deployment :=
  match d.monitor.session.underWay.get? check with
  | some ⟨_, _, .probing _ _ since⟩ => d.later (since - d.now) (.probe check)
  | some ⟨_, _, .done ..⟩ => (d.move (.handIn check)).saveNext cycle
  | _ => d.saveNext cycle

/-- The call that a delivery has begun: how long it takes, and whether it succeeds. -/
def serve (x : Delivery) (d : Deployment) : (Nat × Bool) × Deployment :=
  match x.channel, d.evaluator? with
  | .stream, _ =>
    let (r, stream) := d.stream.append resultStream x.result.streamFields
    ((0, r.isOk), { d with stream })
  | .evaluator, some e =>
    let (r, network) := e.call d.evaluatorCalls x.result d.network
    (r, { d with network, evaluatorCalls := d.evaluatorCalls + 1 })
  | .evaluator, none => ((0, true), d)

/-- Something that a delivery does at a time, or its end if its time is up before that. -/
def beforeDeadline (x : Delivery) (n due : Nat) (j : Job) (d : Deployment) : Deployment :=
  let deadline := x.deadline d.monitor.handOver.limit
  if due ≤ deadline then d.later (due - d.now) j else d.later (deadline - d.now) (.giveUp n)

/-- Does what is due now. What was due for something that has ended meanwhile changes nothing. -/
def perform (j : Job) (d : Deployment) : Deployment :=
  match j with
  | .arrive n =>
    match d.monitor.session.underWay.get? n with
    | some k => (d.move (.arrive n)).followUp n k.cycle
    | none => d
  | .probe n =>
    match d.monitor.session.underWay.get? n with
    | some k =>
      let (c, network) := k.endpoint.probe d.clientLimit d.network
      { d with network }.later c.lasts (.probed n c.result)
    | none => d
  | .probed n r =>
    match d.monitor.session.underWay.get? n with
    | some k => (d.move (.probed n r)).followUp n k.cycle
    | none => d
  | .stop n e => (d.move (.stop n e)).resume
  | .call n =>
    match d.monitor.move? (.call n) with
    | some monitor =>
      let d := { d with monitor }
      match d.monitor.deliveries.get? n with
      | some x =>
        let ((lasts, success), d) := d.serve x
        d.beforeDeadline x n (d.now + lasts) (.called n success)
      | none => d
    | none => d.move (.giveUp n false)
  | .called n success =>
    let d := d.move (.called n success)
    if d.monitor.isShutDown then d.move (.giveUp n false)
    else
      match d.monitor.deliveries.get? n with
      | some x =>
        match x.stage with
        | .waiting due => d.beforeDeadline x n due (.call n)
        | .calling => d
      | none => d
  | .giveUp n => d.move (.giveUp n false)
  | .tick => d.tick

/-- Does what is due until the given time, as long as `goOn` holds and at most `jobs` times. -/
def run (goOn : Deployment → Bool) (stop : Nat) : (jobs : Nat) → Deployment → Deployment
  | 0, d => d
  | jobs + 1, d =>
    match d.agenda with
    | (due, j) :: agenda =>
      if due ≤ stop && goOn d then
        run goOn stop jobs (({ d with agenda }.move (.advance (due - d.now))).perform j)
      else d
    | [] => d

/-- More than there is to do until the given time: a check takes two jobs for each probe, a delivery two for each
call, and each cycle of the scheduler one check and two deliveries for each endpoint. -/
def jobsUntil (stop : Nat) (d : Deployment) : Nat :=
  let perCheck := 2 * d.monitor.session.checker.policy.maxAttempts.toNat +
    4 * d.monitor.handOver.policy.maxAttempts.toNat + 4
  let perCycle := (d.store.activeEndpoints.length * 2 + 1) * perCheck
  let cycles := d.scheduler?.elim 0 fun s => (stop - d.now) / s.ticker.interval + s.ticker.tolerance + 2
  (d.agenda.length + 1) * perCheck + cycles * perCycle

/-- Lets that many milliseconds pass. -/
def advance (ms : Nat) (d : Deployment) : Deployment :=
  let stop := d.now + ms
  let d := d.run (fun _ => true) stop (d.jobsUntil stop)
  d.move (.advance (stop - d.now))

/-- Lets one millisecond pass, and more of them until nothing is under way, but no more than `steps`. -/
def settle : (steps : Nat) → Deployment → Deployment
  | 0, d => d
  | steps + 1, d =>
    let d := d.advance 1
    if d.monitor.isIdle then d else settle steps d

/-- How long it is waited for what is under way, in milliseconds. -/
def patience : Nat := 2000

/-- Lets a cycle run to its end, and all that comes of it. -/
def finishCycle (limit n : Nat) (d : Deployment) : Deployment :=
  let stop := d.now + limit
  (d.run (fun d => d.monitor.cycles.contains n) stop (d.jobsUntil stop)).settle patience

/-- Runs a cycle: under the deadline for cycles, or until it is cancelled at a time counted from now. -/
def runCycle (cancelAt? : Option Nat) (d : Deployment) : Option (Except CycleError CycleReport) × Deployment :=
  let limit := cancelAt?.getD d.cycleLimit
  let (n, d) :=
    match cancelAt? with
    | none => d.beginLinked
    | some at_ => d.beginCycle false (at_ = 0) limit .cancelled
  let d := d.finishCycle limit n
  (d.monitor.outcome? n, d)

/-- Starts the scheduler. Without an interval it does nothing. -/
def startScheduler (interval : Nat) (d : Deployment) : Deployment :=
  if interval = 0 then d
  else { d with scheduler? := some (.start 1 interval d.now) }.later 0 .tick

/-- Shuts the monitor down: the scheduler stops, linked cycles end, and what waits to be handed on is given up. -/
def shutDown (d : Deployment) : Deployment :=
  let d := { d with scheduler? := none }.move .shutDown
  let d := d.linked.foldl (fun d n => d.move (.stop n .cancelled)) { d with linked := [] }
  d.monitor.deliveries.keys.foldl (fun d n => d.move (.giveUp n false)) d

/-- What happened since the last look. -/
def news (d : Deployment) : List Happening := (d.monitor.log.take (d.monitor.log.length - d.told)).reverse

/-- Looks at what happened. Appends and requests are counted anew from here. -/
def look (d : Deployment) : Deployment :=
  { d with
    told := d.monitor.log.length
    stream := { d.stream with calls := 0 }
    network := d.network.recount }

end Deployment

end EndpointWatch
