import EndpointWatch.Check.Session
import EndpointWatch.Monitor.Cycle
import EndpointWatch.Monitor.Delivery
import EndpointWatch.Monitor.Settings

/-!
# The monitor

A `Monitor` runs cycles, any number of them at a time, with their checks and the deliveries that come of them. A
`Move` is one thing that happens to it: a check arrives, ends a probe or hands in its result, a cycle takes or saves
a result or is stopped, a delivery calls. Moves come in any order in which each of them is possible, and the outcomes of probes,
saves and calls are part of the moves, so that a run says nothing about where they came from. `log` keeps what
there is to tell of a run.
-/

namespace EndpointWatch

/-- What there is to tell: of cycles, and of the deliveries of what they saved. -/
inductive Happening where
  | began (cycle : Nat) (endpoints : List Endpoint)
  | handedIn (cycle : Nat) (endpoint : Endpoint) (r : CheckResult)
  | saved (cycle : Nat) (r : CheckResult)
  | unsaved (cycle : Nat) (r : CheckResult)
  | broadcast (cycle : Nat) (r : CheckResult)
  | ended (cycle : Nat) (r : Except CycleError CycleReport)
  | handedOn (cycle delivery : Nat) (channel : Channel) (r : CheckResult)
  | called (delivery : Nat) (channel : Channel)
  | delivered (delivery : Nat) (channel : Channel) (r : CheckResult)

/-- A monitor, and its `log` with the newest entry first. `epoch` is the instant at which its clock read 0. -/
structure Monitor where
  handOver : HandOver
  epoch : Instant
  session : Checker.Session
  cycles : Dict Nat Cycle
  nextCycle : Nat
  deliveries : Dict Nat Delivery
  nextDelivery : Nat
  isShutDown : Bool
  log : List Happening

namespace Monitor

def start (handOver : HandOver) (epoch : Instant) (checker : Checker) : Monitor :=
  ⟨{ handOver with policy := handOver.policy.normalized }, epoch, .start checker, .empty, 0, .empty, 0, false, []⟩

def now (m : Monitor) : Nat := m.session.now

/-- The instant at which the monitor's clock shows a time. -/
def instant (time : Nat) (m : Monitor) : Instant := .ofMillis (m.epoch.toMillis + time)

def tell (h : Happening) (m : Monitor) : Monitor := { m with log := h :: m.log }

def endCycle (n : Nat) (r : Except CycleError CycleReport) (m : Monitor) : Monitor :=
  { m with cycles := m.cycles.erase n }.tell (.ended n r)

/-- A cycle is stopped before it has what the fetch of the active endpoints gives. -/
def abandonFetch (e : CycleError) (m : Monitor) : Monitor :=
  { m with nextCycle := m.nextCycle + 1 }.endCycle m.nextCycle (.error e)

/-- A cycle begins with what the fetch of the active endpoints gave. -/
def beginCycle (isCancelled : Bool) (fetched : Except StorageError (List Endpoint)) (m : Monitor) : Monitor :=
  let n := m.nextCycle
  let m := { m with nextCycle := n + 1 }
  if isCancelled then m.endCycle n (.error .cancelled)
  else
    match fetched with
    | .error e => m.endCycle n (.error (.fetch e))
    | .ok es =>
      let session := m.session.retain (es.map Endpoint.id)
      let m := { m with session }.tell (.began n es)
      if es.isEmpty then m.endCycle n (.ok .empty)
      else { m with
        session := es.foldl (fun s e => s.spawn n e) session
        cycles := m.cycles.insert n (.start es.length) }

/-- A check that is over hands its result to its cycle, which must have room for it. If the cycle has ended the
result is lost. -/
def handIn? (n : Nat) (m : Monitor) : Option Monitor := do
  let ((k, o, ended), session) ← m.session.handIn? n
  let m := { m with session }
  match m.cycles.get? k.cycle with
  | some c =>
    let r := o.result k.endpoint (m.instant ended)
    let c ← c.deliver? r
    some ({ m with cycles := m.cycles.insert k.cycle c }.tell (.handedIn k.cycle k.endpoint r))
  | none => some m

/-- A delivery of a result that a cycle saved begins. -/
def handOn (cycle : Nat) (channel : Channel) (r : CheckResult) (m : Monitor) : Monitor :=
  { m with
    deliveries := m.deliveries.insert m.nextDelivery (.start channel r m.now)
    nextDelivery := m.nextDelivery + 1 }.tell (.handedOn cycle m.nextDelivery channel r)

/-- What follows once a save has ended: a saved result is broadcast and handed on. -/
def afterSave (n : Nat) (r : CheckResult) (success : Bool) (m : Monitor) : Monitor :=
  if success then
    let m := ((m.tell (.saved n r)).tell (.broadcast n r)).handOn n .stream r
    if m.handOver.hasEvaluator then m.handOn n .evaluator r else m
  else m.tell (.unsaved n r)

def endDelivery (n : Nat) (m : Monitor) : Monitor := { m with deliveries := m.deliveries.erase n }

inductive Move where
  | advance (ms : Nat)
  | beginCycle (isCancelled : Bool) (fetched : Except StorageError (List Endpoint))
  | abandonFetch (e : CycleError)
  | arrive (check : Nat)
  | probed (check : Nat) (r : Except ProbeError Answered)
  | handIn (check : Nat)
  | take (cycle : Nat)
  | saved (cycle : Nat) (success : Bool)
  | complete (cycle : Nat)
  | stop (cycle : Nat) (e : CycleError)
  | call (delivery : Nat)
  | called (delivery : Nat) (success : Bool)
  | giveUp (delivery : Nat) (wentThrough : Bool)
  | shutDown

/-- The monitor after a move, if it is possible. No call begins after the shutdown, and a delivery is given up only
when its time is up, or while it waits after the shutdown. A call that is cut short may have gone through. -/
def move? (m : Monitor) : Move → Option Monitor
  | .advance ms => some { m with session := m.session.advance ms }
  | .beginCycle isCancelled fetched => some (m.beginCycle isCancelled fetched)
  | .abandonFetch e => some (m.abandonFetch e)
  | .arrive n => (m.session.arrive? n).map fun session => { m with session }
  | .probed n r => (m.session.probed? n r).map fun session => { m with session }
  | .handIn n => m.handIn? n
  | .take n => do
    let c ← (← m.cycles.get? n).take?
    some { m with cycles := m.cycles.insert n c }
  | .saved n success => do
    let (r, c) ← (← m.cycles.get? n).saved? success
    some ({ m with cycles := m.cycles.insert n c }.afterSave n r success)
  | .complete n => do
    let c ← m.cycles.get? n
    if c.isComplete then some (m.endCycle n (.ok c.report)) else none
  | .stop n e => (m.cycles.get? n).map fun _ => m.endCycle n (.error e)
  | .call n => do
    if m.isShutDown then none
    let d ← (← m.deliveries.get? n).call? m.handOver.limit m.now
    some ({ m with deliveries := m.deliveries.insert n d }.tell (.called n d.channel))
  | .called n success => do
    let d ← m.deliveries.get? n
    if d.isWaiting || d.deadline m.handOver.limit < m.now then none
    if success then some ((m.endDelivery n).tell (.delivered n d.channel d.result))
    else
      match d.retry? m.handOver.policy m.now with
      | some d => some { m with deliveries := m.deliveries.insert n d }
      | none => some (m.endDelivery n)
  | .giveUp n wentThrough => do
    let d ← m.deliveries.get? n
    if wentThrough && d.isWaiting then none
    if d.deadline m.handOver.limit ≤ m.now || (m.isShutDown && d.isWaiting) then
      let m := m.endDelivery n
      some (if wentThrough then m.tell (.delivered n d.channel d.result) else m)
    else none
  | .shutDown => some { m with isShutDown := true }

def moves? (m : Monitor) (ms : List Move) : Option Monitor := ms.foldlM move? m

/-- How a cycle ended, if it has. -/
def outcome? (n : Nat) (m : Monitor) : Option (Except CycleError CycleReport) :=
  m.log.findSome? fun
    | .ended k r => if k = n then some r else none
    | _ => none

def isIdle (m : Monitor) : Bool := m.session.underWay.toList.isEmpty && m.deliveries.toList.isEmpty

end Monitor

end EndpointWatch
