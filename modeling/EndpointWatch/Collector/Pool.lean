import EndpointWatch.Arith
import EndpointWatch.Collector.Basic

/-!
# Running collectors side by side

A `Pool` runs each of its collectors once, at most `workers` of them at a time: each takes a permit before it starts, and
gives it back when it has ended, in whatever way. A `Move` is what one of them does next, or fires the cancellation, after
which none is started any more. When all have ended, `outcome` has the metrics of those that succeeded and the error
of the first one, by name, that did not.
-/

namespace EndpointWatch

open scoped EndpointWatch.Arith

inductive Ending where
  | notStarted
  | collected (r : Collected)
  deriving Inhabited

/-- How far a collector has come. One that is `admitted` has a permit, and has not looked yet whether the collection was
cancelled meanwhile. -/
inductive Task where
  | waiting
  | admitted
  | running
  | ended (e : Ending)
  deriving Inhabited

namespace Task

def isRunning : Task → Bool
  | running => true
  | waiting | admitted | ended _ => false

def isEnded : Task → Bool
  | ended _ => true
  | waiting | admitted | running => false

def metrics? : Task → Option (List Metric)
  | ended (.collected r) => r.metrics?
  | _ => none

def error? (name : String) : Task → Option CollectError
  | ended .notStarted => some .cancelled
  | ended (.collected r) => r.error? name
  | waiting | admitted | running => none

end Task

/-- The metrics of the collectors that succeeded, and the error of the first that did not. -/
@[ext] structure Collection where
  metrics : Dict String (List Metric)
  error? : Option CollectError

namespace Collection

def total (c : Collection) : Nat := (c.metrics.values.map List.length).sum

/-- All metrics in the order of the collectors' names. -/
def flatten (c : Collection) : List Metric := c.metrics.values.flatten

end Collection

/-- A run of several collectors. `free` is how many permits are left. -/
structure Pool where
  free : Nat
  isCancelled : Bool
  tasks : Dict String Task

namespace Pool

inductive Move where
  | enter (name : String)
  | start (name : String)
  | finish (name : String) (r : Collected)
  | cancel
  | giveUp (name : String)

def mostWorkers : Nat := 2 ^ (61 : Nat) - 1

/-- What a collection with more workers than there can be crashes with. -/
def tooManyWorkers : String := s!"a semaphore may not have more than MAX_PERMITS permits ({mostWorkers})"

def fresh {ν : Type} (workers : Nat) (isCancelled : Bool) (collectors : Dict String ν) : Pool :=
  ⟨workers, isCancelled, collectors.mapValues fun _ => .waiting⟩

def runningCount (p : Pool) : Nat := p.tasks.values.countP Task.isRunning

def setTask (p : Pool) (name : String) (t : Task) : Pool := { p with tasks := p.tasks.insert name t }

def takePermit (p : Pool) : Pool := { p with free := p.free - 1 }

def putPermit (p : Pool) : Pool := { p with free := p.free + 1 }

/-- The pool after a move, if it is possible. A collector that has a permit looks once more whether the collection was
cancelled, and starts only if it was not. One gives up only then, and gives its permit back if it has one. -/
def move? (p : Pool) : Move → Option Pool
  | .enter name =>
    match p.tasks.get? name with
    | some .waiting => if 0 < p.free then some (p.takePermit.setTask name .admitted) else none
    | _ => none
  | .start name =>
    match p.tasks.get? name with
    | some .admitted => if p.isCancelled then none else some (p.setTask name .running)
    | _ => none
  | .finish name r =>
    match p.tasks.get? name with
    | some .running => some (p.putPermit.setTask name (.ended (.collected r)))
    | _ => none
  | .cancel => some { p with isCancelled := true }
  | .giveUp name =>
    match p.tasks.get? name with
    | some .waiting => if p.isCancelled then some (p.setTask name (.ended .notStarted)) else none
    | some .admitted => if p.isCancelled then some (p.putPermit.setTask name (.ended .notStarted)) else none
    | _ => none

def moves? (p : Pool) (ms : List Move) : Option Pool := ms.foldlM move? p

def isDone (p : Pool) : Bool := p.tasks.values.all Task.isEnded

def outcome (p : Pool) : Collection where
  metrics := p.tasks.filterMap fun _ t => t.metrics?
  error? := p.tasks.toList.findSome? fun (name, t) => t.error? name

end Pool

end EndpointWatch
