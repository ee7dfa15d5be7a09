import EndpointWatch.Arith
import EndpointWatch.Storage.Operation
import EndpointWatch.Storage.Window

/-!
# The store in memory

Everything is kept as it came, results, stream entries and metric points only as many as fit.
-/

namespace EndpointWatch.Storage

open scoped EndpointWatch.Arith

def resultsPerEndpoint : Nat := 1000
def entriesPerStream : Nat := 10_000
def metricPoints : Nat := 100_000

structure Memory where
  endpoints : Dict Int64 Endpoint
  alerts : Dict Int64 Alert
  results : Dict Int64 (Window resultsPerEndpoint CheckResult)
  streams : Dict String (Window entriesPerStream StreamEntry)
  lastId : UInt64
  metrics : Window metricPoints Metric

namespace Memory

def empty : Memory := ⟨.empty, .empty, .empty, .empty, 0, .empty⟩

instance : Inhabited Memory := ⟨empty⟩

def activeEndpoints (m : Memory) : List Endpoint := m.endpoints.values.filter Endpoint.isActive

def alertsFor (m : Memory) (endpointId : Int64) : List Alert :=
  m.alerts.values.filter fun a => a.endpointId = endpointId && a.isActive

def saveResult (m : Memory) (r : CheckResult) : Memory :=
  let w := (m.results.get? r.endpointId).getD .empty
  { m with results := m.results.insert r.endpointId (w.push r) }

/-- The results saved last, newest first. -/
def latestResults (m : Memory) (endpointId : Int64) (limit : Nat) : List CheckResult :=
  (((m.results.get? endpointId).getD .empty).newestFirst).take limit

/-- All results that are kept, endpoint by endpoint. -/
def allResults (m : Memory) : List CheckResult := m.results.values.flatMap Window.oldestFirst

/-- The statistics of the results after an instant, if it does not come to a crash. -/
def resultStats? (m : Memory) (since : Instant) : Option ResultStats :=
  ResultStats.ofResults? (m.allResults.filter fun r => since.lt r.checkedAt)

def resultCount (m : Memory) : Nat := (m.results.values.map Window.count).sum

def endpointCounts (m : Memory) : EndpointCounts :=
  ⟨m.endpoints.size, m.endpoints.values.countP Endpoint.isActive⟩

def alertCount (m : Memory) : Nat := m.alerts.values.countP Alert.isActive

def append (m : Memory) (stream : String) (fields : Dict String String) : Memory :=
  let id := m.lastId + 1
  let w := (m.streams.get? stream).getD .empty
  { m with lastId := id, streams := m.streams.insert stream (w.push ⟨id, stream, fields⟩) }

/-- The kept entries of a stream behind a number, oldest first. -/
def readAfter (m : Memory) (stream : String) (after : UInt64) (limit : Nat) : List StreamEntry :=
  ((((m.streams.get? stream).getD .empty).oldestFirst).filter fun e => after < e.id).take limit

def store (m : Memory) (ms : List Metric) : Memory := { m with metrics := m.metrics.pushAll ms }

/-- The kept points in a range of time, newest first, and points of the same time as they were stored. -/
def retrieve (m : Memory) (start stop : Instant) : List Metric :=
  (m.metrics.oldestFirst.filter fun p => start.le p.time && p.time.le stop).mergeSort fun a b => b.time.le a.time

def retrieveByName (m : Memory) (name : String) (start stop : Instant) : List Metric :=
  (m.retrieve start stop).filter fun p => p.name = name

def aggregate (m : Memory) (name : String) (start stop : Instant) : Aggregate :=
  .ofValues name ((m.retrieveByName name start stop).map Metric.value)

def step (m : Memory) : Operation → Answer × Memory
  | .upsertEndpoint e => (.done, { m with endpoints := m.endpoints.insert e.id e })
  | .upsertAlert a => (.done, { m with alerts := m.alerts.insert a.id a })
  | .activeEndpoints => (.endpoints m.activeEndpoints, m)
  | .alertsFor id => (.alerts (m.alertsFor id), m)
  | .saveResult r => (.done, m.saveResult r)
  | .latestResults id limit => (.results (m.latestResults id limit.toNat), m)
  | .resultStats since => ((m.resultStats? since).elim (.crashed Tally.overflow) .stats, m)
  | .endpointCounts => (.counts m.endpointCounts, m)
  | .alertCount => (.number m.alertCount, m)
  | .append stream fields =>
    let m := m.append stream fields
    (.number m.lastId.toNat, m)
  | .readAfter stream after limit => (.entries (m.readAfter stream after limit.toNat), m)
  | .store ms => (.done, m.store ms)
  | .retrieve start stop => (.metrics (m.retrieve start stop), m)
  | .retrieveByName name start stop => (.metrics (m.retrieveByName name start stop), m)
  | .aggregate name start stop => (.aggregate (m.aggregate name start stop), m)

end Memory

end EndpointWatch.Storage
