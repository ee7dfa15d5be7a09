import EndpointWatch.Arith
import EndpointWatch.Storage.Operation

/-!
# The store in tables

Records become rows of signed 64-bit integers, doubles and text. Times are cut to the millisecond, unsigned
numbers wrap into signed ones, and maps are kept as JSON text. Rows that other programs wrote may hold
anything; one that does not decode fails the whole query.
-/

namespace EndpointWatch.Storage

open scoped EndpointWatch.Arith

/-! ### Rows -/

structure EndpointRow where
  id : Int64
  userId : Int64
  url : String
  checkInterval : Int64
  timeout : Int64
  headers : Option String
  isActive : Int64
  deriving DecidableEq, Repr, Inhabited

structure AlertRow where
  id : Int64
  userId : Int64
  endpointId : Int64
  kind : String
  threshold : String
  isActive : Int64
  deriving DecidableEq, Repr, Inhabited

/-- A result; `checkedAt` is in milliseconds. -/
structure ResultRow where
  endpointId : Int64
  responseTime : Int64
  status? : Option Int64
  error? : Option String
  checkedAt : Int
  deriving DecidableEq, Repr, Inhabited

structure EntryRow where
  id : UInt64
  stream : String
  fields : String
  deriving DecidableEq, Repr, Inhabited

/-- A point of a metric; `time` is in milliseconds. -/
structure MetricRow where
  name : String
  kind : String
  value : Float
  time : Int
  tags : String
  description : String
  deriving Inhabited

def flag (b : Bool) : Int64 := if b then 1 else 0

/-- What a column of unsigned numbers gives back: a negative number is read as 0. -/
def atLeastZero (n : Int64) : Int64 := if n < 0 then 0 else n

/-- A map as JSON text. -/
def writeMap (d : Dict String String) : String :=
  .ofList (Json.writeObject (d.toList.map fun (k, v) => (k, Json.writeString v)))

def readMap (s : String) : Except StorageError (Dict String String) :=
  (Json.document Json.stringMap s.toList).mapError fun f => .decoding f.message

namespace EndpointRow

def ofEndpoint (e : Endpoint) : EndpointRow :=
  ⟨e.id, e.userId, e.url, e.checkInterval.toUInt64.toInt64, e.timeout.toInt64, e.headers, flag e.isActive⟩

def toEndpoint (r : EndpointRow) : Endpoint :=
  ⟨r.id, r.userId, r.url, (atLeastZero r.checkInterval).toUInt64.toUInt32, (atLeastZero r.timeout).toUInt64,
    r.headers, r.isActive = 1⟩

end EndpointRow

namespace AlertRow

def ofAlert (a : Alert) : AlertRow := ⟨a.id, a.userId, a.endpointId, a.kind, a.threshold, flag a.isActive⟩

def toAlert (r : AlertRow) : Alert := ⟨r.id, r.userId, r.endpointId, r.kind, r.threshold, r.isActive = 1⟩

end AlertRow

namespace ResultRow

def ofResult (r : CheckResult) : ResultRow :=
  ⟨r.endpointId, r.responseTime.toInt64, r.status?.map fun s => s.toUInt64.toInt64, r.error?,
    r.checkedAt.toMillis⟩

def toResult (r : ResultRow) : CheckResult :=
  ⟨r.endpointId, (atLeastZero r.responseTime).toUInt64, r.status?.map fun s => s.toUInt64.toUInt16, r.error?,
    .ofMillis r.checkedAt⟩

/-- Whether the row counts as a success: its status is 2xx. -/
def isUp (r : ResultRow) : Bool := r.status?.any fun s => 200 ≤ s && s < 300

/-- Whether the row counts as a failure: its status is 400 or more, or there is none. -/
def isDown (r : ResultRow) : Bool := r.status?.all (400 ≤ ·)

end ResultRow

namespace EntryRow

def toEntry (r : EntryRow) : Except StorageError StreamEntry := do
  let fields ← readMap r.fields
  .ok ⟨r.id, r.stream, fields⟩

end EntryRow

namespace MetricRow

/-- The row of a point; a value that is no number has none. Negative zero is kept as zero. -/
def ofMetric? (m : Metric) : Option MetricRow :=
  if m.value.isNaN then none
  else some ⟨m.name, m.kind.name, if m.value == 0 then 0 else m.value, m.time.toMillis, writeMap m.tags,
    m.description⟩

def toMetric (r : MetricRow) : Except StorageError Metric := do
  let kind ← (MetricKind.ofName r.kind).mapError .decoding
  let tags ← readMap r.tags
  .ok ⟨r.name, kind, r.value, .ofMillis r.time, tags, r.description⟩

end MetricRow

/-! ### The store -/

/-- The contents of the store. The tables of results, entries and metrics are newest row first. -/
structure Table where
  endpoints : Dict Int64 EndpointRow
  alerts : Dict Int64 AlertRow
  results : List ResultRow
  entries : List EntryRow
  metrics : List MetricRow

namespace Table

def empty : Table := ⟨.empty, .empty, [], [], []⟩

instance : Inhabited Table := ⟨empty⟩

/-- How many rows a query gives at most; a limit that wraps to a negative number is none. -/
def limited {α : Type} (limit : UInt64) (rows : List α) : List α :=
  if limit.toInt64 < 0 then rows else rows.take limit.toNat

def activeEndpoints (t : Table) : List Endpoint :=
  (t.endpoints.values.filter fun r => r.isActive = 1).map EndpointRow.toEndpoint

def alertsFor (t : Table) (endpointId : Int64) : List Alert :=
  (t.alerts.values.filter fun r => r.endpointId = endpointId && r.isActive = 1).map AlertRow.toAlert

def saveResult (t : Table) (r : CheckResult) : Table := { t with results := .ofResult r :: t.results }

/-- The results with the latest times, and of the same time those inserted last. -/
def latestResults (t : Table) (endpointId : Int64) (limit : UInt64) : List CheckResult :=
  let rows := (t.results.filter fun r => r.endpointId = endpointId).mergeSort
    fun a b => b.checkedAt ≤ a.checkedAt
  (limited limit rows).map ResultRow.toResult

/-- The double nearest to a sum. A magnitude of 64 bits is converted as one. -/
def sumToFloat (n : Int) : Float :=
  let x := if n.natAbs < 2 ^ (64 : Nat) then n.natAbs.toUInt64.toFloat else Float.ofNat n.natAbs
  if n < 0 then -x else x

/-- The mean of integers, added up exactly. -/
def mean? (times : List Int64) : Option Float :=
  if times.isEmpty then none else some (sumToFloat (times.map Int64.toInt).sum / Float.ofNat times.length)

def resultStats (t : Table) (since : Instant) : ResultStats :=
  let rows := t.results.filter fun r => since.toMillis < r.checkedAt
  let times := (rows.map ResultRow.responseTime).filter (0 < ·)
  { total := rows.length
    successful := rows.countP ResultRow.isUp
    failed := rows.countP ResultRow.isDown
    averageTime? := mean? times
    maximumTime? := times.max?.map Int64.toUInt64 }

def endpointCounts (t : Table) : EndpointCounts :=
  ⟨t.endpoints.size, t.endpoints.values.countP fun r => r.isActive = 1⟩

def alertCount (t : Table) : Nat := t.alerts.values.countP fun r => r.isActive = 1

/-- The number of the next entry. -/
def nextId (t : Table) : UInt64 := (t.entries.head?.elim 0 EntryRow.id) + 1

/-- Adds an entry whose fields are already text. -/
def appendText (t : Table) (stream fields : String) : Table :=
  { t with entries := ⟨t.nextId, stream, fields⟩ :: t.entries }

def append (t : Table) (stream : String) (fields : Dict String String) : Table :=
  t.appendText stream (writeMap fields)

/-- The entries of a stream behind a number, oldest first. -/
def readAfter (t : Table) (stream : String) (after limit : UInt64) : Except StorageError (List StreamEntry) :=
  let rows := t.entries.reverse.filter fun r => r.stream = stream && after.toInt64 < r.id.toInt64
  (limited limit rows).mapM EntryRow.toEntry

/-- The row of a point, or the error of the database, which takes no row without a number as value. -/
def metricRow (m : Metric) : Except StorageError MetricRow :=
  match MetricRow.ofMetric? m with
  | some r => .ok r
  | none => .error (.query (s!"failed to store metric '{m.name}': error returned from database: "
      ++ "(code: 1299) NOT NULL constraint failed: system_metrics.value"))

/-- A transaction: the store as it is as long as nothing is committed, and the store as the transaction has made it. -/
structure Transaction where
  committed : Table
  pending : Table

namespace Transaction

def start (t : Table) : Transaction := ⟨t, t⟩

def insert (x : Transaction) (m : Metric) : Except StorageError Transaction := do
  let r ← metricRow m
  .ok { x with pending := { x.pending with metrics := r :: x.pending.metrics } }

/-- Inserts points one by one. The first that is refused ends it, with the rows before it inserted. -/
def insertAll (x : Transaction) : List Metric → Option StorageError × Transaction
  | [] => (none, x)
  | m :: ms =>
    match x.insert m with
    | .ok x => x.insertAll ms
    | .error e => (some e, x)

end Transaction

/-- Adds a batch in a transaction. It is committed at the end of the batch, and rolled back if a point is refused. -/
def store (t : Table) (ms : List Metric) : Option StorageError × Table :=
  match (Transaction.start t).insertAll ms with
  | (none, x) => (none, x.pending)
  | (some e, x) => (some e, x.committed)

/-- The rows in a range of time, cut to milliseconds; newest row first. -/
def metricsBetween (t : Table) (start stop : Instant) : List MetricRow :=
  t.metrics.filter fun r => start.toMillis ≤ r.time && r.time ≤ stop.toMillis

/-- Rows with the latest times first, and of the same time those inserted last. -/
def latestFirst (rows : List MetricRow) : List MetricRow := rows.mergeSort fun a b => b.time ≤ a.time

def retrieve (t : Table) (start stop : Instant) : Except StorageError (List Metric) :=
  (latestFirst (t.metricsBetween start stop)).mapM MetricRow.toMetric

def retrieveByName (t : Table) (name : String) (start stop : Instant) : Except StorageError (List Metric) :=
  (latestFirst ((t.metricsBetween start stop).filter fun r => r.name = name)).mapM MetricRow.toMetric

/-- The values are taken from the earliest time on. -/
def aggregate (t : Table) (name : String) (start stop : Instant) : Aggregate :=
  let rows := (t.metricsBetween start stop).filter fun r => r.name = name
  .ofValues name ((latestFirst rows).reverse.map MetricRow.value)

/-- What a query that may fail answers. -/
def answer {α : Type} (f : α → Answer) : Except StorageError α → Answer
  | .ok a => f a
  | .error e => .failed e

def step (t : Table) : Operation → Answer × Table
  | .upsertEndpoint e => (.done, { t with endpoints := t.endpoints.insert e.id (.ofEndpoint e) })
  | .upsertAlert a => (.done, { t with alerts := t.alerts.insert a.id (.ofAlert a) })
  | .activeEndpoints => (.endpoints t.activeEndpoints, t)
  | .alertsFor id => (.alerts (t.alertsFor id), t)
  | .saveResult r => (.done, t.saveResult r)
  | .latestResults id limit => (.results (t.latestResults id limit), t)
  | .resultStats since => (.stats (t.resultStats since), t)
  | .endpointCounts => (.counts t.endpointCounts, t)
  | .alertCount => (.number t.alertCount, t)
  | .append stream fields => (.number t.nextId.toNat, t.append stream fields)
  | .readAfter stream after limit => (answer .entries (t.readAfter stream after limit), t)
  | .store ms =>
    match t.store ms with
    | (none, t) => (.done, t)
    | (some e, t) => (.failed e, t)
  | .retrieve start stop => (answer .metrics (t.retrieve start stop), t)
  | .retrieveByName name start stop => (answer .metrics (t.retrieveByName name start stop), t)
  | .aggregate name start stop => (.aggregate (t.aggregate name start stop), t)

/-- What another program can insert. Rows of endpoints and alerts replace those with their number. -/
inductive Row where
  | endpoint (r : EndpointRow)
  | alert (r : AlertRow)
  | result (r : ResultRow)
  | entry (stream fields : String)
  | metric (r : MetricRow)

def insertRow (t : Table) : Row → Table
  | .endpoint r => { t with endpoints := t.endpoints.insert r.id r }
  | .alert r => { t with alerts := t.alerts.insert r.id r }
  | .result r => { t with results := r :: t.results }
  | .entry stream fields => t.appendText stream fields
  | .metric r => { t with metrics := r :: t.metrics }

end Table

/-- A database file that cannot be opened. -/
def unopenable : StorageError :=
  .connection "error returned from database: (code: 14) unable to open database file"

end EndpointWatch.Storage
