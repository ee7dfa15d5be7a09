import EndpointWatch.Record.Endpoint
import EndpointWatch.Stats.Results
import EndpointWatch.Stats.Aggregate

/-!
# What a store is asked and what it answers

Endpoints, alert rules and results; named streams that only grow; points of metrics. Both stores take the
same operations and give the same kinds of answers.
-/

namespace EndpointWatch

inductive StorageError where
  | connection (reason : String)
  | query (reason : String)
  | decoding (reason : String)
  deriving DecidableEq, Repr

namespace StorageError

def message : StorageError → String
  | connection reason => s!"failed to connect to storage backend: {reason}"
  | query reason => s!"storage query failed: {reason}"
  | decoding reason => s!"serialization error: {reason}"

end StorageError

/-- One entry of a stream. Numbers grow over all streams of a store. When an entry was appended is left out: it is the
clock of the store that says so, and nothing goes by it. -/
structure StreamEntry where
  id : UInt64
  stream : String
  fields : Dict String String
  deriving DecidableEq, Inhabited

/-- How many endpoints there are, and how many are active. -/
structure EndpointCounts where
  total : Nat
  active : Nat
  deriving DecidableEq, Repr, Inhabited

namespace Storage

/-- What a store can be asked. Times of metrics are a closed range, `since` is open. -/
inductive Operation where
  | upsertEndpoint (e : Endpoint)
  | upsertAlert (a : Alert)
  | activeEndpoints
  | alertsFor (endpointId : Int64)
  | saveResult (r : CheckResult)
  | latestResults (endpointId : Int64) (limit : UInt64)
  | resultStats (since : Instant)
  | endpointCounts
  | alertCount
  | append (stream : String) (fields : Dict String String)
  | readAfter (stream : String) (after : UInt64) (limit : UInt64)
  | store (ms : List Metric)
  | retrieve (start stop : Instant)
  | retrieveByName (name : String) (start stop : Instant)
  | aggregate (name : String) (start stop : Instant)

/-- What a store can answer. A crash takes down whoever asked, and leaves the store as it is. -/
inductive Answer where
  | done
  | endpoints (es : List Endpoint)
  | alerts (as : List Alert)
  | results (rs : List CheckResult)
  | stats (s : ResultStats)
  | counts (c : EndpointCounts)
  | number (n : Nat)
  | entries (es : List StreamEntry)
  | metrics (ms : List Metric)
  | aggregate (a : Aggregate)
  | failed (e : StorageError)
  | crashed (text : String)
  deriving Inhabited

end Storage

end EndpointWatch
