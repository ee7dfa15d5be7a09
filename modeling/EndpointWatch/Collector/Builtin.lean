import EndpointWatch.Collector.Basic
import EndpointWatch.Stats.Results
import EndpointWatch.Storage.Operation

/-!
# The two collectors that are always there

`Monitoring` tells how the checks of the last day went, from what a store says; `Host` tells how the machine is
doing, from one reading of it. All metrics of one run have the same time.
-/

namespace EndpointWatch

/-- Whether a collector is switched on and when it last succeeded. -/
structure CollectorState where
  isEnabled : Bool
  lastUpdate? : Option Instant
  deriving DecidableEq, Repr

namespace CollectorState

def fresh : CollectorState := ⟨true, none⟩

/-- One run at the given time, with what was gathered and the word for what is cancelled. -/
def collect (what : String) (now : Instant) (isCancelled : Bool) (gathered : Collected) (s : CollectorState) :
    Collected × CollectorState :=
  if isCancelled then (.failed s!"{what} collection cancelled", s)
  else (gathered, if gathered.metrics?.isSome then { s with lastUpdate? := some now } else s)

end CollectorState

open MetricKind

namespace Monitoring

def name : String := "monitoring"

/-- How many seconds lie between two runs. -/
def interval : Nat := 300

/-- How many seconds back the statistics reach. -/
def period : Nat := 86400

/-- What a store says about itself. Each part can fail; the statistics can come to a crash. -/
structure Figures where
  counts : Except StorageError EndpointCounts
  stats? : Except StorageError (Option ResultStats)
  alerts : Except StorageError Nat

/-- The metrics of one run, or how it ends without; the first part that failed decides. -/
def metrics (f : Figures) (now : Instant) : Except Collected (List Metric) := do
  let counts ← f.counts.mapError fun e => .failed s!"failed to count endpoints: {e.message}"
  let stats? ← f.stats?.mapError fun e => .failed s!"failed to read check statistics: {e.message}"
  let stats ← stats?.elim (.error (.crashed Tally.overflow)) .ok
  let alerts ← f.alerts.mapError fun e => .failed s!"failed to count alerts: {e.message}"
  let metric (suffix : String) (kind : MetricKind) (value : Float) (text : String) : Metric :=
    ((Metric.plain ("monitoring_" ++ suffix) kind value now).withTag "collector" name).withDescription text
  return [
      metric "endpoints_total" gauge (.ofNat counts.total) "Total number of monitored endpoints",
      metric "endpoints_active" gauge (.ofNat counts.active) "Number of active endpoints",
      (metric "checks_successful_24h" counter (.ofNat stats.successful)
        "Successful checks in the last 24 hours").withTag "status" "success",
      (metric "checks_failed_24h" counter (.ofNat stats.failed)
        "Failed checks in the last 24 hours").withTag "status" "failed"]
    ++ (stats.averageTime?.map fun avg =>
      (metric "response_time_avg_ms_24h" timer avg "Average response time in the last 24 hours").withTag
        "unit" "ms").toList
    ++ (stats.maximumTime?.map fun top =>
      (metric "response_time_max_ms_24h" timer top.toFloat "Maximum response time in the last 24 hours").withTag
        "unit" "ms").toList
    ++ [
      metric "alerts_configured" gauge (.ofNat alerts) "Number of configured alert rules",
      (metric "system_uptime_percent_24h" gauge stats.uptimePercent
        "Share of successful checks in the last 24 hours").withTag "period" "24h"]

/-- How one run ends. -/
def gather (f : Figures) (now : Instant) : Collected :=
  match metrics f now with
  | .ok ms => .metrics ms
  | .error c => c

end Monitoring

namespace Host

def name : String := "system"

/-- How many milliseconds lie between two runs if nothing else is asked for. -/
def defaultInterval : Nat := 60_000

/-- One reading of the machine. Memory is in bytes, `cpuUsage` in percent. -/
structure Reading where
  totalMemory : UInt64
  usedMemory : UInt64
  cpuUsage : Float
  cpuCount : Nat
  processCount : Nat
  processMemory? : Option UInt64
  processId? : Option UInt32

def metrics (r : Reading) (now : Instant) : List Metric :=
  let metric (suffix : String) (value : Float) (text : String) : Metric :=
    ((Metric.plain ("system_" ++ suffix) gauge value now).withTag "collector" name).withDescription text
  [metric "memory_total_bytes" r.totalMemory.toFloat "Total system memory",
    metric "memory_used_bytes" r.usedMemory.toFloat "Used system memory"]
  ++ (if r.totalMemory = 0 then []
    else
      [metric "memory_usage_percent" (r.usedMemory.toFloat / r.totalMemory.toFloat * 100)
        "Memory usage in percent"])
  ++ [(metric "cpu_usage_percent" r.cpuUsage "Average CPU usage across cores").withTag "cpus"
      (.ofList (Text.ofNat r.cpuCount)),
    metric "process_count" (.ofNat r.processCount) "Number of running processes"]
  ++ (r.processMemory?.map fun m => metric "process_memory_bytes" m.toFloat "Resident memory of this process").toList
  ++ (r.processId?.map fun p => metric "process_id" p.toFloat "Process id of this service").toList

end Host

end EndpointWatch
