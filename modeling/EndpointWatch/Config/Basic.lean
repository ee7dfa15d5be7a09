import EndpointWatch.Retry.Policy
import EndpointWatch.Breaker.Basic
import EndpointWatch.Net.SocketAddress

/-!
# Configuration

What can be set: the monitor with its retries and breakers, where data is kept, the address to listen on
and the collection of metrics. Each section has standard values, and those of the monitor's retries and
breakers differ from the standards of retries and breakers on their own.
-/

namespace EndpointWatch

/-- How endpoints are checked; all times are in seconds. -/
structure MonitorConfig where
  cycleInterval : UInt64
  cycleTimeout : UInt64
  httpTimeout : UInt64
  evaluatorUrl : Option String
  notifyTimeout : UInt64
  retry : Retry.Policy Float
  breaker : Breaker.Settings

/-- Where data is kept: nowhere beyond the process, or in a database file. -/
inductive StorageConfig where
  | memory
  | file (path : String)
  deriving DecidableEq, Repr

structure ApiConfig where
  bind : Net.SocketAddress
  deriving DecidableEq, Repr

/-- How metrics are collected; the interval is in seconds. -/
structure MetricsConfig where
  interval : UInt64
  maxWorkers : UInt64
  systemCollector : Bool
  monitoringCollector : Bool
  deriving DecidableEq, Repr

structure Config where
  monitor : MonitorConfig
  storage : StorageConfig
  api : ApiConfig
  metrics : MetricsConfig

namespace MonitorConfig

/-- Retries wait at most two seconds, and breakers are named after endpoints. -/
def standard : MonitorConfig where
  cycleInterval := 60
  cycleTimeout := 300
  httpTimeout := 30
  evaluatorUrl := none
  notifyTimeout := 5
  retry := { Retry.Policy.standard with cap := 2_000_000_000 }
  breaker := .named "endpoint"

def atLeastOne (seconds : UInt64) : UInt64 := max seconds 1

def effectiveCycleInterval (c : MonitorConfig) : UInt64 := atLeastOne c.cycleInterval
def effectiveCycleTimeout (c : MonitorConfig) : UInt64 := atLeastOne c.cycleTimeout
def effectiveHttpTimeout (c : MonitorConfig) : UInt64 := atLeastOne c.httpTimeout
def effectiveNotifyTimeout (c : MonitorConfig) : UInt64 := atLeastOne c.notifyTimeout

end MonitorConfig

namespace StorageConfig

def standardPath : String := "./api-monitor.db"

def standard : StorageConfig := file standardPath

end StorageConfig

def ApiConfig.standard : ApiConfig := ⟨.v4 ⟨0, 0, 0, 0⟩ 8080⟩

def MetricsConfig.standard : MetricsConfig := ⟨60, 5, true, true⟩

def Config.standard : Config := ⟨.standard, .standard, .standard, .standard⟩

end EndpointWatch
