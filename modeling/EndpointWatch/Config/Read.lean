import EndpointWatch.Arith
import EndpointWatch.Config.Basic
import EndpointWatch.Json.Shape
import EndpointWatch.Json.Passed

/-!
# Reading a configuration

Every member may be left out. A section that is left out takes its standard values from the section around
it; a section that is given takes the values it does not mention from its own standard.
-/

namespace EndpointWatch

open scoped EndpointWatch.Arith

open Json

/-- Milliseconds, kept as nanoseconds. -/
def Json.milliseconds : Reader Nat := (integerIn "u64" 0 (2 ^ (64 : Nat) - 1)).map fun n => n.toNat * 1_000_000

/-- Seconds, kept as milliseconds. -/
def Json.seconds : Reader Nat := (integerIn "u64" 0 (2 ^ (64 : Nat) - 1)).map fun n => n.toNat * 1_000

/-- A member that takes a given value when it is left out. -/
def Json.Member.orElse {α : Type} (name : String) (read : Reader α) (standard : α) : Member α :=
  ⟨name, read, .anywhere standard⟩

def Retry.Policy.shape : Shape (Retry.Policy Float) where
  name := "RetryConfig"
  types := _
  members :=
    let standard : Retry.Policy Float := .standard
    .cons (.orElse "max_attempts" uint32 standard.maxAttempts) <|
    .cons (.orElse "initial_delay_ms" milliseconds standard.initial) <|
    .cons (.orElse "max_delay_ms" milliseconds standard.cap) <|
    .cons (.orElse "multiplier" float standard.multiplier) <|
    .cons (.orElse "jitter" boolean standard.jitter) .nil
  build := fun (maxAttempts, initial, cap, multiplier, jitter, ()) =>
    ⟨maxAttempts, initial, cap, multiplier, jitter⟩

def Breaker.Settings.shape : Shape Breaker.Settings where
  name := "CircuitBreakerConfig"
  types := _
  members :=
    let standard : Breaker.Settings := .standard
    .cons (.orElse "name" string standard.name) <|
    .cons (.orElse "max_failures" uint32 standard.maxFailures) <|
    .cons (.orElse "reset_interval_secs" seconds standard.resetInterval) .nil
  build := fun (name, maxFailures, resetInterval, ()) => ⟨name, maxFailures, resetInterval⟩

def MonitorConfig.shape : Shape MonitorConfig where
  name := "MonitorConfig"
  types := _
  members :=
    let standard : MonitorConfig := .standard
    .cons (.orElse "cycle_interval_secs" uint64 standard.cycleInterval) <|
    .cons (.orElse "cycle_timeout_secs" uint64 standard.cycleTimeout) <|
    .cons (.orElse "http_timeout_secs" uint64 standard.httpTimeout) <|
    .cons (.orElse "alert_evaluator_url" (optional string) standard.evaluatorUrl) <|
    .cons (.orElse "notify_timeout_secs" uint64 standard.notifyTimeout) <|
    .cons (.orElse "retry" Retry.Policy.shape.read standard.retry) <|
    .cons (.orElse "breaker" Breaker.Settings.shape.read standard.breaker) .nil
  build := fun (cycleInterval, cycleTimeout, httpTimeout, evaluatorUrl, notifyTimeout, retry, breaker, ()) =>
    ⟨cycleInterval, cycleTimeout, httpTimeout, evaluatorUrl, notifyTimeout, retry, breaker⟩

/-! ### The storage section

A member `backend` names the kind of storage, and the other members depend on it. In a list the name comes
first. -/

namespace StorageConfig

/-- The name of a storage, before its settings are known. -/
inductive Kind where
  | memory
  | file
  deriving DecidableEq, Repr

def Kind.named : List (String × Kind) := [("none", .memory), ("sqlite", .file)]

def tag : String := "backend"

/-- The brackets that may be open inside the section: 128 less those of the section and around it. -/
def maxDepth : Nat := 125

def readKind : Reader Kind :=
  (stringAs "variant identifier").check fun s =>
    match Kind.named.lookup s with
    | some k => .ok k
    | none => .error (.variant s (Kind.named.map Prod.fst))

def pathOf : Found → Except Fault String
  | .string s => .ok s
  | f => .error (.type f "path string")

/-- The path among the members of a section; others do not matter. -/
def pathAmong : Option String → List (String × Found) → Except Fault String
  | path?, [] => .ok (path?.getD standardPath)
  | path?, (name, f) :: rest =>
    if name = "path" then
      match path? with
      | some _ => .error (.duplicate "path")
      | none => do
        let path ← pathOf f
        pathAmong (some path) rest
    else pathAmong path? rest

/-- The storage that a section's name and members describe. -/
def ofMembers (k : Kind) (ms : List (String × Found)) : Except Fault StorageConfig :=
  match k with
  | .memory => .ok .memory
  | .file => (pathAmong none ms).map .file

/-- How many elements were expected. -/
def expectedElements (n : Nat) : String := if n = 1 then "1 element in sequence" else s!"{n} elements in sequence"

/-- The storage that a section's name and the elements behind it describe. -/
def ofElements (k : Kind) (fs : List Found) : Except Fault StorageConfig :=
  match k, fs with
  | .memory, [] => .ok .memory
  | .memory, fs => .error (.length fs.length (expectedElements 0))
  | .file, [] => .ok standard
  | .file, f :: rest => do
    let path ← pathOf f
    if rest.isEmpty then .ok (.file path) else .error (.length (rest.length + 1) (expectedElements 1))

/-- Reads the members of a section; the name may stand anywhere among them, but only once. -/
def readMembers : (rounds : Nat) → (first : Bool) → Option Kind →
    Reader (Option Kind × List (String × Found))
  | 0, _, _, _ => .error .malformed
  | rounds + 1, first, kind?, cs => do
    let (more, cs) ← nextMember first cs
    if more then
      let (name, cs) ← textBody cs
      if name = tag then
        match kind? with
        | some _ => .error (.duplicate tag)
        | none =>
          let cs ← colon cs
          let (k, cs) ← readKind cs
          readMembers rounds false (some k) cs
      else
        let cs ← colon cs
        let (f, cs) ← kept maxDepth cs
        let ((kind?, ms), cs) ← readMembers rounds false kind? cs
        .ok ((kind?, (name, f) :: ms), cs)
    else .ok ((kind?, []), cs)

def read : Reader StorageConfig := fun cs =>
  match skipBlank cs with
  | '\x7b' :: rest => do
    let ((kind?, ms), rest) ← readMembers (rest.length + 1) true none rest
    match kind? with
    | none => .error (.missing tag)
    | some k => (ofMembers k ms).map (·, rest)
  | '[' :: rest => do
    match ← nextElement true rest with
    | none => .error (.missing tag)
    | some rest =>
      let (k, rest) ← readKind rest
      let (fs, rest) ← elements (kept maxDepth) (rest.length + 1) false rest
      (ofElements k fs).map (·, rest)
  | cs => wrongType "internally tagged enum StorageConfig" cs

end StorageConfig

/-! ### The whole -/

def ApiConfig.shape : Shape ApiConfig where
  name := "ApiConfig"
  types := _
  members :=
    let address : Reader Net.SocketAddress := (stringAs "socket address").check fun s =>
      match Net.SocketAddress.read? s.toList with
      | some a => .ok a
      | none => .error .address
    .cons (.orElse "bind" address ApiConfig.standard.bind) .nil
  build := fun (bind, ()) => ⟨bind⟩

def MetricsConfig.shape : Shape MetricsConfig where
  name := "MetricsConfig"
  types := _
  members :=
    let standard : MetricsConfig := .standard
    .cons (.orElse "interval_secs" uint64 standard.interval) <|
    .cons (.orElse "max_workers" size standard.maxWorkers) <|
    .cons (.orElse "system_collector" boolean standard.systemCollector) <|
    .cons (.orElse "monitoring_collector" boolean standard.monitoringCollector) .nil
  build := fun (interval, maxWorkers, systemCollector, monitoringCollector, ()) =>
    ⟨interval, maxWorkers, systemCollector, monitoringCollector⟩

def Config.shape : Shape Config where
  name := "Config"
  types := _
  members :=
    let standard : Config := .standard
    .cons (.orElse "monitor" MonitorConfig.shape.read standard.monitor) <|
    .cons (.orElse "storage" StorageConfig.read standard.storage) <|
    .cons (.orElse "api" ApiConfig.shape.read standard.api) <|
    .cons (.orElse "metrics" MetricsConfig.shape.read standard.metrics) .nil
  build := fun (monitor, storage, api, metrics, ()) => ⟨monitor, storage, api, metrics⟩

def Config.read (cs : List Char) : Except Fault Config := document Config.shape.read cs

end EndpointWatch
