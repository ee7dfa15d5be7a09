import EndpointWatch.Hub.Basic
import EndpointWatch.Monitor.Deployment
import EndpointWatch.Service.Handshake

/-!
# The service

The service answers requests for three resources: its health, the start of a cycle, and live results. A `Service`
is a monitor at work whose broadcasts go to a hub. `respond` answers one request that comes without a connection,
and `connect?` opens a live connection, over which a client gets what the hub sends.
-/

namespace EndpointWatch

namespace Service

/-- What the service has to offer. -/
inductive Resource where
  | health
  | monitor
  | live
  deriving DecidableEq, Repr

namespace Resource

def path : Resource → String
  | health => "/health"
  | monitor => "/monitor"
  | live => "/ws"

def at? (path : String) : Option Resource := [health, monitor, live].find? fun r => r.path = path

def methods : Resource → List String
  | health | live => ["GET", "HEAD"]
  | monitor => ["POST"]

end Resource

/-- A request that comes without a connection. -/
structure Request where
  method : String
  target : String
  headers : Http.Headers

/-- The part of the target that names a resource. -/
def Request.path (r : Request) : String := .ofList (r.target.toList.takeWhile fun c => c ≠ '?' && c ≠ '#')

/-- A client at the other end of a live connection. `subscriber?` is its number at the hub, if the hub took it in,
and `sawClose` tells that it got the service's goodbye. -/
structure Client where
  subscriber? : Option Nat
  sawClose : Bool
  deriving DecidableEq, Repr

/-- What a client gets when it looks: a text, the service's goodbye, the end of the connection, or nothing. -/
inductive Incoming where
  | text (t : String)
  | goodbye
  | ended
  | silence
  deriving DecidableEq, Repr

end Service

structure Service where
  isHealthy : Bool
  hub : Hub
  deployment : Deployment
  isListening : Bool
  clients : Dict Nat Service.Client

namespace Service

def start (d : Deployment) : Service := ⟨true, .fresh, d, false, .empty⟩

/-- Hands the monitor's broadcasts to the hub, and lets the hub work. -/
def forward (s : Service) : Service :=
  let results := s.deployment.news.filterMap fun
    | .broadcast _ r => some r
    | _ => none
  { s with
    hub := (results.foldl (fun h r => h.broadcast r) s.hub).settle
    deployment := s.deployment.look }

/-- Waits until that many results are stored, but no longer than `limit` milliseconds. -/
def awaitResults (count limit : Nat) (s : Service) : Service :=
  let d := s.deployment
  let stop := d.now + limit
  { s with deployment := d.run (fun d => d.store.resultCount < count) stop (d.jobsUntil stop) }.forward

def health (s : Service) : Response :=
  if s.isHealthy then .json 200 "\x7b\"status\":\"healthy\"\x7d" else .json 503 "\x7b\"status\":\"unhealthy\"\x7d"

/-- Begins a cycle without waiting for it. -/
def trigger (s : Service) : Response × Service :=
  (.json 202 "\x7b\"status\":\"monitoring cycle started\"\x7d",
    { s with deployment := s.deployment.beginLinked.2 })

/-- A request for a resource by one of its methods. -/
def handle (x : Resource) (method : String) (h : Http.Headers) (s : Service) : Response × Service :=
  match x with
  | .health => (s.health, s)
  | .monitor => s.trigger
  | .live =>
    match Handshake.check method h false with
    | .ok _ => (.empty 101, s)
    | .error e => (e.response, s)

/-- Answers a request. Only `POST` to the monitor has an effect. -/
def respond (r : Request) (s : Service) : Response × Service :=
  match Resource.at? r.path with
  | none => (if r.method = "OPTIONS" then .preflight else .empty 404, s)
  | some x =>
    if x.methods.contains r.method then
      let (answer, s) := s.handle x r.method r.headers
      (if r.method = "HEAD" then answer.withoutBody else answer, s)
    else
      let answer : Response := if r.method = "OPTIONS" then .preflight else .empty 405
      (answer.withField "allow" (",".intercalate x.methods), s)

/-- Begins to listen for connections, where there is a network. -/
def listen (s : Service) : Service := { s with isListening := s.deployment.network.isReachable }

def isShutDown (s : Service) : Bool := s.deployment.monitor.isShutDown

/-- A client opens a live connection, if the service still takes connections, and is subscribed at the hub. -/
def connect? (id : Nat) (s : Service) : Option Service :=
  if s.isListening && !s.isShutDown then
    some <| match s.hub.ask? (.subscribe true) with
      | some (some (.subscribed n), hub) => { s with hub, clients := s.clients.insert id ⟨some n, false⟩ }
      | _ => { s with clients := s.clients.insert id ⟨none, false⟩ }
  else none

def unsubscribe (n : Nat) (s : Service) : Service :=
  match s.hub.ask? (.unsubscribe n) with
  | some (_, hub) => { s with hub }
  | none => s

/-- A client looks for what has come. -/
def receive? (id : Nat) (s : Service) : Option (Incoming × Service) :=
  (s.clients.get? id).map fun c =>
    match c.subscriber?.bind fun n => s.hub.receive? n with
    | none => (.ended, s)
    | some (.payload t, hub) => (.text t, { s with hub })
    | some (.empty, _) => (.silence, s)
    | some (.closed, _) =>
      if s.isShutDown && !c.sawClose then
        (.goodbye, { s with clients := s.clients.insert id { c with sawClose := true } })
      else (.ended, s)

def disconnect (id : Nat) (s : Service) : Service :=
  match s.clients.get? id with
  | some c =>
    let s := { s with clients := s.clients.erase id }
    c.subscriber?.elim s fun n => s.unsubscribe n
  | none => s

/-- Shuts the service down: the monitor stops, and every client is told goodbye. -/
def shutDown (s : Service) : Service :=
  (s.clients.values.filterMap Client.subscriber?).foldl (fun s n => s.unsubscribe n)
    { s with deployment := s.deployment.shutDown }

end Service

end EndpointWatch
