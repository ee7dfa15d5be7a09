import EndpointWatch.Http.Header
import EndpointWatch.Url.Read

/-!
# A network that follows a script

For each host the script says how the connections to it turn out, one after the other; the last outcome repeats.
The network counts the connections and keeps what the hosts were sent. Where the hosts cannot be reached, only
looking up their names can be scripted.
-/

namespace EndpointWatch.Http

/-- How a connection to a host turns out. -/
inductive Outcome where
  | answer (status : UInt16) (location? : Option String)
  | noName (reason : String) (after : Nat)
  | refused
  | closed
  | silent
  deriving DecidableEq, Repr

structure Sent where
  line : String
  headers : Headers
  body : String
  deriving DecidableEq

structure Network where
  routes : Dict String (List Outcome)
  isReachable : Bool
  attempts : Dict String Nat
  probes : Dict String Nat
  requests : Dict String (List Sent)

namespace Network

def fresh (routes : Dict String (List Outcome)) (isReachable : Bool) : Network :=
  ⟨routes, isReachable, .empty, .empty, .empty⟩

/-- The outcome of the `n`-th connection, counted from 0. -/
def outcome (net : Network) (host : String) (n : Nat) : Outcome :=
  match net.routes.get? host with
  | none => .noName "no route" 0
  | some os => (os[n]?.or os.getLast?).getD (.noName "no route" 0)

def connectByName (host : String) (net : Network) : Outcome × Network :=
  let n := (net.attempts.get? host).getD 0
  (net.outcome host n,
    { net with
      attempts := net.attempts.insert host (n + 1)
      probes := net.probes.insert host ((net.probes.get? host).getD 0 + 1) })

/-- Connects to the host of a URL. Behind an address without a name nobody listens. -/
def connect (u : Url) (net : Network) : Outcome × Network :=
  match u.host with
  | some (.name cs) => net.connectByName (.ofList cs)
  | _ => (.refused, net)

/-- Notes what a host was sent. -/
def note (u : Url) (s : Sent) (net : Network) : Network :=
  let host := u.hostText?.getD ""
  { net with requests := net.requests.insert host ((net.requests.get? host).getD [] ++ [s]) }

def recount (net : Network) : Network := { net with probes := .empty, requests := .empty }

end Network

end EndpointWatch.Http
