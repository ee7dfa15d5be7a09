import EndpointWatch.Service.Response
import EndpointWatch.Text.Search

/-!
# The opening of a live connection

A client that wants results as they come asks for a WebSocket. `Handshake.check` finds what its request lacks, the
first thing in a fixed order.
-/

namespace EndpointWatch.Service

/-- Why a request does not open a live connection. -/
inductive HandshakeError where
  | method
  | connection
  | upgrade
  | version
  | key
  | notUpgradable
  deriving DecidableEq, Repr

namespace HandshakeError

def status : HandshakeError → UInt16
  | method => 405
  | connection | upgrade | version | key => 400
  | notUpgradable => 426

def message : HandshakeError → String
  | method => "Request method must be `GET`"
  | connection => "Connection header did not include 'upgrade'"
  | upgrade => "`Upgrade` header did not include 'websocket'"
  | version => "`Sec-WebSocket-Version` header did not include '13'"
  | key => "`Sec-WebSocket-Key` header missing"
  | notUpgradable => "WebSocket request couldn't be upgraded since no upgrade state was present"

def response (e : HandshakeError) : Response := .text e.status e.message

end HandshakeError

namespace Handshake

def lower (s : String) : List Char := s.toList.map Char.toLower

/-- Whether a field has a value, up to case. -/
def fieldIs (h : Http.Headers) (name value : String) : Bool := (h.get? name).any fun v => lower v = value.toList

/-- Whether a value stands somewhere in a field, up to case. -/
def fieldHas (h : Http.Headers) (name value : String) : Bool :=
  (h.get? name).any fun v => Text.occursIn value.toList (lower v)

/-- What a request lacks that opens a live connection. `canUpgrade` tells whether it came over a connection that
can be turned into one. -/
def check (method : String) (h : Http.Headers) (canUpgrade : Bool) : Except HandshakeError Unit :=
  if method ≠ "GET" then .error .method
  else if !fieldHas h "connection" "upgrade" then .error .connection
  else if !fieldIs h "upgrade" "websocket" then .error .upgrade
  else if !fieldIs h "sec-websocket-version" "13" then .error .version
  else if !h.contains "sec-websocket-key" then .error .key
  else if !canUpgrade then .error .notUpgradable
  else .ok ()

end Handshake

end EndpointWatch.Service
