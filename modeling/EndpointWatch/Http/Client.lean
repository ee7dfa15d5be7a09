import EndpointWatch.Http.Network
import EndpointWatch.Text.Base64

/-!
# Sending requests

`send` sends one request over a network and follows where the answers lead. What comes of it is the status of the
last answer or a `SendError`, and how many milliseconds it took.
-/

namespace EndpointWatch.Http

/-- Why there was no answer. Each names the URL that it was about, if there was one. -/
inductive SendError where
  | noUrl
  | scheme (url : String)
  | connect (url reason : String)
  | closed (url : String)
  | timedOut (url : String)
  | redirects (url : String)
  deriving DecidableEq, Repr

namespace SendError

/-- What failed, without the causes. -/
def headline : SendError → String
  | noUrl => "builder error"
  | scheme url => s!"builder error for url ({url})"
  | redirects url => s!"error following redirect for url ({url})"
  | connect url _ | closed url | timedOut url => s!"error sending request for url ({url})"

/-- The causes, the last one the root. -/
def causes : SendError → List String
  | noUrl => []
  | scheme _ => ["URL scheme is not allowed"]
  | connect _ reason => ["client error (Connect)", reason]
  | closed _ => ["client error (SendRequest)", "connection closed before message completed"]
  | timedOut _ => ["operation timed out"]
  | redirects _ => ["too many redirects"]

def message (e : SendError) : String := ": ".intercalate (e.headline :: e.causes)

end SendError

structure Request where
  method : String
  url : Url
  headers : Headers
  body : String

namespace Request

/-- Whether requests can go to a URL of this scheme. -/
def isWebScheme (scheme : String) : Bool := scheme = "http" || scheme = "https"

/-- The user and password of a URL as a header field. -/
def authorization (u : Url) : Headers :=
  if u.user.isEmpty && u.password.isEmpty then .empty
  else
    let bytes := Url.Percent.decode u.user ++ 0x3a :: Url.Percent.decode u.password
    Dict.empty.insert "authorization" (.ofList ("Basic ".toList ++ Text.base64 bytes))

/-- A request for a URL; user and password go into the header, where `headers` can override them. -/
def get (u : Url) (headers : Headers) : Request :=
  ⟨"GET", u.withoutUser, (headers.override (authorization u)).orElse "accept" "*/*", ""⟩

/-- Sends a JSON text to a URL. -/
def postJson (u : Url) (body : String) : Request :=
  ⟨"POST", u.withoutUser,
    (((authorization u).insert "accept" "*/*").insert "content-type" "application/json").insert "content-length"
      (.ofList (Text.ofNat body.utf8ByteSize)), body⟩

def urlText (r : Request) : String := .ofList r.url.write

/-- What the host is sent. -/
def sent (r : Request) : Sent :=
  let target := (({ r.url with fragment := none } : Url).writeTail)
  ⟨s!"{r.method} {String.ofList target} HTTP/1.1", r.headers, r.body⟩

/-- Fields that do not go to another host. -/
def privateFields : List String :=
  ["authorization", "cookie", "cookie2", "proxy-authorization", "www-authenticate"]

/-- The statuses that lead elsewhere; the first three turn the request into one without a body. -/
def plainRedirects : List UInt16 := [301, 302, 303]
def keepingRedirects : List UInt16 := [307, 308]

/-- The request that an answer leads to. -/
def redirect (r : Request) (status : UInt16) (next : Url) : Request :=
  let previous : Url := { r.url.withoutUser with fragment := none }
  let sameHost := next.hostText? = r.url.hostText? && next.port = r.url.port && next.scheme = r.url.scheme
  let headers := if sameHost then r.headers else r.headers.filter fun n _ => !privateFields.contains n
  let headers :=
    if previous.scheme = "https" && next.scheme = "http" then headers.erase "referer"
    else headers.insert "referer" (.ofList previous.write)
  if plainRedirects.contains status then
    { method := if r.method = "HEAD" then "HEAD" else "GET", url := next.withoutUser, body := ""
      headers := (headers.erase "content-type").erase "content-length" }
  else { r with url := next.withoutUser, headers }

/-- Where an answer leads, if anywhere. A fragment is left out, since no host is sent one. -/
def destination? (r : Request) (status : UInt16) (location? : Option String) : Option Url :=
  if plainRedirects.contains status || keepingRedirects.contains status then
    (location?.bind (Url.join? r.url)).map fun next => { next with fragment := none }
  else none

end Request

/-- How many answers that lead elsewhere are followed. -/
def maxRedirects : Nat := 10

/-- What came of a request, and how long it took. -/
structure Reply where
  elapsed : Nat
  result : Except SendError UInt16

def unreachable : String := "tcp connect error: Network is unreachable (os error 101)"
def connectionRefused : String := "tcp connect error: Connection refused (os error 111)"

/-- Sends a request and follows at most `left` answers. `origin` is the URL that it began with, and after `limit`
milliseconds it is given up. -/
def sendFrom (limit : Nat) (origin : String) : (left : Nat) → Request → Network → Reply × Network
  | left, r, net =>
    let (o, net) := net.connect r.url
    let failed (e : SendError) : Reply × Network := (⟨0, .error e⟩, net)
    match o with
    | .noName reason after =>
      if after < limit then (⟨after, .error (.connect origin s!"dns error: {reason}")⟩, net)
      else (⟨limit, .error (.timedOut origin)⟩, net)
    | .silent => (⟨limit, .error (.timedOut origin)⟩, net)
    | .refused => failed (.connect origin (if net.isReachable then connectionRefused else unreachable))
    | .closed => failed (if net.isReachable then .closed origin else .connect origin unreachable)
    | .answer status location? =>
      if !net.isReachable then failed (.connect origin unreachable)
      else
        let net := net.note r.url r.sent
        match r.destination? status location? with
        | none => (⟨0, .ok status⟩, net)
        | some next =>
          match left with
          | 0 => (⟨0, .error (.redirects (.ofList next.withoutUser.write))⟩, net)
          | left + 1 =>
            if Request.isWebScheme next.scheme then sendFrom limit origin left (r.redirect status next) net
            else (⟨0, .error (.scheme (.ofList next.write))⟩, net)

def send (limit : Nat) (r : Request) (net : Network) : Reply × Network :=
  if Request.isWebScheme r.url.scheme && r.url.hostText?.isSome then sendFrom limit r.urlText maxRedirects r net
  else (⟨0, .error (.scheme r.urlText)⟩, net)

end EndpointWatch.Http
