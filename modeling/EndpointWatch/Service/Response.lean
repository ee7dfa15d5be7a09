import EndpointWatch.Http.Header

/-!
# Responses of the service

Every response may be read by pages of any origin and says so in its header.
-/

namespace EndpointWatch.Service

structure Response where
  status : UInt16
  headers : Http.Headers
  body : String
  deriving DecidableEq

namespace Response

/-- The fields that every response has. -/
def openFields : Http.Headers :=
  .ofList [("access-control-allow-origin", "*"),
    ("vary", "origin, access-control-request-method, access-control-request-headers")]

def empty (status : UInt16) : Response := ⟨status, openFields, ""⟩

def withField (name value : String) (r : Response) : Response := { r with headers := r.headers.insert name value }

def json (status : UInt16) (body : String) : Response :=
  { empty status with body }.withField "content-type" "application/json"

def text (status : UInt16) (body : String) : Response :=
  { empty status with body }.withField "content-type" "text/plain; charset=utf-8"

/-- What a browser is told that asks before it sends a request: everything is allowed. -/
def preflight : Response :=
  ((empty 200).withField "access-control-allow-methods" "*").withField "access-control-allow-headers" "*"

def withoutBody (r : Response) : Response := { r with body := "" }

end Response

end EndpointWatch.Service
