import EndpointWatch.Json.Shape
import EndpointWatch.Json.Writer

/-!
# Results of checks

A `CheckResult` says how one check of an endpoint went. It is written as JSON for subscribers and as flat
`streamFields` for the result stream.
-/

namespace EndpointWatch

/-- The outcome of one check. `responseTime` is in milliseconds; a completed round trip has a status, and
a check without a response an error. -/
structure CheckResult where
  endpointId : Int64
  responseTime : UInt64
  status? : Option UInt16
  error? : Option String
  checkedAt : Instant
  deriving DecidableEq, Repr, Inhabited

open Json Text

namespace CheckResult

def completed (endpointId : Int64) (responseTime : UInt64) (status : UInt16) (at_ : Instant) : CheckResult :=
  ⟨endpointId, responseTime, some status, none, at_⟩

def failed (endpointId : Int64) (responseTime : UInt64) (error : String) (at_ : Instant) : CheckResult :=
  ⟨endpointId, responseTime, none, some error, at_⟩

def isSuccess (r : CheckResult) : Bool := r.status?.isSome && r.error?.isNone

def shape : Shape CheckResult where
  name := "MonitoringResult"
  types := _
  members :=
    .cons ⟨"endpoint_id", int64, .fault⟩ <| .cons ⟨"response_time", uint64, .fault⟩ <|
    .cons ⟨"status_code", optional uint16, .inObject none⟩ <|
    .cons ⟨"error_message", optional string, .inObject none⟩ <| .cons ⟨"checked_at", instant, .fault⟩ .nil
  build := fun (endpointId, responseTime, status, error, checkedAt, ()) =>
    ⟨endpointId, responseTime, status, error, checkedAt⟩

def read (cs : List Char) : Except Fault CheckResult := document shape.read cs

def write (r : CheckResult) : List Char :=
  writeObject [
    ("endpoint_id", ofInt r.endpointId.toInt), ("response_time", ofNat r.responseTime.toNat),
    ("status_code", writeOptional (fun s => ofNat s.toNat) r.status?),
    ("error_message", writeOptional writeString r.error?),
    ("checked_at", '"' :: (r.checkedAt.render ++ ['"']))]

/-- The entry of the result stream; status and error only where there is one. -/
def streamFields (r : CheckResult) : Dict String String :=
  let fields := Dict.ofList [
    ("endpoint_id", String.ofList (ofInt r.endpointId.toInt)),
    ("response_time", .ofList (ofNat r.responseTime.toNat)),
    ("timestamp", .ofList r.checkedAt.renderNumeric)]
  let fields := r.status?.elim fields fun s => fields.insert "status_code" (.ofList (ofNat s.toNat))
  r.error?.elim fields fun e => fields.insert "error_message" e

end CheckResult

end EndpointWatch
