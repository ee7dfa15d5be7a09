import EndpointWatch.Json.Shape
import EndpointWatch.Json.Writer

/-!
# Endpoints and alert rules

What is watched: an `Endpoint` with its request settings, and the `Alert` rules attached to it.
-/

namespace EndpointWatch

/-- A watched endpoint. `checkInterval` is in seconds, `timeout` in milliseconds; `headers` is the text of
a JSON object of request headers. -/
structure Endpoint where
  id : Int64
  userId : Int64
  url : String
  checkInterval : UInt32
  timeout : UInt64
  headers : Option String
  isActive : Bool
  deriving DecidableEq, Repr, Inhabited

/-- A rule attached to an endpoint; others evaluate it. -/
structure Alert where
  id : Int64
  userId : Int64
  endpointId : Int64
  kind : String
  threshold : String
  isActive : Bool
  deriving DecidableEq, Repr, Inhabited

open Json Text

namespace Endpoint

def shape : Shape Endpoint where
  name := "Endpoint"
  types := _
  members :=
    .cons ⟨"id", int64, .fault⟩ <| .cons ⟨"user_id", int64, .fault⟩ <| .cons ⟨"url", string, .fault⟩ <|
    .cons ⟨"check_interval", uint32, .fault⟩ <| .cons ⟨"timeout", uint64, .fault⟩ <|
    .cons ⟨"headers", optional string, .inObject none⟩ <| .cons ⟨"is_active", boolean, .fault⟩ .nil
  build := fun (id, userId, url, checkInterval, timeout, headers, isActive, ()) =>
    ⟨id, userId, url, checkInterval, timeout, headers, isActive⟩

def read (cs : List Char) : Except Fault Endpoint := document shape.read cs

def write (e : Endpoint) : List Char :=
  writeObject [
    ("id", ofInt e.id.toInt), ("user_id", ofInt e.userId.toInt), ("url", writeString e.url),
    ("check_interval", ofNat e.checkInterval.toNat), ("timeout", ofNat e.timeout.toNat),
    ("headers", writeOptional writeString e.headers), ("is_active", writeBool e.isActive)]

/-- The request headers. Blank text and `null` stand for none, and the last value of a name counts. -/
def headerMap (e : Endpoint) : Except Fault (Dict String String) :=
  match e.headers with
  | none => .ok .empty
  | some raw =>
    let cs := Unicode.trim raw.toList
    if cs = [] ∨ cs = "null".toList then .ok .empty else document stringMap cs

end Endpoint

namespace Alert

def shape : Shape Alert where
  name := "Alert"
  types := _
  members :=
    .cons ⟨"id", int64, .fault⟩ <| .cons ⟨"user_id", int64, .fault⟩ <|
    .cons ⟨"endpoint_id", int64, .fault⟩ <| .cons ⟨"alert_type", string, .fault⟩ <|
    .cons ⟨"threshold", string, .fault⟩ <| .cons ⟨"is_active", boolean, .fault⟩ .nil
  build := fun (id, userId, endpointId, kind, threshold, isActive, ()) =>
    ⟨id, userId, endpointId, kind, threshold, isActive⟩

def read (cs : List Char) : Except Fault Alert := document shape.read cs

def write (a : Alert) : List Char :=
  writeObject [
    ("id", ofInt a.id.toInt), ("user_id", ofInt a.userId.toInt), ("endpoint_id", ofInt a.endpointId.toInt),
    ("alert_type", writeString a.kind), ("threshold", writeString a.threshold),
    ("is_active", writeBool a.isActive)]

end Alert

end EndpointWatch
