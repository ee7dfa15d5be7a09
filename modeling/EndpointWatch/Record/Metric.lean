import EndpointWatch.Json.Shape

/-!
# Metrics

A `Metric` is one measured value with its kind, tags and time. Its `streamFields` put the tags beside the
fixed fields, each under its name behind `tag_`.
-/

namespace EndpointWatch

inductive MetricKind where
  | gauge
  | counter
  | timer
  | histogram
  deriving DecidableEq, Repr, Inhabited

structure Metric where
  name : String
  kind : MetricKind
  value : Float
  time : Instant
  tags : Dict String String
  description : String
  deriving Inhabited

open Json Text

namespace MetricKind

def name : MetricKind → String
  | gauge => "gauge"
  | counter => "counter"
  | timer => "timer"
  | histogram => "histogram"

def named : List (String × MetricKind) := [gauge, counter, timer, histogram].map fun k => (k.name, k)

/-- The kind of this name, or what is wrong with the name. -/
def ofName (s : String) : Except String MetricKind :=
  match named.lookup s with
  | some k => .ok k
  | none => .error s!"unknown metric type: {s}"

def read : Reader MetricKind := choice named

end MetricKind

namespace Metric

/-- A value without tags and description. -/
def plain (name : String) (kind : MetricKind) (value : Float) (time : Instant) : Metric :=
  ⟨name, kind, value, time, .empty, ""⟩

def withTag (m : Metric) (key value : String) : Metric := { m with tags := m.tags.insert key value }

def withDescription (m : Metric) (text : String) : Metric := { m with description := text }

def shape : Shape Metric where
  name := "MetricValue"
  types := _
  members :=
    .cons ⟨"name", string, .fault⟩ <| .cons ⟨"type", MetricKind.read, .fault⟩ <|
    .cons ⟨"value", float, .fault⟩ <| .cons ⟨"timestamp", instant, .fault⟩ <|
    .cons ⟨"tags", stringMap, .anywhere .empty⟩ <| .cons ⟨"description", string, .anywhere ""⟩ .nil
  build := fun (name, kind, value, time, tags, description, ()) =>
    ⟨name, kind, value, time, tags, description⟩

def read (cs : List Char) : Except Fault Metric := document shape.read cs

/-- The entry of the metrics stream; the time is cut to the second. -/
def streamFields (m : Metric) : Dict String String :=
  let fields := Dict.ofList [
    ("name", m.name), ("type", m.kind.name), ("value", Decimal.plain m.value),
    ("timestamp", String.ofList (ofInt m.time.second)), ("description", m.description)]
  m.tags.toList.foldl (fun d e => d.insert ("tag_" ++ e.1) e.2) fields

end Metric

end EndpointWatch
