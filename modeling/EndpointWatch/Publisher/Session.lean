import EndpointWatch.Publisher.Basic

/-!
# Publishing under way

A `Session` is a publisher in use: any number of calls publish their batches beside each other, handlers come and go, and
those that got a batch run with it on their own. A call looks before each metric whether it was cancelled; the outcomes of
appends and of handlers are part of the moves. A call with nothing beside it is `Publisher.publish`.
-/

namespace EndpointWatch.Publisher

/-- How far a call has come: between two appends, waiting for the end of one, or over. -/
inductive Call.Stage where
  | ready
  | appending
  | over (r : Except PublishError Unit)

/-- A call that publishes a batch, of which it has appended the first `sent` metrics. -/
structure Call where
  batch : List Metric
  sent : Nat
  isCancelled : Bool
  stage : Call.Stage

/-- A handler that got the batch of a call. -/
structure Task (η : Type) where
  call : Nat
  id : Nat
  handler : η
  batch : List Metric

/-- A publisher with the stream that it appends to, each entry beside the call that added it, with its calls, and with the
handlers that are still to run and those that did, which tell whether they succeeded. -/
structure Session (η : Type) where
  publisher : Publisher η
  stream : List (Nat × Dict String String)
  calls : Dict Nat Call
  nextCall : Nat
  waiting : List (Task η)
  ran : List (Task η × Bool)

namespace Session

variable {η : Type}

def start : Session η := ⟨.fresh, [], .empty, 0, [], []⟩

inductive Move (η : Type) where
  | subscribe (h : η)
  | unsubscribe (id : Nat)
  | publish (batch : List Metric)
  | cancel (call : Nat)
  | look (call : Nat)
  | appended (call : Nat) (r : Except StorageError Unit)
  | handOut (call : Nat)
  | run (task : Nat) (success : Bool)

def setCall (s : Session η) (n : Nat) (c : Call) : Session η := { s with calls := s.calls.insert n c }

/-- The tasks of a call that hands out its batch: one for each handler that is registered. -/
def tasks (n : Nat) (batch : List Metric) (p : Publisher η) : List (Task η) :=
  p.handlers.toList.map fun (id, handler) => ⟨n, id, handler, batch⟩

/-- The session after a move, if it is possible. An append that fails adds nothing and ends its call. -/
def move? (s : Session η) : Move η → Option (Session η)
  | .subscribe h => some { s with publisher := (s.publisher.subscribe h).2 }
  | .unsubscribe id => some { s with publisher := (s.publisher.unsubscribe id).2 }
  | .publish batch =>
    let stage : Call.Stage := if batch.isEmpty then .over (.ok ()) else .ready
    some { s with calls := s.calls.insert s.nextCall ⟨batch, 0, false, stage⟩, nextCall := s.nextCall + 1 }
  | .cancel n => (s.calls.get? n).map fun c => s.setCall n { c with isCancelled := true }
  | .look n => do
    let c ← s.calls.get? n
    match c.stage, c.batch[c.sent]? with
    | .ready, some _ =>
      some (s.setCall n { c with stage := if c.isCancelled then .over (.error .cancelled) else .appending })
    | _, _ => none
  | .appended n r => do
    let c ← s.calls.get? n
    match c.stage, c.batch[c.sent]? with
    | .appending, some m =>
      some <| match r with
        | .ok () =>
          { s with stream := s.stream ++ [(n, m.streamFields)] }.setCall n { c with sent := c.sent + 1, stage := .ready }
        | .error e => s.setCall n { c with stage := .over (.error (.append m.name e)) }
    | _, _ => none
  | .handOut n => do
    let c ← s.calls.get? n
    match c.stage, c.batch[c.sent]? with
    | .ready, none =>
      some ({ s with waiting := s.waiting ++ tasks n c.batch s.publisher }.setCall n { c with stage := .over (.ok ()) })
    | _, _ => none
  | .run k success => (s.waiting[k]?).map fun t =>
      { s with waiting := s.waiting.eraseIdx k, ran := s.ran ++ [(t, success)] }

def moves? (s : Session η) (ms : List (Move η)) : Option (Session η) := ms.foldlM move? s

end Session

end EndpointWatch.Publisher
