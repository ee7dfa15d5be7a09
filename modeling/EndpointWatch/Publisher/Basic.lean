import EndpointWatch.Record.Metric
import EndpointWatch.Storage.Operation

/-!
# Publishing metrics

A batch goes to the metrics stream one metric after the other. Once all of it is there, every registered handler
gets the whole batch.
-/

namespace EndpointWatch

/-- Why a batch was not published, or not to its end. -/
inductive PublishError where
  | cancelled
  | append (metric : String) (e : StorageError)
  deriving DecidableEq, Repr

def PublishError.message : PublishError → String
  | cancelled => "publishing cancelled"
  | append metric e => s!"failed to publish metric {metric}: {e.message}"

/-- The registered handlers by number. `nextId` goes up by 1 with each subscription; nobody subscribes the 2 ^ 64 times
that a counter of 64 bits would have room for. -/
structure Publisher (η : Type) where
  nextId : Nat
  handlers : Dict Nat η

namespace Publisher

variable {η σ : Type}

/-- The stream that all metrics go to. -/
def stream : String := "metrics:stream"

def fresh : Publisher η := ⟨1, .empty⟩

/-- Registers a handler under the next number. -/
def subscribe (h : η) (p : Publisher η) : Nat × Publisher η :=
  (p.nextId, { p with nextId := p.nextId + 1, handlers := p.handlers.insert p.nextId h })

/-- Takes a handler off the register; tells whether it was there. -/
def unsubscribe (id : Nat) (p : Publisher η) : Bool × Publisher η :=
  (p.handlers.contains id, { p with handlers := p.handlers.erase id })

def count (p : Publisher η) : Nat := p.handlers.size

/-- Sends one metric, unless publishing was cancelled. -/
def send (append : Dict String String → σ → Except StorageError Unit × σ) (isCancelled : Bool) (m : Metric)
    (s : σ) : Except PublishError Unit × σ :=
  if isCancelled then (.error .cancelled, s)
  else
    let (r, s) := append m.streamFields s
    (r.mapError (.append m.name), s)

/-- Sends metrics up to the first that fails. -/
def sendAll (append : Dict String String → σ → Except StorageError Unit × σ) (isCancelled : Bool) :
    List Metric → σ → Except PublishError Unit × σ
  | [], s => (.ok (), s)
  | m :: ms, s =>
    match send append isCancelled m s with
    | (.ok (), s) => sendAll append isCancelled ms s
    | (.error e, s) => (.error e, s)

/-- Publishes a batch. The value is the handlers that get it: all of them, or none for an empty batch. -/
def publish (append : Dict String String → σ → Except StorageError Unit × σ) (isCancelled : Bool)
    (batch : List Metric) (p : Publisher η) (s : σ) : Except PublishError (List η) × σ :=
  let (r, s) := sendAll append isCancelled batch s
  (r.map fun _ => if batch.isEmpty then [] else p.handlers.values, s)

end Publisher

end EndpointWatch
