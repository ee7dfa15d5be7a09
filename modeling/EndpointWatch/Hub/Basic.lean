import EndpointWatch.Record.CheckResult
import EndpointWatch.Hub.Subscriber

/-!
# The hub

Results come in through a bounded queue and go out, as one JSON text each, to every registered subscriber.
The hub takes results and requests one at a time, in any order between the two queues, and stops when it is asked to,
or when nobody can hand in anything any more and nothing waits. `move?` gives every move of the hub and of those
around it, and `settle` lets the hub run until no result waits.
-/

namespace EndpointWatch

/-- What the hub can be asked. `isAwaited` tells whether the asking side is still there for the reply. -/
inductive HubRequest where
  | subscribe (isAwaited : Bool)
  | unsubscribe (id : Nat)
  | count
  | shutdown
  deriving DecidableEq, Repr

inductive HubReply where
  | subscribed (id : Nat)
  | count (n : Nat)
  deriving DecidableEq, Repr

/-- The hub, its two queues, and everyone who has ever subscribed. It is held as long as someone can still hand in
results and requests. `nextId` goes up by 1 with each subscription; nobody subscribes the 2 ^ 64 times that a counter of
64 bits would have room for. -/
structure Hub where
  isRunning : Bool
  isHeld : Bool
  results : List CheckResult
  requests : List HubRequest
  nextId : Nat
  subscribers : Dict Nat Subscriber

namespace Hub

/-- How many results wait for the hub at most. -/
def capacity : Nat := 100

def requestCapacity : Nat := 32

def fresh : Hub := ⟨true, true, [], [], 1, .empty⟩

instance : Inhabited Hub := ⟨fresh⟩

/-- The text that subscribers get for a result. -/
def payload (r : CheckResult) : String := .ofList r.write

def hasRoom (h : Hub) : Bool := h.isRunning && h.results.length < capacity

/-- A result is handed in. It is lost if the hub has stopped or too many wait. -/
def broadcast (r : CheckResult) (h : Hub) : Hub :=
  if h.hasRoom then { h with results := h.results ++ [r] } else h

/-- A request is handed in, unless the hub has stopped. -/
def request? (q : HubRequest) (h : Hub) : Option Hub :=
  if h.isRunning && h.requests.length < requestCapacity then some { h with requests := h.requests ++ [q] }
  else none

/-- How many subscribers the hub sends to. -/
def count (h : Hub) : Nat := h.subscribers.values.countP Subscriber.isRegistered

/-- What waits for a reader. -/
def waiting (id : Nat) (h : Hub) : List String := ((h.subscribers.get? id).map Subscriber.unread).getD []

def registered (h : Hub) : List Nat := (h.subscribers.filter fun _ s => s.isRegistered).keys

def update (f : Subscriber → Subscriber) (id : Nat) (h : Hub) : Hub :=
  match h.subscribers.get? id with
  | some s => { h with subscribers := h.subscribers.insert id (f s) }
  | none => h

/-- Sends a text to one subscriber after the other, and tells whose readers had hung up. -/
def sendAll (text : String) : List Nat → Hub → Hub × List Nat
  | [], h => (h, [])
  | id :: rest, h =>
    match h.subscribers.get? id with
    | some s =>
      let (sent, s) := s.send text
      let (h, gone) := sendAll text rest { h with subscribers := h.subscribers.insert id s }
      (h, if sent = .closed then id :: gone else gone)
    | none => sendAll text rest h

/-- Goes through the subscribers in the given order with the text of a result. Those whose readers had hung up are
taken off the register after that. -/
def fanOut (order : List Nat) (r : CheckResult) (h : Hub) : Hub :=
  let (h, gone) := sendAll (payload r) order h
  gone.foldl (fun h id => h.update .unregister id) h

/-- The hub stops. What waits is lost, and every subscription ends. -/
def stop (h : Hub) : Hub :=
  { h with
    isRunning := false, results := [], requests := []
    subscribers := h.subscribers.mapValues .unregister }

/-- Carries out a request. A subscriber whose reply nobody awaits gets a number all the same. -/
def handle (q : HubRequest) (h : Hub) : Option HubReply × Hub :=
  match q with
  | .subscribe true =>
    (some (.subscribed h.nextId),
      { h with nextId := h.nextId + 1, subscribers := h.subscribers.insert h.nextId .fresh })
  | .subscribe false => (none, { h with nextId := h.nextId + 1 })
  | .unsubscribe id => (none, h.update .unregister id)
  | .count => (some (.count h.count), h)
  | .shutdown => (none, h.stop)

/-- The hub takes the oldest result and goes through all registered subscribers, in the given order. -/
def takeResult? (order : List Nat) (h : Hub) : Option Hub :=
  match h.results with
  | r :: rest => if order.Perm h.registered then some ({ h with results := rest }.fanOut order r) else none
  | [] => none

def takeResult (h : Hub) : Hub := (h.takeResult? h.registered).getD h

def takeRequest (h : Hub) : Option HubReply × Hub :=
  match h.requests with
  | q :: rest => { h with requests := rest }.handle q
  | [] => (none, h)

def receive? (id : Nat) (h : Hub) : Option (Received × Hub) :=
  match h.subscribers.get? id with
  | some s =>
    if s.isReading then some (s.receive.1, { h with subscribers := h.subscribers.insert id s.receive.2 })
    else none
  | none => none

def drain? (id : Nat) (h : Hub) : Option ((List String × Received) × Hub) :=
  match h.subscribers.get? id with
  | some s =>
    if s.isReading then some (s.drain.1, { h with subscribers := h.subscribers.insert id s.drain.2 })
    else none
  | none => none

def hangUp? (id : Nat) (h : Hub) : Option Hub :=
  match h.subscribers.get? id with
  | some s =>
    if s.isReading then some { h with subscribers := h.subscribers.insert id s.hangUp } else none
  | none => none

/-- One move of the hub or of someone around it. -/
inductive Move where
  | broadcast (r : CheckResult)
  | request (q : HubRequest)
  | takeResult (order : List Nat)
  | takeRequest
  | receive (id : Nat)
  | hangUp (id : Nat)
  | release
  | expire
  deriving DecidableEq, Repr

/-- The hub after a move, if it is possible. Results and requests are handed in as long as someone holds the hub, and
once nobody does and nothing waits the hub can only stop. -/
def move? (h : Hub) : Move → Option Hub
  | .broadcast r => if h.isHeld then some (h.broadcast r) else none
  | .request q => if h.isHeld then h.request? q else none
  | .takeResult order => h.takeResult? order
  | .takeRequest => if h.requests.isEmpty then none else some h.takeRequest.2
  | .receive id => (h.receive? id).map Prod.snd
  | .hangUp id => h.hangUp? id
  | .release => if h.isHeld then some { h with isHeld := false } else none
  | .expire =>
    if h.isRunning && !h.isHeld && h.results.isEmpty && h.requests.isEmpty then some h.stop else none

/-- The hub works until no result waits. -/
def settle (h : Hub) : Hub := h.results.foldl (fun h _ => h.takeResult) h

/-- Asks a hub that has nothing else to do, and awaits the reply. Fails once the hub has stopped. -/
def ask? (q : HubRequest) (h : Hub) : Option (Option HubReply × Hub) := (h.request? q).map takeRequest

end Hub

end EndpointWatch
