/-!
# Subscribers of the hub

A `Subscriber` is one queue between the hub and a reader. Either side may leave: the hub by no longer sending,
the reader by hanging up. `send` is what the hub does, `receive` what the reader does, and `offer` what becomes of a
subscriber when the hub has gone through all of them.
-/

namespace EndpointWatch

/-- One queue of payloads, oldest first, and who still uses it. -/
structure Subscriber where
  unread : List String
  isRegistered : Bool
  isReading : Bool
  deriving DecidableEq, Repr

/-- What a reader gets when it looks. -/
inductive Received where
  | payload (text : String)
  | empty
  | closed
  deriving DecidableEq, Repr

/-- What becomes of a payload that the hub sends: it waits in the queue, the queue is full, or nobody reads. -/
inductive Sent where
  | queued
  | full
  | closed
  deriving DecidableEq, Repr

def Received.text? : Received → Option String
  | payload text => some text
  | empty | closed => none

namespace Subscriber

/-- How many payloads wait for one reader at most. -/
def capacity : Nat := 256

def fresh : Subscriber := ⟨[], true, true⟩

def send (payload : String) (s : Subscriber) : Sent × Subscriber :=
  if !s.isReading then (.closed, s)
  else if s.unread.length < capacity then (.queued, { s with unread := s.unread ++ [payload] })
  else (.full, s)

/-- The hub has a payload. A full queue misses it; a reader that hung up is taken off the register. -/
def offer (payload : String) (s : Subscriber) : Subscriber :=
  if !s.isRegistered then s
  else if !s.isReading then { s with isRegistered := false }
  else if s.unread.length < capacity then { s with unread := s.unread ++ [payload] }
  else s

/-- Whether a payload that the hub has comes into the queue. -/
def takes (s : Subscriber) : Bool := s.isRegistered && s.isReading && s.unread.length < capacity

/-- The hub stops sending. What waits can still be read. -/
def unregister (s : Subscriber) : Subscriber := { s with isRegistered := false }

/-- The reader hangs up, and what waits for it is lost. -/
def hangUp (s : Subscriber) : Subscriber := { s with isReading := false, unread := [] }

def receive (s : Subscriber) : Received × Subscriber :=
  match s.unread with
  | text :: rest => (.payload text, { s with unread := rest })
  | [] => (if s.isRegistered then .empty else .closed, s)

/-- The reader takes all there is, and sees why there is no more. -/
def drain (s : Subscriber) : (List String × Received) × Subscriber :=
  ((s.unread, if s.isRegistered then .empty else .closed), { s with unread := [] })

@[simp] theorem offer_of_not_isRegistered {s : Subscriber} (payload : String) (h : s.isRegistered = false) :
    s.offer payload = s := by simp [offer, h]

theorem send_eq_closed_iff (payload : String) (s : Subscriber) : (s.send payload).1 = .closed ↔ s.isReading = false := by
  unfold send
  split
  · simp_all
  · split <;> simp_all

/-- An offer is what the hub sends, and a reader that hung up is taken off the register. -/
theorem offer_of_isRegistered {s : Subscriber} (payload : String) (h : s.isRegistered) :
    s.offer payload = if s.isReading then (s.send payload).2 else (s.send payload).2.unregister := by
  unfold offer send
  cases hr : s.isReading
  · simp [h, unregister, hr]
  · simp only [h, Bool.not_true, Bool.false_eq_true, if_false, if_true]
    split <;> rfl

theorem unread_offer (payload : String) (s : Subscriber) :
    (s.offer payload).unread = if s.takes then s.unread ++ [payload] else s.unread := by
  unfold offer takes
  cases s.isRegistered <;> cases s.isReading <;> simp
  split <;> rfl

@[simp] theorem isReading_offer (payload : String) (s : Subscriber) : (s.offer payload).isReading = s.isReading := by
  unfold offer
  split
  · rfl
  · split
    · rfl
    · split <;> rfl

theorem isRegistered_offer (payload : String) (s : Subscriber) :
    (s.offer payload).isRegistered = (s.isRegistered && s.isReading) := by
  unfold offer
  cases hg : s.isRegistered <;> cases hr : s.isReading <;> simp [hg]
  split <;> simp [hg]

theorem receive_append_unread (s : Subscriber) : s.receive.1.text?.toList ++ s.receive.2.unread = s.unread := by
  unfold receive
  split
  · next h => rw [h]; rfl
  · split <;> rfl

@[simp] theorem isReading_receive (s : Subscriber) : s.receive.2.isReading = s.isReading := by
  unfold receive
  split <;> rfl

@[simp] theorem isRegistered_receive (s : Subscriber) : s.receive.2.isRegistered = s.isRegistered := by
  unfold receive
  split <;> rfl

end Subscriber

end EndpointWatch
