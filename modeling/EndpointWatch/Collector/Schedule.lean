import EndpointWatch.Agenda
import EndpointWatch.Collector.Pool

/-!
# The order of a collection

On one processor, where only waiting takes time, the collectors of a pool run in one definite order: those that
wait start in the order of their names as workers become free, and those that run end as their time is up.
`Schedule.moves` is that order as moves of the pool.
-/

namespace EndpointWatch

namespace Schedule

open Pool (Move)

/-- One gets a permit and starts at once. -/
def beginning (e : String × Collector) : List Move := [.enter e.1, .start e.1]

def ending (e : String × Collector) : List Move :=
  (if e.2.cancels then [.cancel] else []) ++ [.finish e.1 e.2.result]

/-- How things stand between two moments: what has happened, who waits and who runs, in the order of their
ends. -/
structure State where
  past : List Move
  isCancelled : Bool
  waiting : List (String × Collector)
  running : Agenda (String × Collector)

/-- After a cancellation those that wait give up. -/
def State.abandon (s : State) : State :=
  { s with past := s.past ++ s.waiting.map fun e => .giveUp e.1, waiting := [] }

/-- Starts those that wait while workers are free. One that takes no time ends at once. -/
def fill (workers now : Nat) :
    List (String × Collector) → (past : List Move) → (running : Agenda (String × Collector)) → State
  | [], past, running => ⟨past, false, [], running⟩
  | e :: waiting, past, running =>
    if running.length < workers then
      if e.2.lasts = 0 then
        let past := past ++ beginning e ++ ending e
        if e.2.cancels then ⟨past, true, waiting, running⟩ else fill workers now waiting past running
      else fill workers now waiting (past ++ beginning e) (running.add (now + e.2.lasts) e)
    else ⟨past, false, e :: waiting, running⟩

theorem length_fill_le (workers now : Nat) (waiting : List (String × Collector)) (past : List Move)
    (running : Agenda (String × Collector)) :
    (fill workers now waiting past running).waiting.length + (fill workers now waiting past running).running.length
      ≤ waiting.length + running.length := by
  induction waiting generalizing past running with
  | nil => simp [fill]
  | cons e waiting ih =>
    simp only [fill]
    split
    · split
      · split
        · simp only [List.length_cons]; omega
        · have := ih (past ++ beginning e ++ ending e) running
          simp only [List.length_cons]; omega
      · have := ih (past ++ beginning e) (running.add (now + e.2.lasts) e)
        simp only [Agenda.length_add] at this
        simp only [List.length_cons]; omega
    · simp

/-- What happens at one moment after the runs that end then have ended. -/
def State.refill (workers now : Nat) (s : State) : State :=
  if s.isCancelled then s.abandon
  else
    let s := fill workers now s.waiting s.past s.running
    if s.isCancelled then s.abandon else s

theorem State.length_refill_le (workers now : Nat) (s : State) :
    (s.refill workers now).waiting.length + (s.refill workers now).running.length
      ≤ s.waiting.length + s.running.length := by
  have := length_fill_le workers now s.waiting s.past s.running
  simp only [refill, abandon]
  split
  · simp
  · split
    · simp only [List.length_nil]; omega
    · exact this

/-- Lets the cancellation fire if it is due by the given moment. -/
def State.fire (cancelAt : Option Nat) (now : Nat) (s : State) : State :=
  if !s.isCancelled && cancelAt.any (· ≤ now) then
    { s with past := s.past ++ [Move.cancel], isCancelled := true }.abandon
  else s

theorem State.running_fire (cancelAt : Option Nat) (now : Nat) (s : State) :
    (s.fire cancelAt now).running = s.running := by
  simp only [fire, abandon]; split <;> rfl

theorem State.length_waiting_fire_le (cancelAt : Option Nat) (now : Nat) (s : State) :
    (s.fire cancelAt now).waiting.length ≤ s.waiting.length := by
  simp only [fire, abandon]; split <;> simp

/-- Lets the runs end one after the other, and others start once all that end at the same moment have. -/
def loop (workers : Nat) (cancelAt : Option Nat) (s : State) : List Move :=
  match _h : s.running with
  | [] => s.past
  | b :: rest =>
    let s' := s.fire cancelAt b.1
    let s' := { s' with
      past := s'.past ++ ending b.2
      isCancelled := s'.isCancelled || b.2.2.cancels
      running := rest }
    if rest.head?.any (·.1 = b.1) then loop workers cancelAt s'
    else loop workers cancelAt (s'.refill workers b.1)
termination_by s.waiting.length + s.running.length
decreasing_by
  · have := s.length_waiting_fire_le cancelAt b.1
    simp only [_h, List.length_cons]; omega
  · have := s.length_waiting_fire_le cancelAt b.1
    refine Nat.lt_of_le_of_lt (State.length_refill_le workers b.1 _) ?_
    simp only [_h, List.length_cons]; omega

/-- The moves of a whole collection. A cancellation at 0 has fired before it begins. -/
def moves (workers : Nat) (cancelAt : Option Nat) (collectors : Dict String Collector) : List Move :=
  let s : State := ⟨[], cancelAt == some 0, collectors.toList, []⟩
  loop workers cancelAt (s.refill workers 0)

/-- The collectors in the order in which they start. -/
def started (ms : List Move) : List String :=
  ms.filterMap fun
    | .start name => some name
    | _ => none

/-- The most collectors that run at once. -/
def peak (ms : List Move) : Nat :=
  let count (n : Nat) : Move → Nat
    | .start _ => n + 1
    | .finish .. => n - 1
    | _ => n
  (ms.foldl (fun (n, top) m => (count n m, max top (count n m))) (0, 0)).2

end Schedule

end EndpointWatch
