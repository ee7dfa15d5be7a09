/-!
# What is due when

An `Agenda` lists what is to happen with the time at which it is due, the next thing first. What is due at the
same time happens in the order in which it was put down.
-/

namespace EndpointWatch

/-- Things to do, in the order in which they are due. -/
abbrev Agenda (α : Type) := List (Nat × α)

namespace Agenda

variable {α : Type}

/-- Puts something down behind all that is due no later. -/
def add (due : Nat) (a : α) : Agenda α → Agenda α
  | [] => [(due, a)]
  | e :: rest => if e.1 ≤ due then e :: add due a rest else (due, a) :: e :: rest

@[simp] theorem length_add (due : Nat) (a : α) (l : Agenda α) : (add due a l).length = l.length + 1 := by
  induction l with
  | nil => rfl
  | cons e l ih => simp only [add]; split <;> simp [ih]

theorem mem_add {due : Nat} {a : α} {l : Agenda α} {e : Nat × α} :
    e ∈ add due a l ↔ e = (due, a) ∨ e ∈ l := by
  induction l with
  | nil => simp [add]
  | cons f l ih =>
    simp only [add]
    split
    · simp only [List.mem_cons, ih]; exact or_left_comm
    · simp

end Agenda

end EndpointWatch
