/-!
# Windows on the newest items

A `Window` keeps the `cap` items pushed last. Older ones are dropped a whole window at a time, so that
pushing is cheap; what is kept never shows them. So one window stands for two ways to drop items: the oldest with each
push into a queue that is full, and all that are too many at once after a batch. Both leave the items that
`newestFirst` shows.
-/

namespace EndpointWatch

/-- The items pushed last, newest first, and beyond `cap` of them some that wait to be dropped. -/
structure Window (cap : Nat) (α : Type) where
  items : List α
  size : Nat
  size_eq : size = items.length

namespace Window

variable {cap : Nat} {α : Type}

def empty : Window cap α := ⟨[], 0, rfl⟩

instance : Inhabited (Window cap α) := ⟨empty⟩

def push (w : Window cap α) (a : α) : Window cap α :=
  if 2 * cap ≤ w.size then
    let items := (a :: w.items).take cap
    ⟨items, items.length, rfl⟩
  else ⟨a :: w.items, w.size + 1, by simp [w.size_eq]⟩

def pushAll (w : Window cap α) (as : List α) : Window cap α := as.foldl push w

/-- What is kept, newest first. -/
def newestFirst (w : Window cap α) : List α := w.items.take cap

/-- What is kept, oldest first. -/
def oldestFirst (w : Window cap α) : List α := w.newestFirst.reverse

def count (w : Window cap α) : Nat := min cap w.size

@[simp] theorem newestFirst_empty : (empty : Window cap α).newestFirst = [] := by simp [newestFirst, empty]

theorem newestFirst_push (w : Window cap α) (a : α) :
    (w.push a).newestFirst = (a :: w.newestFirst).take cap := by
  cases cap with
  | zero => simp [newestFirst]
  | succ c =>
    simp only [push, newestFirst]
    split <;> simp [List.take_take]

theorem count_eq (w : Window cap α) : w.count = w.newestFirst.length := by
  simp [count, newestFirst, w.size_eq]

end Window

end EndpointWatch
