import EndpointWatch.Storage.Memory

/-!
# A stream some of whose appends fail

A `FlakyStream` keeps its entries in a store in memory and counts the appends asked of it; `fails` says which of
them fail. A failing append adds nothing.
-/

namespace EndpointWatch.Storage

structure FlakyStream where
  store : Memory
  calls : Nat
  fails : Nat → Option StorageError

namespace FlakyStream

def fresh (fails : Nat → Option StorageError) : FlakyStream := ⟨.empty, 0, fails⟩

/-- One append. Calls are numbered from 1. -/
def append (stream : String) (fields : Dict String String) (s : FlakyStream) :
    Except StorageError Unit × FlakyStream :=
  let calls := s.calls + 1
  match s.fails calls with
  | some e => (.error e, { s with calls })
  | none => (.ok (), { s with calls, store := s.store.append stream fields })

end FlakyStream

end EndpointWatch.Storage
