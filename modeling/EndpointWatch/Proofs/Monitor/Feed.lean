import EndpointWatch.Monitor.Deployment
import EndpointWatch.Proofs.Monitor.Attempts

/-!
# What reaches the result stream

A `Feed` is a monitor beside the stream that its deliveries append to. An append may add its entry as soon as the call
has begun, and if the call is cut short even after the delivery is over, or never; one that fails adds none. Still no
delivery adds more than one entry, nor any but that of the result handed on to it (`Linked.of_run`).
-/

namespace EndpointWatch

/-- What an append adds to the result stream: the entry of a result, by the delivery of this result. -/
structure Entry where
  delivery : Nat
  result : CheckResult
  deriving DecidableEq

/-- The stream it is in, and its fields. -/
def Entry.written (e : Entry) : String × Dict String String := (Deployment.resultStream, e.result.streamFields)

/-- A monitor beside its result stream. `begun` are the entries that may yet come of appends, `added` those of the
stream, newest first. -/
structure Feed where
  monitor : Monitor
  begun : List Entry
  added : List Entry

namespace Feed

def start (handOver : HandOver) (epoch : Instant) (checker : Checker) : Feed := ⟨.start handOver epoch checker, [], []⟩

/-- What the calls of a delivery under way append, if they do. -/
def entryOf? (d : Nat) (f : Feed) : Option Entry :=
  (f.monitor.deliveries.get? d).bind fun x => if x.channel = .stream then some ⟨d, x.result⟩ else none

/-- The entries that may yet come of appends, after a move of the monitor. An append that fails has not added its entry
and will not. -/
def begun? (v : Monitor.Move) (f : Feed) : Option (List Entry) :=
  match v with
  | .call d => some ((f.entryOf? d).toList ++ f.begun)
  | .called d false =>
    match f.entryOf? d with
    | some e => if e ∈ f.begun then some (f.begun.erase e) else none
    | none => some f.begun
  | _ => some f.begun

/-- The monitor moves, or an append adds the entry of a delivery. -/
inductive Move where
  | monitor (v : Monitor.Move)
  | add (delivery : Nat)

def Move.monitor? : Move → Option Monitor.Move
  | monitor v => some v
  | add _ => none

def move? (f : Feed) : Move → Option Feed
  | .monitor v => do
    let begun ← f.begun? v
    let monitor ← f.monitor.move? v
    some { f with monitor, begun }
  | .add d =>
    (f.begun.find? (·.delivery = d)).map fun e => { f with begun := f.begun.erase e, added := e :: f.added }

def moves? (f : Feed) (vs : List Move) : Option Feed := vs.foldlM move? f

variable {f f' : Feed} {v : Monitor.Move} {vs : List Move} {m' : Monitor} {es es' : List Entry}

theorem move?_monitor (h : f.move? (.monitor v) = some f') :
    ∃ begun monitor, f.begun? v = some begun ∧ f.monitor.move? v = some monitor ∧ f' = { f with monitor, begun } := by
  simp only [move?, Option.bind_eq_bind, Option.bind_eq_some_iff, Option.some.injEq] at h
  obtain ⟨begun, hbegun, monitor, hm, rfl⟩ := h
  exact ⟨begun, monitor, hbegun, hm, rfl⟩

theorem monitor_of_run (h : f.moves? vs = some f') :
    f.monitor.moves? (vs.filterMap Move.monitor?) = some f'.monitor := by
  induction vs generalizing f with
  | nil => cases h; rfl
  | cons v vs ih =>
    obtain ⟨t, ht, h⟩ := run_cons h
    have hrun := ih h
    cases v with
    | monitor v =>
      obtain ⟨begun, monitor, -, hv, rfl⟩ := move?_monitor ht
      show (v :: vs.filterMap Move.monitor?).foldlM Monitor.move? f.monitor = _
      rw [List.foldlM_cons, hv]
      exact hrun
    | add d =>
      obtain ⟨e, -, rfl⟩ := Option.map_eq_some_iff.mp ht
      exact hrun

/-! ### Entries and deliveries -/

/-- The entries that were added, or may be, are those of different deliveries for the stream, each for its result; and a
delivery that is still under way has not yet heard from its append. -/
structure Linked (m : Monitor) (es : List Entry) : Prop where
  handed : ∀ e ∈ es, ∃ n, .handedOn n e.delivery .stream e.result ∈ m.log
  once : (es.map Entry.delivery).Nodup
  calling : ∀ e ∈ es, ∀ x, m.deliveries.get? e.delivery = some x → x.channel = .stream ∧ x.isWaiting = false

namespace Linked

variable {m : Monitor}

theorem perm (h : Linked m es) (hp : es.Perm es') : Linked m es' where
  handed e he := h.handed e (hp.mem_iff.mpr he)
  once := (hp.map Entry.delivery).nodup_iff.mp h.once
  calling e he := h.calling e (hp.mem_iff.mpr he)

/-- Some of the entries, after a move that lets their deliveries be. -/
theorem mono (h : Linked m es) (hsub : es'.Sublist es) (hlog : m.log <:+ m'.log)
    (hsame : ∀ e ∈ es', ∀ x, m'.deliveries.get? e.delivery = some x → m.deliveries.get? e.delivery = some x) :
    Linked m' es' where
  handed e he := (h.handed e (hsub.subset he)).imp fun _ hn => hlog.subset hn
  once := h.once.sublist (hsub.map Entry.delivery)
  calling e he x hx := h.calling e (hsub.subset he) x (hsame e he x hx)

/-- A delivery that waits has nothing in the stream, and nothing on the way to it. -/
theorem ne_of_isWaiting (h : Linked m es) {d : Nat} {x : Delivery} (hx : m.deliveries.get? d = some x)
    (hw : x.isWaiting) (e : Entry) (he : e ∈ es) : e.delivery ≠ d := by
  rintro rfl
  have hcalling := (h.calling e he x hx).2
  rw [hcalling] at hw
  cases hw

theorem cons {d : Nat} {x : Delivery} (h : Linked m es) (hx : m.deliveries.get? d = some x) (hc : x.channel = .stream)
    (hw : x.isWaiting = false) (hh : ∃ n, .handedOn n d .stream x.result ∈ m.log) (hnew : ∀ e ∈ es, e.delivery ≠ d) :
    Linked m (⟨d, x.result⟩ :: es) where
  handed := List.forall_mem_cons.mpr ⟨hh, h.handed⟩
  once := by
    refine List.nodup_cons.mpr ⟨fun hmem => ?_, h.once⟩
    obtain ⟨e, he, hed⟩ := List.mem_map.mp hmem
    exact hnew e he hed
  calling := by
    refine List.forall_mem_cons.mpr ⟨fun y hy => ?_, h.calling⟩
    rw [hx, Option.some.injEq] at hy
    exact hy ▸ ⟨hc, hw⟩

end Linked

theorem entryOf?_eq {d : Nat} {x : Delivery} (hx : f.monitor.deliveries.get? d = some x) :
    f.entryOf? d = if x.channel = .stream then some ⟨d, x.result⟩ else none := by
  rw [entryOf?, hx]
  rfl

/-- Appends begin with calls only. -/
theorem sublist_of_begun? {l : List Entry} (hv : ∀ d, v ≠ .call d) (hl : f.begun? v = some l) :
    l.Sublist f.begun := by
  unfold begun? at hl
  split at hl
  · next d => exact absurd rfl (hv d)
  · split at hl
    · split at hl
      · cases hl; exact List.erase_sublist
      · cases hl
    · cases hl; exact .refl _
  · cases hl; exact .refl _

theorem Linked.monitor {l : List Entry} (h : Linked f.monitor (f.begun ++ f.added)) (t : f.monitor.HasTrail)
    (hl : f.begun? v = some l) (hm : f.monitor.move? v = some m') : Linked m' (l ++ f.added) := by
  have hlog : f.monitor.log <:+ m'.log := Monitor.log_suffix_of_move? hm
  cases Monitor.handling_of_move? hm with
  | cycle other change =>
    have hsub : l.Sublist f.begun := sublist_of_begun? (by rintro d rfl; cases other) hl
    refine h.mono (hsub.append_right _) hlog fun e he x hx => ?_
    rcases change.begins hx with hx | ⟨hle, -⟩
    · exact hx
    · -- the numbers of deliveries that begin now were not given out before
      obtain ⟨n, hn⟩ := h.handed e ((hsub.append_right _).subset he)
      have hlt : e.delivery < f.monitor.nextDelivery := t.handed_lt _ (List.mem_filterMap.mpr ⟨_, hn, rfl⟩)
      exact absurd hlt (Nat.not_lt.mpr hle)
  | call d x underWay waiting inTime goesOn rest log deliveries =>
    have hnew := h.ne_of_isWaiting underWay waiting
    have hold : Linked m' (f.begun ++ f.added) := by
      refine h.mono (.refl _) hlog fun e he y hy => ?_
      rw [deliveries, Dict.get?_insert_of_ne (hnew e he)] at hy
      exact hy
    simp only [begun?, entryOf?_eq underWay, Option.some.injEq] at hl
    subst hl
    split
    · next hc =>
      obtain ⟨n, hn⟩ := t.handed d x underWay
      have hh : ∃ n, .handedOn n d .stream x.result ∈ m'.log := ⟨n, hlog.subset (hc ▸ hn)⟩
      exact hold.cons (x := { x with calls := x.calls + 1, stage := .calling })
        (by rw [deliveries, Dict.get?_insert_self]) hc rfl hh hnew
    · exact hold
  | retry d x due underWay calling more rest log deliveries =>
    have hsub : l.Sublist f.begun := sublist_of_begun? (fun _ hv => by cases hv) hl
    have hothers : ∀ e ∈ l ++ f.added, e.delivery ≠ d := by
      simp only [begun?, entryOf?_eq underWay] at hl
      by_cases hc : x.channel = .stream
      · simp only [if_pos hc, Option.ite_none_right_eq_some, Option.some.injEq] at hl
        obtain ⟨hmem, rfl⟩ := hl
        have hperm := (List.perm_cons_erase hmem).append_right f.added
        obtain ⟨hd, -⟩ := List.nodup_cons.mp (h.perm hperm).once
        rintro e he rfl
        exact hd (List.mem_map.mpr ⟨e, he, rfl⟩)
      · rw [if_neg hc, Option.some.injEq] at hl
        subst hl
        rintro e he rfl
        exact hc (h.calling e he x underWay).1
    refine h.mono (hsub.append_right _) hlog fun e he y hy => ?_
    rw [deliveries, Dict.get?_insert_of_ne (hothers e he)] at hy
    exact hy
  | finish d x ends underWay rest log deliveries =>
    have hsub : l.Sublist f.begun := sublist_of_begun? (by rintro e rfl; cases ends) hl
    refine h.mono (hsub.append_right _) hlog fun e he y hy => ?_
    rw [deliveries] at hy
    exact (Dict.eq_some_of_get?_erase hy).2

theorem Linked.of_run {handOver : HandOver} {epoch : Instant} {checker : Checker}
    (h : (start handOver epoch checker).moves? vs = some f) : Linked f.monitor (f.begun ++ f.added) := by
  refine holds_along_run (Q := fun _ (f : Feed) => Linked f.monitor (f.begun ++ f.added)) ?_
    (fun vs f v f' hrun hf hv => ?_) vs h
  · exact ⟨nofun, List.nodup_nil, nofun⟩
  · cases v with
    | monitor v =>
      obtain ⟨l, m', hl, hm, rfl⟩ := move?_monitor hv
      have ht : f.monitor.HasTrail := .of_run (monitor_of_run hrun)
      exact hf.monitor ht hl hm
    | add d =>
      obtain ⟨e, he, rfl⟩ := Option.map_eq_some_iff.mp hv
      -- the entry is moved from the one list to the other
      have hperm := (List.perm_cons_erase (List.mem_of_find?_eq_some he)).append_right f.added
      exact hf.perm (hperm.trans List.perm_middle.symm)

end Feed

end EndpointWatch
