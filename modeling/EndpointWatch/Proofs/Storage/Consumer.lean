import EndpointWatch.Proofs.Storage.Streams
import Mathlib.Data.List.Infix
import Mathlib.Data.List.Induction

/-!
# Readers of streams lose and repeat nothing

A reader goes through a stream page by page: it asks for the entries behind the last one it has read. Meanwhile the store
is asked anything else, and may be opened again. What the reader has read is at any time a beginning of what was appended
to the stream, and all of it as soon as a page comes back empty (`readers_lose_nothing`).
-/

namespace EndpointWatch.Storage

/-! ### A store with a reader -/

/-- A store, as it is when new, as it takes an operation, and as it is when it is opened again. -/
structure Backend (σ : Type) where
  init : σ
  step : σ → Operation → Answer × σ
  reopen : σ → σ

/-- The store in memory has nothing when it is opened again. -/
def Memory.backend : Backend Memory := ⟨.empty, Memory.step, fun _ => .empty⟩

/-- The table has all its rows when it is opened again. -/
def Table.backend : Backend Table := ⟨.empty, Table.step, id⟩

/-- What happens next: the store is asked something, it is opened again, or the reader reads on. -/
inductive Turn where
  | ask (op : Operation)
  | reopen
  | read (limit : UInt64)

def asked (turns : List Turn) : List Operation :=
  turns.filterMap fun
    | .ask op => some op
    | _ => none

/-- The entry that a store has told to have appended. -/
def told? : Operation → Answer → Option StreamEntry
  | .append stream fields, .number n => some ⟨.ofNat n, stream, fields⟩
  | _, _ => none

/-- A store with the entries that it has told to have appended, to any stream, and a reader of one stream with its cursor
and with what it has read. -/
structure Reading (σ : Type) where
  store : σ
  log : List StreamEntry
  cursor : UInt64
  read : List StreamEntry

namespace Reading

variable {σ : Type}

/-- The number of the last entry; a reader begins at 0. -/
def cursorOf (es : List StreamEntry) (start : UInt64) : UInt64 := es.getLast?.elim start StreamEntry.id

/-- What was appended to the stream and is still to be read. -/
def unread (stream : String) (r : Reading σ) : List StreamEntry := behind r.log stream r.cursor

/-- One turn. It is impossible if the store does not answer the reader with entries. -/
def turn? (b : Backend σ) (stream : String) (r : Reading σ) : Turn → Option (Reading σ)
  | .ask op =>
    let (answer, store) := b.step r.store op
    some { r with store, log := r.log ++ (told? op answer).toList }
  | .reopen => some { r with store := b.reopen r.store }
  | .read limit =>
    match b.step r.store (.readAfter stream r.cursor limit) with
    | (.entries page, store) => some { r with store, cursor := cursorOf page r.cursor, read := r.read ++ page }
    | _ => none

end Reading

/-- A run with a reader of a stream, who begins at 0 when the store is new. -/
def Backend.run {σ : Type} (b : Backend σ) (stream : String) (turns : List Turn) : Option (Reading σ) :=
  turns.foldlM (Reading.turn? b stream) ⟨b.init, [], 0, []⟩

/-- That whenever an entry was appended to the stream, no more than `room` of them, the new one included, are still to be
read. -/
def KeepsUp {σ : Type} (b : Backend σ) (stream : String) (room : Nat) (turns : List Turn) : Prop :=
  ∀ past fields, past ++ [.ask (.append stream fields)] <+: turns →
    ∀ r, b.run stream (past ++ [.ask (.append stream fields)]) = some r → (r.unread stream).length ≤ room

/-- That a reader has lost and repeated nothing. -/
structure Faithful {σ : Type} (b : Backend σ) (stream : String) (turns : List Turn) (r : Reading σ) : Prop where
  log : r.log.map (fun e => (e.stream, e.fields)) = appended (asked turns)
  increasing : r.log.Pairwise (·.id < ·.id)
  read : r.read <+: r.log.filter (·.stream = stream)
  /-- The next page is one of entries, and if it is empty although it may hold some, all has been read. -/
  page : ∀ limit, ∃ page, (b.step r.store (.readAfter stream r.cursor limit)).1 = .entries page ∧
    (0 < limit → page = [] → r.read = r.log.filter (·.stream = stream))

/-! ### What a store has to promise -/

/-- A store promises to keep what was appended and to answer with it what a reader asks. It may need that no more than
`room?` entries are asked for, and it may not be `lasting`, so that it must not be opened again. -/
structure Backend.Serves {σ : Type} (b : Backend σ) (keeps : List (String × Dict String String) → σ → Prop)
    (room? : Option Nat) (lasting : Prop) : Prop where
  init : keeps [] b.init
  ask : ∀ ts s op, keeps ts s → keeps (ts ++ op.entry?.toList) (b.step s op).2 ∧
    told? op (b.step s op).1 = op.entry?.map fun e => ⟨.ofNat (ts.length + 1), e.1, e.2⟩
  reopen : lasting → ∀ ts s, keeps ts s → keeps ts (b.reopen s)
  read : ∀ ts s stream after limit, keeps ts s → ts.length < 2 ^ 63 → after.toNat < 2 ^ 63 →
    (∀ room ∈ room?, (behind (numbered ts) stream after).length ≤ room) →
    b.step s (.readAfter stream after limit) = (.entries ((behind (numbered ts) stream after).take limit.toNat), s)

theorem told?_eq_none {op : Operation} (h : op.entry? = none) (a : Answer) : told? op a = none := by
  cases op <;> first | rfl | cases h

theorem Memory.serves : Memory.backend.Serves Memory.KeepsStreams (some entriesPerStream) False where
  init := ⟨fun _ => rfl, rfl⟩
  ask ts m op h := by
    refine ⟨h.step op, ?_⟩
    cases hop : op.entry? with
    | none => exact told?_eq_none hop _
    | some e =>
      cases op <;> cases hop
      show some (StreamEntry.mk (.ofNat (m.lastId + 1).toNat) _ _) = _
      rw [UInt64.ofNat_toNat, h.lastId_succ]
      rfl
  reopen h := h.elim
  read ts m stream after limit h hlt _ hroom := by
    show (Answer.entries (m.readAfter stream after limit.toNat), m) = _
    rw [h.readAfter hlt (hroom _ rfl)]

theorem Table.serves : Table.backend.Serves Table.KeepsStreams none True where
  init := rfl
  ask ts t op h := by
    refine ⟨h.step op, ?_⟩
    cases hop : op.entry? with
    | none => exact told?_eq_none hop _
    | some e =>
      cases op <;> cases hop
      show some (StreamEntry.mk (.ofNat t.nextId.toNat) _ _) = _
      rw [UInt64.ofNat_toNat, Table.nextId_eq_of_entries h]
      rfl
  reopen _ _ _ h := h
  read ts t stream after limit h hlt ha _ := by
    show (Table.answer .entries (t.readAfter stream after limit), t) = _
    rw [Table.readAfter_of_entries h hlt stream ha]
    rfl

/-! ### Where a reader stands -/

/-- The reader has read a beginning of its stream, and its cursor is at the end of that. -/
structure Reading.Tracks {σ : Type} (stream : String) (ts : List (String × Dict String String)) (r : Reading σ) : Prop where
  log : r.log = numbered ts
  read : r.read <+: r.log.filter (·.stream = stream)
  cursor : r.cursor = cursorOf r.read 0

namespace Reading

variable {σ : Type} {stream : String} {ts : List (String × Dict String String)} {r : Reading σ} {es : List StreamEntry}

theorem cursorOf_append (es page : List StreamEntry) (start : UInt64) :
    cursorOf (es ++ page) start = cursorOf page (cursorOf es start) := by
  unfold cursorOf
  rw [List.getLast?_append]
  cases page.getLast? <;> rfl

theorem cursorOf_concat (es : List StreamEntry) (e : StreamEntry) (start : UInt64) : cursorOf (es ++ [e]) start = e.id := by
  rw [cursorOf_append]
  rfl

theorem le_cursorOf (hsorted : es.Pairwise (·.id < ·.id)) {e : StreamEntry} (he : e ∈ es) (start : UInt64) :
    e.id ≤ cursorOf es start := by
  rcases List.eq_nil_or_concat' es with rfl | ⟨init, last, rfl⟩
  · exact absurd he List.not_mem_nil
  · rw [cursorOf_concat]
    rcases List.mem_append.mp he with hinit | hlast
    · exact UInt64.le_of_lt ((List.pairwise_append.mp hsorted).2.2 e hinit last (List.mem_singleton_self last))
    · obtain rfl : e = last := List.mem_singleton.mp hlast
      exact UInt64.le_refl _

theorem cursorOf_lt {e : StreamEntry} {start : UInt64} (hstart : start < e.id) (hes : ∀ e' ∈ es, e'.id < e.id) :
    cursorOf es start < e.id := by
  rcases List.eq_nil_or_concat' es with rfl | ⟨init, last, rfl⟩
  · exact hstart
  · rw [cursorOf_concat]
    exact hes last (List.mem_append_right _ (List.mem_singleton_self last))

/-- Of entries in order, those behind the last of a beginning are the others. -/
theorem filter_cursorOf {rest : List StreamEntry} (hsorted : (es ++ rest).Pairwise (·.id < ·.id))
    (hpos : ∀ e ∈ es ++ rest, 0 < e.id) : (es ++ rest).filter (cursorOf es 0 < ·.id) = rest := by
  obtain ⟨hes, -, hlater⟩ := List.pairwise_append.mp hsorted
  have hnone : es.filter (cursorOf es 0 < ·.id) = [] := by
    refine List.filter_eq_nil_iff.mpr fun e he hlt => ?_
    exact UInt64.not_lt.mpr (le_cursorOf hes he 0) (of_decide_eq_true hlt)
  have hall : rest.filter (cursorOf es 0 < ·.id) = rest := by
    refine List.filter_eq_self.mpr fun e he => decide_eq_true ?_
    exact cursorOf_lt (hpos e (List.mem_append_right _ he)) fun e' he' => hlater e' he' e he
  rw [List.filter_append, hnone, hall, List.nil_append]

namespace Tracks

/-- What has been read and what has not are together the stream. -/
theorem read_append_unread (h : Tracks stream ts r) (hlt : ts.length < 2 ^ 63) :
    r.read ++ r.unread stream = r.log.filter (·.stream = stream) := by
  obtain ⟨rest, hrest⟩ := h.read
  have hsorted : (r.read ++ rest).Pairwise (·.id < ·.id) := by
    rw [hrest, h.log]
    exact (pairwise_id_numbered (by omega)).filter _
  have hpos : ∀ e ∈ r.read ++ rest, 0 < e.id := by
    intro e he
    rw [hrest, h.log] at he
    exact id_pos_of_mem_numbered (by omega) (List.mem_filter.mp he).1
  have hunread : r.unread stream = rest := by
    rw [unread, behind, ← hrest, h.cursor]
    exact filter_cursorOf hsorted hpos
  rw [hunread, hrest]

theorem cursor_lt (h : Tracks stream ts r) (hlt : ts.length < 2 ^ 63) : r.cursor.toNat < 2 ^ 63 := by
  rw [h.cursor, cursorOf]
  cases hlast : r.read.getLast? with
  | none => decide
  | some e =>
    have he := h.read.subset (List.mem_of_getLast? hlast)
    rw [h.log] at he
    exact id_lt_of_mem_numbered hlt (List.mem_filter.mp he).1

end Tracks

end Reading

/-! ### Runs -/

namespace Backend

variable {σ : Type} {b : Backend σ} {keeps : List (String × Dict String String) → σ → Prop} {room? : Option Nat}
  {lasting : Prop} {stream : String} {ts : List (String × Dict String String)} {r : Reading σ}

/-- The store keeps what was appended, the reader tracks it, and what it has not read yet fits into the store. -/
structure Follows (keeps : List (String × Dict String String) → σ → Prop) (room? : Option Nat) (stream : String)
    (ts : List (String × Dict String String)) (r : Reading σ) : Prop extends r.Tracks stream ts where
  keeps : keeps ts r.store
  fits : ∀ room ∈ room?, (r.unread stream).length ≤ room

theorem appended_asked_concat (turns : List Turn) (turn : Turn) :
    appended (asked (turns ++ [turn])) = appended (asked turns) ++ appended (asked [turn]) := by
  rw [asked, List.filterMap_append]
  exact appended_append

theorem run_concat (b : Backend σ) (stream : String) (turns : List Turn) (turn : Turn) :
    b.run stream (turns ++ [turn]) = (b.run stream turns).bind fun r => r.turn? b stream turn := by
  rw [run, List.foldlM_append]
  refine congrArg (Option.bind _) (funext fun r => ?_)
  show (r.turn? b stream turn).bind some = r.turn? b stream turn
  cases r.turn? b stream turn <;> rfl

namespace Serves

variable (hb : b.Serves keeps room? lasting)

include hb

theorem read_eq (h : Follows keeps room? stream ts r) (hlt : ts.length < 2 ^ 63) (limit : UInt64) :
    b.step r.store (.readAfter stream r.cursor limit) = (.entries ((r.unread stream).take limit.toNat), r.store) := by
  have hfits := h.fits
  unfold Reading.unread at hfits ⊢
  rw [h.log] at hfits ⊢
  exact hb.read ts r.store stream r.cursor limit h.keeps hlt (h.cursor_lt hlt) hfits

theorem follows_ask (h : Follows keeps room? stream ts r) (op : Operation)
    (hfits : ∀ fields r', op = .append stream fields → r.turn? b stream (.ask op) = some r' →
      ∀ room ∈ room?, (r'.unread stream).length ≤ room) :
    ∃ r', r.turn? b stream (.ask op) = some r' ∧ Follows keeps room? stream (ts ++ op.entry?.toList) r' := by
  obtain ⟨hkeeps, htold⟩ := hb.ask ts r.store op h.keeps
  have hlog : r.log ++ (told? op (b.step r.store op).1).toList = numbered (ts ++ op.entry?.toList) := by
    rw [htold, h.log]
    cases op.entry? with
    | none => simp
    | some e => exact (numbered_concat e).symm
  have hread : r.read <+: (r.log ++ (told? op (b.step r.store op).1).toList).filter (·.stream = stream) := by
    rw [List.filter_append]
    exact h.read.trans (List.prefix_append ..)
  refine ⟨_, rfl, ⟨hlog, hread, h.cursor⟩, hkeeps, fun room hroom => ?_⟩
  by_cases hop : ∃ fields, op = .append stream fields
  · obtain ⟨fields, hop⟩ := hop
    exact hfits fields _ hop rfl room hroom
  · -- nothing was appended to this stream
    have hother : (told? op (b.step r.store op).1).toList.filter (·.stream = stream) = [] := by
      refine List.filter_eq_nil_iff.mpr fun e he hs => hop ?_
      rw [htold, Option.mem_toList] at he
      obtain ⟨⟨s, fields⟩, hentry, rfl⟩ := Option.map_eq_some_iff.mp he
      obtain rfl : s = stream := of_decide_eq_true hs
      cases op <;> cases hentry
      exact ⟨fields, rfl⟩
    show (behind (r.log ++ _) stream r.cursor).length ≤ room
    rw [behind, List.filter_append, hother, List.append_nil]
    exact h.fits room hroom

theorem follows_read (h : Follows keeps room? stream ts r) (hlt : ts.length < 2 ^ 63) (limit : UInt64) :
    ∃ r', r.turn? b stream (.read limit) = some r' ∧ Follows keeps room? stream ts r' := by
  let page := (r.unread stream).take limit.toNat
  let r' : Reading σ := { r with cursor := Reading.cursorOf page r.cursor, read := r.read ++ page }
  have hturn : r.turn? b stream (.read limit) = some r' := by
    simp only [Reading.turn?, hb.read_eq h hlt limit]
    rfl
  have hall := h.read_append_unread hlt
  have htracks : r'.Tracks stream ts := by
    refine ⟨h.log, ?_, ?_⟩
    · show r.read ++ page <+: r.log.filter (·.stream = stream)
      rw [← hall]
      exact (List.prefix_append_right_inj _).mpr (List.take_prefix ..)
    · show Reading.cursorOf page r.cursor = Reading.cursorOf (r.read ++ page) 0
      rw [Reading.cursorOf_append, ← h.cursor]
  refine ⟨r', hturn, htracks, h.keeps, fun room hroom => Nat.le_trans ?_ (h.fits room hroom)⟩
  have hlen := congrArg List.length ((htracks.read_append_unread hlt).trans hall.symm)
  have hread : r'.read.length = r.read.length + page.length := List.length_append
  simp only [List.length_append] at hlen
  omega

theorem follows_run (turns : List Turn) (hlt : (appended (asked turns)).length < 2 ^ 63)
    (hlasting : .reopen ∈ turns → lasting) (hup : ∀ room ∈ room?, KeepsUp b stream room turns) :
    ∃ r, b.run stream turns = some r ∧ Follows keeps room? stream (appended (asked turns)) r := by
  -- from the end, since the reader has to keep up in every beginning of the turns
  induction turns using List.reverseRecOn with
  | nil =>
    exact ⟨_, rfl, ⟨rfl, List.nil_prefix, rfl⟩, hb.init, fun room _ => Nat.zero_le room⟩
  | append_singleton past turn ih =>
    rw [appended_asked_concat, List.length_append] at hlt
    obtain ⟨r, hrun, h⟩ := ih (by omega) (fun hmem => hlasting (List.mem_append_left _ hmem))
      fun room hroom before fields hbegins => hup room hroom before fields (hbegins.trans (List.prefix_append ..))
    have hnext : b.run stream (past ++ [turn]) = r.turn? b stream turn := by
      rw [run_concat, hrun]
      rfl
    rw [hnext, appended_asked_concat]
    cases turn with
    | ask op =>
      have hop : appended (asked [.ask op]) = op.entry?.toList := by
        cases hentry : op.entry? <;> simp [asked, appended, hentry]
      rw [hop]
      refine hb.follows_ask h op fun fields r' hop' hturn room hroom => ?_
      subst hop'
      exact hup room hroom past fields (List.prefix_refl _) r' (hnext.trans hturn)
    | reopen =>
      have hkeeps := hb.reopen (hlasting (List.mem_append_right _ (List.mem_singleton_self _))) _ _ h.keeps
      rw [show appended (asked [.reopen]) = [] from rfl, List.append_nil]
      exact ⟨_, rfl, ⟨h.log, h.read, h.cursor⟩, hkeeps, h.fits⟩
    | read limit =>
      rw [show appended (asked [.read limit]) = [] from rfl, List.append_nil]
      exact hb.follows_read h (by omega) limit

theorem faithful (turns : List Turn) (hlt : (appended (asked turns)).length < 2 ^ 63)
    (hlasting : .reopen ∈ turns → lasting) (hup : ∀ room ∈ room?, KeepsUp b stream room turns) :
    ∃ r, b.run stream turns = some r ∧ Faithful b stream turns r := by
  obtain ⟨r, hrun, h⟩ := hb.follows_run turns hlt hlasting hup
  refine ⟨r, hrun, ?_, ?_, h.read, fun limit => ⟨_, congrArg Prod.fst (hb.read_eq h hlt limit), fun hpos hempty => ?_⟩⟩
  · rw [h.log, map_numbered]
  · rw [h.log]
    exact pairwise_id_numbered (by omega)
  · have hunread : r.unread stream = [] := by
      rcases List.take_eq_nil_iff.mp hempty with hzero | hnil
      · exact absurd hzero (Nat.ne_of_gt (UInt64.lt_iff_toNat_lt.mp hpos))
      · exact hnil
    have hall := h.read_append_unread hlt
    rwa [hunread, List.append_nil] at hall

end Serves

end Backend

/-- Whatever both stores are asked, a reader of a stream loses and repeats nothing: with the table even if it is opened
again, with the store in memory as long as the reader keeps up. -/
theorem readers_lose_nothing (stream : String) (turns : List Turn) (hlt : (appended (asked turns)).length < 2 ^ 63) :
    (∃ r, Table.backend.run stream turns = some r ∧ Faithful Table.backend stream turns r) ∧
    (.reopen ∉ turns → KeepsUp Memory.backend stream entriesPerStream turns →
      ∃ r, Memory.backend.run stream turns = some r ∧ Faithful Memory.backend stream turns r) := by
  refine ⟨Table.serves.faithful turns hlt (fun _ => trivial) nofun, fun hopen hup => ?_⟩
  refine Memory.serves.faithful turns hlt hopen fun room hroom => ?_
  obtain rfl : entriesPerStream = room := Option.some.inj hroom
  exact hup

/-- A reader that is overtaken by entries of two streams between its pages. The table is opened again meanwhile. -/
theorem readers_lose_nothing_of_two_streams :
    let fields (n : String) : Dict String String := .ofList [("n", n)]
    let before : List Turn := [.ask (.append "a" (fields "1")), .ask (.append "b" (fields "2")), .read 1,
      .ask (.append "a" (fields "3")), .ask (.append "a" (fields "4"))]
    let after : List Turn := [.read 1, .ask (.append "b" (fields "5")), .read 10, .read 1]
    (∃ r, Table.backend.run "a" (before ++ .reopen :: after) = some r ∧
      Faithful Table.backend "a" (before ++ .reopen :: after) r ∧ r.read.map StreamEntry.id = [1, 3, 4]) ∧
    KeepsUp Memory.backend "a" entriesPerStream (before ++ after) ∧
    ∃ r, Memory.backend.run "a" (before ++ after) = some r ∧ Faithful Memory.backend "a" (before ++ after) r ∧
      r.read.map StreamEntry.id = [1, 3, 4] := by
  intro fields before after
  have hup : KeepsUp Memory.backend "a" entriesPerStream (before ++ after) := by
    intro past fields hpast r hr
    have hall : ∀ turns ∈ (before ++ after).inits, (Memory.backend.run "a" turns).all fun r =>
        (r.unread "a").length ≤ entriesPerStream := by decide +kernel
    have hr' := hall _ ((List.mem_inits ..).mpr hpast)
    rw [hr] at hr'
    exact of_decide_eq_true hr'
  obtain ⟨r, hrun, h⟩ := (readers_lose_nothing "a" (before ++ .reopen :: after) (by decide +kernel)).1
  obtain ⟨r', hrun', h'⟩ := (readers_lose_nothing "a" (before ++ after) (by decide +kernel)).2 nofun hup
  have hread : (Table.backend.run "a" (before ++ .reopen :: after)).map (·.read.map StreamEntry.id) = some [1, 3, 4] := by
    decide +kernel
  have hread' : (Memory.backend.run "a" (before ++ after)).map (·.read.map StreamEntry.id) = some [1, 3, 4] := by
    decide +kernel
  rw [hrun] at hread
  rw [hrun'] at hread'
  exact ⟨⟨r, hrun, h, Option.some.inj hread⟩, hup, r', hrun', h', Option.some.inj hread'⟩

end EndpointWatch.Storage
