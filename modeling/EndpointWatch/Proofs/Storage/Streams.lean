import EndpointWatch.Proofs.Storage.Answers

/-!
# What the stores keep of streams

Both stores number the entries of all streams from 1 on, as they come. The table keeps all of them; the store in memory
keeps those of each stream that came last. So the table gives every entry behind a number, and the store in memory does as
long as no more entries than it keeps are behind it (`Table.KeepsStreams`, `Memory.KeepsStreams`).
-/

namespace EndpointWatch

theorem Window.newestFirst_push_of_eq {cap : Nat} {α : Type} {w : Window cap α} {as : List α}
    (h : w.newestFirst = as.reverse.take cap) (a : α) : (w.push a).newestFirst = (as ++ [a]).reverse.take cap := by
  rw [newestFirst_push, h, List.reverse_concat]
  cases cap with
  | zero => rfl
  | succ cap => rw [List.take_succ_cons, List.take_succ_cons, List.take_take, Nat.min_eq_left (Nat.le_succ cap)]

namespace Storage

/-! ### Numbers of entries -/

variable {ts : List (String × Dict String String)} {es : List StreamEntry} {e : StreamEntry}

theorem toNat_id_getElem_numbered (h : ts.length < 2 ^ 64) {i : Nat} (hi : i < (numbered ts).length) :
    (numbered ts)[i].id.toNat = i + 1 := by
  have hi : i < ts.length := length_numbered ▸ hi
  have hsize : UInt64.size = 2 ^ 64 := rfl
  simp only [numbered, List.getElem_mapIdx]
  rw [UInt64.toNat_ofNat_of_lt']
  omega

theorem pairwise_id_numbered (h : ts.length < 2 ^ 64) : (numbered ts).Pairwise (·.id < ·.id) := by
  refine List.pairwise_iff_getElem.mpr fun i j hi hj hij => ?_
  rw [UInt64.lt_iff_toNat_lt, toNat_id_getElem_numbered h hi, toNat_id_getElem_numbered h hj]
  omega

theorem id_pos_of_mem_numbered (h : ts.length < 2 ^ 64) (he : e ∈ numbered ts) : 0 < e.id := by
  obtain ⟨i, hi, rfl⟩ := List.getElem_of_mem he
  rw [UInt64.lt_iff_toNat_lt, toNat_id_getElem_numbered h hi]
  exact Nat.succ_pos i

theorem map_numbered (ts : List (String × Dict String String)) :
    (numbered ts).map (fun e => (e.stream, e.fields)) = ts := by
  refine List.ext_getElem (by simp [numbered]) fun i _ _ => ?_
  simp [numbered]

/-- Of entries in order, the last ones are enough to tell those behind a number, if there are enough of them. -/
theorem filter_drop_of_length_le (hsorted : es.Pairwise (·.id < ·.id)) {after : UInt64} {n : Nat}
    (hlen : (es.filter (after < ·.id)).length ≤ n) :
    (es.drop (es.length - n)).filter (after < ·.id) = es.filter (after < ·.id) := by
  let k := es.length - n
  have hsplit : es.filter (after < ·.id) = (es.take k).filter (after < ·.id) ++ (es.drop k).filter (after < ·.id) := by
    rw [← List.filter_append, List.take_append_drop]
  have hnone : (es.take k).filter (after < ·.id) = [] := by
    refine List.filter_eq_nil_iff.mpr fun x hx hlater => ?_
    -- all that is kept is behind the number too
    have hkept : (es.drop k).filter (after < ·.id) = es.drop k := by
      refine List.filter_eq_self.mpr fun y hy => ?_
      rw [← List.take_append_drop k es] at hsorted
      have hxy := (List.pairwise_append.mp hsorted).2.2 x hx y hy
      exact decide_eq_true (UInt64.lt_trans (of_decide_eq_true hlater) hxy)
    have hpos : 0 < ((es.take k).filter (after < ·.id)).length :=
      List.length_pos_of_mem (List.mem_filter.mpr ⟨hx, hlater⟩)
    have hk : 0 < k := by
      refine Nat.pos_of_ne_zero fun hzero => ?_
      rw [hzero, List.take_zero] at hx
      exact List.not_mem_nil hx
    rw [hsplit, List.length_append, hkept, List.length_drop] at hlen
    omega
  rw [hsplit, hnone, List.nil_append]

/-! ### The table -/

/-- The table keeps the entries that were appended. -/
def Table.KeepsStreams (ts : List (String × Dict String String)) (t : Table) : Prop :=
  t.entries = ((numbered ts).map .ofEntry).reverse

namespace Table.KeepsStreams

variable {t : Table}

theorem append (h : KeepsStreams ts t) (s : String) (d : Dict String String) :
    KeepsStreams (ts ++ [(s, d)]) (t.append s d) := by
  show ⟨t.nextId, s, writeMap d⟩ :: t.entries = _
  rw [Table.nextId_eq_of_entries h, numbered_concat, List.map_append, List.reverse_append, h]
  rfl

theorem step (h : KeepsStreams ts t) (op : Operation) : KeepsStreams (ts ++ op.entry?.toList) (t.step op).2 := by
  cases op with
  | append s d => exact h.append s d
  | store ms =>
    have hstore : ((t.step (.store ms)).2).entries = t.entries := by
      cases hrows : ms.mapM metricRow with
      | ok rows => simp only [Table.step, Table.store_of_ok hrows]
      | error e => simp only [Table.step, Table.store_of_error hrows]
    show _ = ((numbered (ts ++ [])).map EntryRow.ofEntry).reverse
    rw [List.append_nil, hstore]
    exact h
  | _ => exact (List.append_nil ts).symm ▸ h

end Table.KeepsStreams

/-! ### The store in memory -/

/-- The store in memory keeps of each stream the entries that were appended last. -/
structure Memory.KeepsStreams (ts : List (String × Dict String String)) (m : Memory) : Prop where
  windows : ∀ s, ((m.streams.get? s).getD .empty).newestFirst =
    ((numbered ts).filter (·.stream = s)).reverse.take entriesPerStream
  lastId : m.lastId = .ofNat ts.length

namespace Memory.KeepsStreams

variable {m : Memory}

theorem lastId_succ (h : KeepsStreams ts m) : m.lastId + 1 = .ofNat (ts.length + 1) := by
  rw [h.lastId, UInt64.ofNat_add]
  rfl

theorem append (h : KeepsStreams ts m) (s : String) (d : Dict String String) :
    KeepsStreams (ts ++ [(s, d)]) (m.append s d) where
  windows s' := by
    show (((m.streams.insert _ _).get? s').getD .empty).newestFirst = _
    rw [numbered_concat, List.filter_append, ← h.lastId_succ]
    by_cases hs : s' = s
    · subst hs
      rw [Dict.get?_insert_self, Option.getD_some, Window.newestFirst_push_of_eq (h.windows s')]
      simp
    · rw [Dict.get?_insert_of_ne hs, h.windows]
      simp [Ne.symm hs]
  lastId := by
    show m.lastId + 1 = _
    rw [h.lastId_succ, List.length_append]
    rfl

theorem step (h : KeepsStreams ts m) (op : Operation) : KeepsStreams (ts ++ op.entry?.toList) (m.step op).2 := by
  cases op with
  | append s d => exact h.append s d
  | _ => exact (List.append_nil ts).symm ▸ ⟨h.windows, h.lastId⟩

theorem readAfter (h : KeepsStreams ts m) (hlt : ts.length < 2 ^ 63) {stream : String} {after : UInt64}
    (hroom : (behind (numbered ts) stream after).length ≤ entriesPerStream) (limit : Nat) :
    m.readAfter stream after limit = (behind (numbered ts) stream after).take limit := by
  have hkept : ((m.streams.get? stream).getD .empty).oldestFirst = ((numbered ts).filter (·.stream = stream)).drop
      (((numbered ts).filter (·.stream = stream)).length - entriesPerStream) := by
    rw [Window.oldestFirst, h.windows, List.take_reverse, List.reverse_reverse]
  rw [Memory.readAfter, hkept, filter_drop_of_length_le ((pairwise_id_numbered (by omega)).filter _) hroom]
  rfl

end Memory.KeepsStreams

end Storage

end EndpointWatch
