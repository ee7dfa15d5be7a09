import EndpointWatch.Proofs.Storage.Contents
import EndpointWatch.Proofs.Storage.Retention

/-!
# Cursors of streams

A reader asks for the entries of a stream behind a number. The store in memory compares numbers as they are and answers
with these entries and no others. The table compares them as signed ones: a cursor from `2 ^ 63` on is before every entry,
so that the stream is told from its beginning (`readAfter_respectsCursor_iff`).
-/

namespace EndpointWatch.Storage

/-- An answer is the first `limit` of the entries behind a number, of those that are kept of a stream. -/
structure RespectsCursor (kept : List StreamEntry) (cursor limit : UInt64) (answer : Answer) : Prop where
  increasing : kept.Pairwise (·.id < ·.id)
  page : answer = .entries ((kept.filter (cursor < ·.id)).take limit.toNat)

variable {es : List StreamEntry} {cursor : UInt64}

theorem Memory.readAfter_after (ops : List Operation) (stream : String) (cursor limit : UInt64) :
    ((Memory.after ops).step (.readAfter stream cursor limit)).1 =
      .entries (((((numbered (appended ops)).filter (·.stream = stream)).rtake entriesPerStream).filter
        (cursor < ·.id)).take limit.toNat) := by
  rw [← (KeepsNewest.of_run ops).entries stream]
  rfl

namespace Table

theorem readAfter_after (ops : List Operation) (hlt : (appended ops).length < 2 ^ 63) (stream : String)
    (cursor limit : UInt64) :
    ((after ops).step (.readAfter stream cursor limit)).1 =
      .entries ((((numbered (appended ops)).filter (·.stream = stream)).filter
        (cursor.toInt64 < ·.id.toInt64)).take limit.toNat) := by
  show answer .entries (Table.readAfter _ stream cursor limit) = _
  rw [readAfter_of_rows (holds_after ops).entries hlt]
  rfl

/-- Read as a signed number, a cursor from `2 ^ 63` on is before every entry. -/
theorem filter_toInt64 (hes : ∀ e ∈ es, e.id.toNat < 2 ^ 63) (cursor : UInt64) :
    es.filter (cursor.toInt64 < ·.id.toInt64) = if cursor.toNat < 2 ^ 63 then es.filter (cursor < ·.id) else es := by
  split
  · next hc => exact List.filter_congr fun e he => decide_eq_decide.mpr (toInt64_lt_iff hc (hes e he))
  · next hc =>
    refine List.filter_eq_self.mpr fun e he => decide_eq_true ?_
    have hneg := toInt64_lt_zero_iff.mpr (Nat.le_of_not_lt hc)
    have hpos := toInt_toInt64 (hes e he)
    rw [Int64.lt_iff_toInt_lt] at hneg ⊢
    exact Int.lt_of_lt_of_le hneg (hpos ▸ Int.natCast_nonneg _)

/-- No entry has a number behind a cursor that only an unsigned number can hold. -/
theorem filter_eq_nil_of_le (hes : ∀ e ∈ es, e.id.toNat < 2 ^ 63) (hc : 2 ^ 63 ≤ cursor.toNat) :
    es.filter (cursor < ·.id) = [] := by
  refine List.filter_eq_nil_iff.mpr fun e he hlt => ?_
  have hlt := UInt64.lt_iff_toNat_lt.mp (of_decide_eq_true hlt)
  have := hes e he
  omega

end Table

/-- The store in memory answers every reader with the entries behind its cursor, as long as numbers do not run out. The
table, which has numbers below `2 ^ 63` only, does so exactly if the cursor is below `2 ^ 63` too, or there is nothing
to tell. -/
theorem readAfter_respectsCursor_iff (ops : List Operation) (stream : String) (cursor limit : UInt64) :
    let kept := (numbered (appended ops)).filter (·.stream = stream)
    ((appended ops).length < 2 ^ 64 → RespectsCursor (kept.rtake entriesPerStream) cursor limit
      ((Memory.after ops).step (.readAfter stream cursor limit)).1) ∧
    ((appended ops).length < 2 ^ 63 →
      (RespectsCursor kept cursor limit ((Table.after ops).step (.readAfter stream cursor limit)).1 ↔
        cursor.toNat < 2 ^ 63 ∨ limit = 0 ∨ kept = [])) := by
  intro kept
  refine ⟨fun hlt => ⟨?_, Memory.readAfter_after ..⟩, fun hlt => ?_⟩
  · exact ((pairwise_id_numbered hlt).filter _).sublist (List.drop_sublist ..)
  · have hids : ∀ e ∈ kept, e.id.toNat < 2 ^ 63 := fun e he => id_lt_of_mem_numbered hlt (List.mem_filter.mp he).1
    have hkept : kept.Pairwise (·.id < ·.id) := (pairwise_id_numbered (by omega)).filter _
    have hanswer := Table.readAfter_after ops hlt stream cursor limit
    rw [Table.filter_toInt64 hids] at hanswer
    by_cases hc : cursor.toNat < 2 ^ 63
    · rw [if_pos hc] at hanswer
      exact ⟨fun _ => .inl hc, fun _ => ⟨hkept, hanswer⟩⟩
    · rw [if_neg hc] at hanswer
      have hnone := Table.filter_eq_nil_of_le hids (Nat.le_of_not_lt hc)
      have hzero : kept.take limit.toNat = [] ↔ limit = 0 ∨ kept = [] := by
        rw [List.take_eq_nil_iff, ← UInt64.toNat_inj]
        rfl
      constructor
      · intro h
        have hpage := hanswer.symm.trans h.page
        rw [hnone, List.take_nil] at hpage
        injection hpage with hpage
        exact .inr (hzero.mp hpage)
      · intro h
        have hpage := hzero.mpr (h.resolve_left hc)
        rw [hpage] at hanswer
        refine ⟨hkept, ?_⟩
        rw [hanswer, hnone, List.take_nil]

/-- Two streams that were appended to in turn, and cursors on both sides of the sign. -/
theorem readAfter_of_two_streams :
    let fields : Dict String String := .ofList [("n", "1")]
    let ops : List Operation := [.append "a" fields, .append "b" fields, .append "a" fields]
    let kept := (numbered (appended ops)).filter (·.stream = "a")
    (appended ops).length < 2 ^ 63 ∧
      RespectsCursor (kept.rtake entriesPerStream) 1 1 ((Memory.after ops).step (.readAfter "a" 1 1)).1 ∧
      RespectsCursor kept 1 1 ((Table.after ops).step (.readAfter "a" 1 1)).1 ∧
      ¬RespectsCursor kept (2 ^ 63) 1 ((Table.after ops).step (.readAfter "a" (2 ^ 63) 1)).1 := by
  intro fields ops kept
  have hlt : (appended ops).length < 2 ^ 63 := by decide +kernel
  obtain ⟨hmemory, htable⟩ := readAfter_respectsCursor_iff ops "a" 1 1
  have hwrapped := (readAfter_respectsCursor_iff ops "a" (2 ^ 63) 1).2 hlt
  refine ⟨hlt, hmemory (by decide +kernel), (htable hlt).mpr (.inl (by decide)), fun h => ?_⟩
  have hcases := hwrapped.mp h
  exact absurd hcases (by decide +kernel)

/-- The only entry of a table is told to a reader who asks for entries behind a far larger number. -/
theorem not_respectsCursor_of_sign :
    let fields : Dict String String := .ofList [("n", "1")]
    let kept : List StreamEntry := [⟨1, "s", fields⟩]
    ((Table.after [.append "s" fields]).step (.readAfter "s" (2 ^ 63) 10)).1 = .entries kept ∧
      ¬RespectsCursor kept (2 ^ 63) 10 (.entries kept) := by
  intro fields kept
  have htold : (((numbered (appended [.append "s" fields])).filter (·.stream = "s")).filter
      ((2 ^ 63 : UInt64).toInt64 < ·.id.toInt64)).take 10 = kept := by decide +kernel
  refine ⟨?_, fun h => ?_⟩
  · rw [Table.readAfter_after _ (by decide +kernel)]
    exact congrArg _ htold
  · injection h.page with hpage
    exact absurd hpage (by decide +kernel)

end EndpointWatch.Storage
