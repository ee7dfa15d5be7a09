import EndpointWatch.Proofs.Storage.Contents
import EndpointWatch.Proofs.Storage.Retention

/-!
# The most recent results

The table tells the results of an endpoint by their times, so that its answer is right whatever the order of saving. The
store in memory tells the results that were saved last. These are the most recent ones exactly if they were saved in the
order of their times, and after no result with a later time (`latestResults_mostRecent_iff`).
-/

namespace EndpointWatch.Storage

/-- The results `got` are the `limit` most recent of some saved ones, newest first, and of the same time those saved
later in front. -/
def MostRecent (limit : Nat) (saved got : List CheckResult) : Prop :=
  got.length = min limit saved.length ∧ ∃ older, NewestFirst CheckResult.checkedAt saved (got ++ older)

/-- The last `limit` results were saved in the order of their times, and after no result with a later time. -/
def LastInOrder (limit : Nat) (saved : List CheckResult) : Prop :=
  (saved.rtake limit).Pairwise (fun a b => a.checkedAt.le b.checkedAt) ∧
    ∀ a ∈ saved.rdrop limit, ∀ b ∈ saved.rtake limit, a.checkedAt.le b.checkedAt

instance (limit : Nat) (saved : List CheckResult) : Decidable (LastInOrder limit saved) :=
  inferInstanceAs (Decidable (_ ∧ _))

/-! ### The results saved last -/

variable {rs got : List CheckResult} {limit : Nat}

theorem reverse_rtake_append (rs : List CheckResult) (limit : Nat) :
    (rs.rtake limit).reverse ++ (rs.rdrop limit).reverse = rs.reverse := by
  rw [List.rtake_eq_reverse_take_reverse, List.rdrop_eq_reverse_drop_reverse, List.reverse_reverse, List.reverse_reverse,
    List.take_append_drop]

theorem length_reverse_rtake (rs : List CheckResult) (limit : Nat) :
    (rs.rtake limit).reverse.length = min limit rs.length := by
  rw [List.rtake_eq_reverse_take_reverse, List.reverse_reverse, List.length_take, List.length_reverse]

theorem LastInOrder.mostRecent (h : LastInOrder limit rs) : MostRecent limit rs (rs.rtake limit).reverse := by
  obtain ⟨hlast, hothers⟩ := h
  let older := (rs.rdrop limit).reverse.mergeSort fun a b => b.checkedAt.le a.checkedAt
  have hperm : ((rs.rtake limit).reverse ++ older).Perm rs.reverse := by
    rw [← reverse_rtake_append rs limit]
    exact (List.mergeSort_perm ..).append_left _
  have hordered : ((rs.rtake limit).reverse ++ older).Pairwise fun a b => b.checkedAt.le a.checkedAt := by
    refine List.pairwise_append.mpr ⟨List.pairwise_reverse.mpr hlast, pairwise_mergeSort_time _ _, fun b hb a ha => ?_⟩
    exact hothers a (List.mem_reverse.mp (List.mem_mergeSort.mp ha)) b (List.mem_reverse.mp hb)
  refine ⟨length_reverse_rtake rs limit, older, hperm.trans (List.reverse_perm rs), hordered, fun i => ?_⟩
  rw [List.filter_append, filter_mergeSort_time, ← List.filter_append, reverse_rtake_append, List.filter_reverse]

theorem MostRecent.lastInOrder (h : MostRecent limit rs (rs.rtake limit).reverse) : LastInOrder limit rs := by
  obtain ⟨-, older, hperm, hordered, -⟩ := h
  obtain ⟨hlast, -, hbefore⟩ := List.pairwise_append.mp hordered
  -- what is not told is what was not saved last
  have hothers : older.Perm (rs.rdrop limit).reverse := by
    refine (List.perm_append_left_iff (rs.rtake limit).reverse).mp ?_
    rw [reverse_rtake_append]
    exact hperm.trans (List.reverse_perm rs).symm
  refine ⟨List.pairwise_reverse.mp hlast, fun a ha b hb => ?_⟩
  exact hbefore b (List.mem_reverse.mpr hb) a (hothers.mem_iff.mpr (List.mem_reverse.mpr ha))

/-- The results saved last are the most recent ones exactly if they were saved in order. -/
theorem mostRecent_rtake_iff : MostRecent limit rs (rs.rtake limit).reverse ↔ LastInOrder limit rs :=
  ⟨MostRecent.lastInOrder, LastInOrder.mostRecent⟩

theorem mostRecent_take {all : List CheckResult} (h : NewestFirst CheckResult.checkedAt rs all) (limit : Nat) :
    MostRecent limit rs (all.take limit) := by
  refine ⟨by rw [List.length_take, h.perm.length_eq], all.drop limit, ?_⟩
  rwa [List.take_append_drop]

/-! ### The two stores -/

namespace Table

variable {ops : List Operation} {t : Table}

/-- The table tells the normal forms of the results that were saved, newest first. -/
theorem Holds.latestResults (h : Holds ops t) (id : Int64) :
    ∃ all, NewestFirst CheckResult.checkedAt (((saved ops).filter (·.endpointId = id)).map CheckResult.normal) all ∧
      ∀ limit, t.latestResults id limit = limited limit all := by
  let rs := (saved ops).filter (·.endpointId = id)
  let rows := t.results.filter fun r => r.endpointId = id
  have hrows : rows.reverse = rs.map .ofResult := by
    show (t.results.filter _).reverse = _
    rw [h.results, List.filter_reverse, List.reverse_reverse, List.filter_map]
    rfl
  have hnewest : NewestFirst CheckResult.checkedAt (rows.reverse.map ResultRow.toResult) _ :=
    (NewestFirst.of_mergeSort_millis ResultRow.checkedAt rows).map fun _ _ => rfl
  have hnormal : (rs.map ResultRow.ofResult).map ResultRow.toResult = rs.map CheckResult.normal := by
    rw [List.map_map]
    exact List.map_congr_left fun r _ => ResultRow.toResult_eq_normal r
  rw [hrows, hnormal] at hnewest
  exact ⟨_, hnewest, fun limit => map_limited _ limit _⟩

end Table

/-- What the stores tell of the results `saved` of an endpoint when they are asked for the latest ones. -/
structure TellsLatest (saved : List CheckResult) (limit : Nat) (table memory : Answer) : Prop where
  /-- The table tells the most recent ones in their normal forms. -/
  table : ∃ got, table = .results got ∧ MostRecent limit (saved.map CheckResult.normal) got
  /-- The normal form of a result is the result itself, if its time is one of whole milliseconds and the response time is
  one that a signed number can hold. -/
  exact : (∀ r ∈ saved, r.checkedAt.IsWhole ∧ r.responseTime.toNat < 2 ^ 63) → saved.map CheckResult.normal = saved
  /-- The store in memory tells the most recent ones only if the last ones are. -/
  memory : (∃ got, memory = .results got ∧ MostRecent limit saved got) ↔ LastInOrder limit saved

/-- Of an endpoint with no more results than the store in memory keeps, the table tells the most recent results, and the
store in memory does exactly if the last ones were saved in order. -/
theorem latestResults_mostRecent_iff (ops : List Operation) (id : Int64) (limit : UInt64)
    (hroom : ((saved ops).filter (·.endpointId = id)).length ≤ resultsPerEndpoint) :
    TellsLatest ((saved ops).filter (·.endpointId = id)) limit.toNat
      ((Table.after ops).step (.latestResults id limit)).1 ((Memory.after ops).step (.latestResults id limit)).1 where
  table := by
    obtain ⟨all, hall, htell⟩ := (Table.holds_after ops).latestResults id
    refine ⟨_, rfl, ?_⟩
    have hlt : all.length < 2 ^ 63 := by
      rw [hall.perm.length_eq, List.length_map]
      exact Nat.lt_of_le_of_lt hroom (by decide)
    rw [htell, limited_eq_take hlt]
    exact mostRecent_take hall limit.toNat
  exact h := (List.map_congr_left fun r hr => CheckResult.normal_eq_self (h r hr).2 (h r hr).1).trans (List.map_id _)
  memory := by
    let rs := (saved ops).filter (·.endpointId = id)
    have hmin : min (min limit.toNat resultsPerEndpoint) rs.length = min limit.toNat rs.length := by
      have : rs.length ≤ resultsPerEndpoint := hroom
      omega
    have htold : (rs.rtake (min limit.toNat resultsPerEndpoint)).reverse = (rs.rtake limit.toNat).reverse := by
      rw [List.rtake_eq_reverse_take_reverse, List.rtake_eq_reverse_take_reverse, List.reverse_reverse,
        List.reverse_reverse, List.take_eq_take_iff, List.length_reverse, hmin]
    rw [(Memory.KeepsNewest.of_run ops).answer_latestResults, htold]
    refine ⟨fun ⟨got, hgot, h⟩ => ?_, fun h => ⟨_, rfl, h.mostRecent⟩⟩
    injection hgot with hgot
    exact mostRecent_rtake_iff.mp (hgot ▸ h)

/-- Overlapping cycles save three results of an endpoint, and between them one of another endpoint. The last result is the
most recent one, but the one before it is not the next. -/
theorem latestResults_of_overlapping :
    let early : Instant := .ofMillis 1_000
    let late : Instant := .ofMillis 2_000
    let ops : List Operation := [.saveResult (.completed 1 10 200 late), .saveResult (.completed 1 20 200 early),
      .saveResult (.completed 2 30 200 early), .saveResult (.failed 1 (2 ^ 63) "timeout" late)]
    let saved := (saved ops).filter (·.endpointId = 1)
    (saved.length ≤ resultsPerEndpoint) ∧
      TellsLatest saved 1 ((Table.after ops).step (.latestResults 1 1)).1 ((Memory.after ops).step (.latestResults 1 1)).1 ∧
      TellsLatest saved 2 ((Table.after ops).step (.latestResults 1 2)).1 ((Memory.after ops).step (.latestResults 1 2)).1 ∧
      LastInOrder 1 saved ∧ ¬LastInOrder 2 saved := by
  intro early late ops saved
  have hroom : saved.length ≤ resultsPerEndpoint := by decide +kernel
  exact ⟨hroom, latestResults_mostRecent_iff ops 1 1 hroom, latestResults_mostRecent_iff ops 1 2 hroom,
    by decide +kernel, by decide +kernel⟩

/-- The store in memory tells a result that was saved last although it is the older one of two. -/
theorem not_mostRecent_of_late_save :
    let newer : CheckResult := .completed 1 1 200 (.ofMillis 2_000)
    let older : CheckResult := .completed 1 2 200 (.ofMillis 1_000)
    ((Memory.after [.saveResult newer, .saveResult older]).step (.latestResults 1 1)).1 = .results [older] ∧
      ¬MostRecent 1 [newer, older] [older] := by
  intro newer older
  refine ⟨by rfl, fun h => ?_⟩
  have hnot : ¬LastInOrder 1 [newer, older] := by decide +kernel
  exact hnot (mostRecent_rtake_iff.mp h)

end EndpointWatch.Storage
