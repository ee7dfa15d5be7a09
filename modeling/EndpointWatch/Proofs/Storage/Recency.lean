import EndpointWatch.Proofs.Instant
import Mathlib.Data.List.Perm.Basic
import Mathlib.Data.List.Sort

/-!
# Newest first

Items that were saved one after the other are told newest first if later times come first and, of the same time, items
that were saved later (`NewestFirst`). A stable sort of the items, those saved last in front, does so
(`NewestFirst.of_mergeSort`).
-/

namespace EndpointWatch

variable {α β : Type} {time : α → Instant} {saved got : List α}

/-- The items `got` are those of `saved`, later times first, and those of the same time in the reverse order of saving. -/
structure NewestFirst (time : α → Instant) (saved got : List α) : Prop where
  perm : got.Perm saved
  ordered : got.Pairwise fun a b => (time b).le (time a)
  ties : ∀ i, got.filter (time · = i) = (saved.filter (time · = i)).reverse

theorem Instant.le_ofMillis_iff {a b : Int} : (ofMillis a).le (ofMillis b) ↔ a ≤ b := by
  have hwhole (ms : Int) : (ofMillis ms).IsWhole := congrArg ofMillis (toMillis_ofMillis ms)
  rw [le_iff_toMillis (hwhole a) (hwhole b).regular, toMillis_ofMillis, toMillis_ofMillis]

theorem pairwise_mergeSort_time (time : α → Instant) (as : List α) :
    (as.mergeSort fun a b => (time b).le (time a)).Pairwise fun a b => (time b).le (time a) :=
  @List.pairwise_mergeSort α (fun a b => (time b).le (time a)) (fun _ _ _ hab hbc => Instant.le_trans hbc hab)
    (fun a b => (Bool.or_eq_true ..).mpr (Instant.le_total (time b) (time a))) as

/-- Sorting leaves items of one time in their order. -/
theorem filter_mergeSort_time (time : α → Instant) (as : List α) (i : Instant) :
    (as.mergeSort fun a b => (time b).le (time a)).filter (time · = i) = as.filter (time · = i) := by
  let same := as.filter (time · = i)
  have htime {a : α} (ha : a ∈ same) : time a = i := of_decide_eq_true (List.mem_filter.mp ha).2
  have hle : same.Pairwise fun a b => (time b).le (time a) :=
    List.pairwise_iff_forall_sublist.mpr fun hab => by
      have ha := htime (hab.subset (List.mem_cons_self ..))
      have hb := htime (hab.subset (List.mem_cons_of_mem _ (List.mem_cons_self ..)))
      rw [ha, hb]
      exact Instant.le_refl i
  have hsub : same.Sublist (as.mergeSort fun a b => (time b).le (time a)) :=
    @List.sublist_mergeSort α (fun a b => (time b).le (time a)) as (fun _ _ _ hab hbc => Instant.le_trans hbc hab)
      (fun a b => (Bool.or_eq_true ..).mpr (Instant.le_total (time b) (time a))) _ hle List.filter_sublist
  have hself : same.filter (time · = i) = same := List.filter_eq_self.mpr fun a ha => decide_eq_true (htime ha)
  have hkept := hsub.filter (time · = i)
  rw [hself] at hkept
  exact (hkept.eq_of_length ((List.mergeSort_perm ..).filter _).length_eq.symm).symm

namespace NewestFirst

theorem of_mergeSort (time : α → Instant) (saved : List α) :
    NewestFirst time saved (saved.reverse.mergeSort fun a b => (time b).le (time a)) where
  perm := (List.mergeSort_perm ..).trans (List.reverse_perm saved)
  ordered := pairwise_mergeSort_time time _
  ties i := by rw [filter_mergeSort_time, List.filter_reverse]

/-- The same for items with times in milliseconds, those saved last in front. -/
theorem of_mergeSort_millis (millis : α → Int) (as : List α) :
    NewestFirst (fun a => .ofMillis (millis a)) as.reverse (as.mergeSort fun a b => millis b ≤ millis a) := by
  have hle : (fun a b => decide (millis b ≤ millis a)) =
      fun a b => (Instant.ofMillis (millis b)).le (Instant.ofMillis (millis a)) := by
    funext a b
    exact Bool.eq_iff_iff.mpr (decide_eq_true_iff.trans Instant.le_ofMillis_iff.symm)
  have h := of_mergeSort (fun a => .ofMillis (millis a)) as.reverse
  rwa [List.reverse_reverse, ← hle] at h

/-- Records that have the times of the items are told as the items are. -/
theorem map {time' : β → Instant} {f : α → β} (h : NewestFirst time saved got)
    (hf : ∀ a ∈ saved, time' (f a) = time a) : NewestFirst time' (saved.map f) (got.map f) where
  perm := h.perm.map f
  ordered := by
    refine List.pairwise_map.mpr (h.ordered.imp_of_mem fun {a b} ha hb hab => ?_)
    rwa [hf a (h.perm.mem_iff.mp ha), hf b (h.perm.mem_iff.mp hb)]
  ties i := by
    have hfilter (as : List α) (has : as ⊆ saved) : (as.map f).filter (time' · = i) = (as.filter (time · = i)).map f := by
      rw [List.filter_map]
      exact congrArg _ (List.filter_congr fun a ha => by rw [Function.comp_apply, hf a (has ha)])
    rw [hfilter got h.perm.subset, hfilter saved (List.Subset.refl saved), h.ties, List.map_reverse]

/-- What was told of the items before can stand for them, in the reverse order. -/
theorem of_told {later told : List α} (h : NewestFirst time (saved ++ later) got) (htold : NewestFirst time saved told) :
    NewestFirst time (told.reverse ++ later) got where
  perm := h.perm.trans (((List.reverse_perm told).trans htold.perm).symm.append_right later)
  ordered := h.ordered
  ties i := by
    have hsaved : told.reverse.filter (time · = i) = saved.filter (time · = i) := by
      rw [List.filter_reverse, htold.ties, List.reverse_reverse]
    rw [h.ties, List.filter_append, List.filter_append, hsaved]

end NewestFirst

end EndpointWatch
