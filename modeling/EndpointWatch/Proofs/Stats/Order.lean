import EndpointWatch.Proofs.Stats.Double

/-!
# Aggregates do not depend on order

The count and the range of some values are the same in any order (`ofValues_perm`), as long as the values are plain. The
mean and the deviation are not, since each sum of doubles is rounded.
-/

namespace EndpointWatch

namespace Aggregate

theorem name_ofValues (name : String) (xs : List Float) : (ofValues name xs).name = name := by
  unfold ofValues
  split <;> rfl

theorem ofValues_perm {xs ys : List Float} (h : xs.Perm ys) (hxs : ∀ x ∈ xs, Double.IsPlain x) (name : String) :
    (ofValues name xs).count = (ofValues name ys).count ∧ (ofValues name xs).minimum? = (ofValues name ys).minimum? ∧
      (ofValues name xs).maximum? = (ofValues name ys).maximum? := by
  rcases xs with _ | ⟨x, xs⟩
  · obtain rfl := h.nil_eq
    exact ⟨rfl, rfl, rfl⟩
  · rcases ys with _ | ⟨y, ys⟩
    · exact absurd h.eq_nil nofun
    · exact ⟨h.length_eq, congrArg some (Double.foldl_lesser_perm h hxs _),
        congrArg some (Double.foldl_greater_perm h hxs _)⟩

end Aggregate

end EndpointWatch
