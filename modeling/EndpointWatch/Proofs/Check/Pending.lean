import EndpointWatch.Check.Session
import EndpointWatch.Proofs.Dict

/-!
# Checks that have not handed in

`pending n` are the endpoints of the checks that are under way on behalf of cycle `n`. A check that goes on keeps its
cycle and its endpoint; it leaves only when it hands in, and new ones come only by being spawned.
-/

namespace EndpointWatch

theorem CheckOutcome.endpointId_result (o : CheckOutcome) (e : Endpoint) (i : Instant) :
    (o.result e i).endpointId = e.id := by
  cases o <;> rfl

namespace Checker.Session

variable {s t : Session} {n j : Nat}

/-- The endpoint of a check, if it is on behalf of cycle `n`. -/
def endpointIn? (n : Nat) (k : Check) : Option Endpoint := if k.cycle = n then some k.endpoint else none

/-- The endpoints of cycle `n` whose checks are under way. -/
def pending (n : Nat) (s : Session) : List Endpoint := s.underWay.values.filterMap (endpointIn? n)

/-- The numbers of the checks under way have been given out. -/
def Numbered (s : Session) : Prop := ∀ i k, s.underWay.get? i = some k → i < s.nextCheck

/-- Check `n` is under way in `s`, and `t` differs from `s` by the stage it is at and by the breakers. -/
def GoesOn (n : Nat) (s t : Session) : Prop :=
  ∃ k stage, s.underWay.get? n = some k ∧ t.underWay = s.underWay.insert n { k with stage } ∧
    t.nextCheck = s.nextCheck ∧ t.now = s.now

theorem goesOn_of_arrive? (h : s.arrive? n = some t) : GoesOn n s t := by
  unfold arrive? at h
  split at h
  · next k hk =>
    split at h
    · generalize s.checker.arrive k.endpoint s.now = p at h
      obtain ⟨_ | _, checker⟩ := p
      · cases h; exact ⟨k, _, hk, rfl, rfl, rfl⟩
      · cases h; exact ⟨k, _, hk, rfl, rfl, rfl⟩
    · cases h
    · cases h
  · cases h

theorem goesOn_of_probed? {r : Except ProbeError Answered} (h : s.probed? n r = some t) : GoesOn n s t := by
  unfold probed? at h
  split at h
  · next k hk =>
    split at h
    · split at h
      · cases h
      · cases h
        split
        · exact ⟨k, _, hk, rfl, rfl, rfl⟩
        · split
          · exact ⟨k, _, hk, rfl, rfl, rfl⟩
          · exact ⟨k, _, hk, rfl, rfl, rfl⟩
    · cases h
    · cases h
  · cases h

theorem handIn?_eq_some {k : Check} {o : CheckOutcome} {ended : Nat} (h : s.handIn? n = some ((k, o, ended), t)) :
    s.underWay.get? n = some k ∧ t = { s with underWay := s.underWay.erase n } := by
  unfold handIn? at h
  split at h
  · next k' hk =>
    split at h
    · cases h; exact ⟨hk, rfl⟩
    · cases h
    · cases h
  · cases h

namespace GoesOn

theorem pending_perm (h : GoesOn n s t) (j : Nat) : (t.pending j).Perm (s.pending j) := by
  obtain ⟨k, stage, hk, ht, -⟩ := h
  have hs : (s.pending j).Perm ((k :: (s.underWay.erase n).values).filterMap (endpointIn? j)) :=
    (Dict.values_perm_of_get? hk).filterMap _
  have ht' : (t.pending j).Perm (({ k with stage } :: (s.underWay.erase n).values).filterMap (endpointIn? j)) := by
    rw [pending, ht]
    exact (Dict.values_insert_perm ..).filterMap _
  exact ht'.trans hs.symm

theorem get?_eq_some (h : GoesOn n s t) {i : Nat} {k : Check} (hk : t.underWay.get? i = some k) :
    ∃ k', s.underWay.get? i = some k' ∧ k'.cycle = k.cycle := by
  obtain ⟨k₀, stage, hk₀, ht, -⟩ := h
  rw [ht] at hk
  by_cases hi : i = n
  · subst hi
    rw [Dict.get?_insert_self, Option.some.injEq] at hk
    exact ⟨k₀, hk₀, by rw [← hk]⟩
  · rw [Dict.get?_insert_of_ne hi] at hk
    exact ⟨k, hk, rfl⟩

end GoesOn

theorem pending_eq_nil (h : ∀ i k, s.underWay.get? i = some k → k.cycle ≠ n) : s.pending n = [] := by
  refine List.filterMap_eq_nil_iff.mpr fun k hk => ?_
  obtain ⟨⟨i, k⟩, hi, rfl⟩ := List.mem_map.mp hk
  exact if_neg (h i k (Dict.mem_toList_iff.mp hi))

theorem ne_of_pending_eq_nil (h : s.pending n = []) {i : Nat} {k : Check} (hk : s.underWay.get? i = some k) :
    k.cycle ≠ n := by
  intro hn
  have hnone := List.filterMap_eq_nil_iff.mp h k (Dict.mem_values_iff.mpr ⟨i, hk⟩)
  rw [endpointIn?, if_pos hn] at hnone
  cases hnone

/-- Handing in takes the check's endpoint out of what its cycle waits for. -/
theorem pending_perm_of_handIn? {k : Check} {o : CheckOutcome} {ended : Nat}
    (h : s.handIn? n = some ((k, o, ended), t)) (j : Nat) :
    (s.pending j).Perm (if k.cycle = j then k.endpoint :: t.pending j else t.pending j) := by
  obtain ⟨hk, rfl⟩ := handIn?_eq_some h
  have hp : (s.pending j).Perm ((k :: (s.underWay.erase n).values).filterMap (endpointIn? j)) :=
    (Dict.values_perm_of_get? hk).filterMap _
  refine hp.trans (List.Perm.of_eq ?_)
  rw [List.filterMap_cons, endpointIn?]
  split <;> split <;> simp_all [pending]

/-! ### Spawning -/

theorem Numbered.spawn (h : s.Numbered) (e : Endpoint) : (s.spawn n e).Numbered := by
  intro i k hk
  by_cases hi : i = s.nextCheck
  · exact hi ▸ Nat.lt_succ_self _
  · exact Nat.lt_succ_of_lt (h i k ((Dict.get?_insert_of_ne hi).symm.trans hk))

theorem pending_spawn (h : s.Numbered) (e : Endpoint) (j : Nat) :
    ((s.spawn n e).pending j).Perm (if n = j then e :: s.pending j else s.pending j) := by
  have hnew : s.underWay.get? s.nextCheck = none := by
    rcases hg : s.underWay.get? s.nextCheck with _ | k
    · rfl
    · exact absurd (h _ k hg) (Nat.lt_irrefl _)
  refine ((Dict.values_insert_perm_of_get?_eq_none hnew).filterMap _).trans (List.Perm.of_eq ?_)
  rw [List.filterMap_cons, endpointIn?]
  split <;> split <;> simp_all [pending]

/-- Puts a check of each endpoint on its way. -/
def spawnAll (n : Nat) (es : List Endpoint) (s : Session) : Session := es.foldl (fun s e => s.spawn n e) s

theorem Numbered.spawnAll (h : s.Numbered) (es : List Endpoint) : (s.spawnAll n es).Numbered := by
  induction es generalizing s with
  | nil => exact h
  | cons e es ih => exact ih (h.spawn e)

theorem pending_spawnAll (h : s.Numbered) (es : List Endpoint) (j : Nat) :
    ((s.spawnAll n es).pending j).Perm (if n = j then es ++ s.pending j else s.pending j) := by
  induction es generalizing s with
  | nil => split <;> exact .refl _
  | cons e es ih =>
    have hs := pending_spawn (n := n) h e j
    have hr := ih (h.spawn (n := n) e)
    split at hs
    · next hj =>
      rw [if_pos hj] at hr ⊢
      exact hr.trans ((hs.append_left es).trans List.perm_middle)
    · next hj =>
      rw [if_neg hj] at hr ⊢
      exact hr.trans hs

theorem checker_spawnAll (es : List Endpoint) : (s.spawnAll n es).checker = s.checker := by
  induction es generalizing s with
  | nil => rfl
  | cons e es ih => exact ih

theorem now_spawnAll (es : List Endpoint) : (s.spawnAll n es).now = s.now := by
  induction es generalizing s with
  | nil => rfl
  | cons e es ih => exact ih

/-- A check that is under way after spawning has just been spawned, or was under way before. -/
theorem eq_or_get?_of_spawnAll (es : List Endpoint) {i : Nat} {k : Check}
    (hk : (s.spawnAll n es).underWay.get? i = some k) :
    (∃ e ∈ es, k = ⟨n, e, .spawned⟩) ∨ s.underWay.get? i = some k := by
  induction es generalizing s with
  | nil => exact .inr hk
  | cons e es ih =>
    rcases ih hk with ⟨e', he, rfl⟩ | hk
    · exact .inl ⟨e', List.mem_cons_of_mem _ he, rfl⟩
    · exact (Dict.eq_some_of_get?_insert hk).imp (fun ⟨_, hk⟩ => ⟨e, List.mem_cons_self, hk⟩) And.right

theorem get?_spawnAll (h : s.Numbered) (es : List Endpoint) {i : Nat} {k : Check} (hk : s.underWay.get? i = some k) :
    (s.spawnAll n es).underWay.get? i = some k := by
  induction es generalizing s with
  | nil => exact hk
  | cons e es ih => exact ih (h.spawn e) ((Dict.get?_insert_of_ne (Nat.ne_of_lt (h i k hk))).trans hk)

/-- Every endpoint has a check on its way after spawning. -/
theorem exists_of_spawnAll (h : s.Numbered) {es : List Endpoint} {e : Endpoint} (he : e ∈ es) :
    ∃ i, (s.spawnAll n es).underWay.get? i = some ⟨n, e, .spawned⟩ := by
  induction es generalizing s with
  | nil => cases he
  | cons e' es ih =>
    rcases List.mem_cons.mp he with rfl | he
    · exact ⟨s.nextCheck, get?_spawnAll (h.spawn e) es (Dict.get?_insert_self ..)⟩
    · exact ih (h.spawn e') he

/-- The checks under way after spawning are on behalf of the spawning cycle, or were under way before. -/
theorem cycle_of_spawnAll (es : List Endpoint) {i : Nat} {k : Check} (hk : (s.spawnAll n es).underWay.get? i = some k) :
    k.cycle = n ∨ s.underWay.get? i = some k := by
  refine (eq_or_get?_of_spawnAll es hk).imp_left ?_
  rintro ⟨e, -, rfl⟩
  rfl

end Checker.Session

end EndpointWatch
