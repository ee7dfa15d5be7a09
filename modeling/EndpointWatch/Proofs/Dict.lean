import EndpointWatch.Dict
import Mathlib.Algebra.GroupWithZero.Nat

/-!
# The entries of a dict

What setting and dropping a key do to the entries of a dict, in any order: `toList_insert_perm` and
`toList_perm_of_get?`. So what is counted or collected over all values of a dict follows its changes. Entries set one
after the other give each key one of its values (`get?_foldl_insert`).
-/

namespace EndpointWatch.Dict

variable {κ ν μ : Type} [Ord κ] {d : Dict κ ν} {k j : κ} {v w : ν}

theorem values_mapValues (f : ν → μ) (d : Dict κ ν) : (d.mapValues f).values = d.values.map f := by
  simp [values, mapValues]

theorem keys_mapValues (f : ν → μ) (d : Dict κ ν) : (d.mapValues f).keys = d.keys := by
  simp [keys, mapValues]

theorem place_of_lt [Std.TransOrd κ] {l : List (κ × ν)} (h : ∀ e ∈ l, compare e.1 k = .lt) :
    place k v l = l ++ [(k, v)] := by
  induction l with
  | nil => rfl
  | cons e l ih =>
    have hgt : compare k e.1 = .gt := Std.OrientedCmp.gt_iff_lt.mpr (h e (List.mem_cons_self ..))
    obtain ⟨k', v'⟩ := e
    rw [place, hgt]
    exact congrArg _ (ih fun e he => h e (List.mem_cons_of_mem _ he))

variable [Std.LawfulEqOrd κ]

theorem nodup_toList (d : Dict κ ν) : d.toList.Nodup :=
  d.sorted.imp fun {a b} hab he => by
    subst he
    simp at hab

theorem nodup_keys (d : Dict κ ν) : d.keys.Nodup :=
  List.pairwise_map.mpr <| d.sorted.imp fun {a b} hab he => by
    rw [he] at hab
    simp at hab

variable [Std.TransOrd κ]

theorem get?_insert_of_ne (h : j ≠ k) : (d.insert k v).get? j = d.get? j := by
  rw [get?_insert, if_neg fun hc => h (Std.compare_eq_iff_eq.mp hc)]

@[simp] theorem get?_erase_self : (d.erase k).get? k = none := by
  rw [get?_erase, if_pos Std.ReflCmp.compare_self]

theorem get?_erase_of_ne (h : j ≠ k) : (d.erase k).get? j = d.get? j := by
  rw [get?_erase, if_neg fun hc => h (Std.compare_eq_iff_eq.mp hc).symm]

/-- What is found after an insertion is what was inserted, or was there before. -/
theorem eq_some_of_get?_insert (h : (d.insert k v).get? j = some w) : j = k ∧ w = v ∨ j ≠ k ∧ d.get? j = some w := by
  by_cases hj : j = k
  · subst hj
    rw [get?_insert_self] at h
    exact .inl ⟨rfl, (Option.some.inj h).symm⟩
  · rw [get?_insert_of_ne hj] at h
    exact .inr ⟨hj, h⟩

theorem eq_some_of_get?_erase (h : (d.erase k).get? j = some v) : j ≠ k ∧ d.get? j = some v := by
  by_cases hj : j = k
  · rw [hj, get?_erase_self] at h
    cases h
  · rw [get?_erase_of_ne hj] at h
    exact ⟨hj, h⟩

theorem insert_of_get? (h : d.get? k = some v) : d.insert k v = d := by
  refine ext_get? fun j => ?_
  by_cases hj : j = k
  · rw [hj, get?_insert_self, h]
  · exact get?_insert_of_ne hj

theorem insert_insert (d : Dict κ ν) (k : κ) (v w : ν) : (d.insert k v).insert k w = d.insert k w := by
  refine ext_get? fun j => ?_
  by_cases hj : j = k
  · rw [hj, get?_insert_self, get?_insert_self]
  · rw [get?_insert_of_ne hj, get?_insert_of_ne hj, get?_insert_of_ne hj]

theorem erase_of_get?_eq_none (h : d.get? k = none) : d.erase k = d := by
  refine ext_get? fun j => ?_
  by_cases hj : j = k
  · rw [hj, get?_erase_self, h]
  · exact get?_erase_of_ne hj

/-- The entries after a key is set: the new one, and those of the other keys. -/
theorem toList_insert_perm (d : Dict κ ν) (k : κ) (v : ν) :
    (d.insert k v).toList.Perm ((k, v) :: (d.erase k).toList) := by
  have hnew : (k, v) ∉ (d.erase k).toList := by
    rw [mem_toList_iff, get?_erase_self]
    exact nofun
  refine (List.perm_ext_iff_of_nodup (nodup_toList _) (List.nodup_cons.mpr ⟨hnew, nodup_toList _⟩)).mpr ?_
  rintro ⟨j, w⟩
  rw [List.mem_cons, mem_toList_iff, mem_toList_iff, Prod.mk.injEq]
  by_cases hj : j = k
  · subst hj
    rw [get?_insert_self, get?_erase_self, Option.some.injEq]
    exact ⟨fun h => .inl ⟨rfl, h.symm⟩, fun h => h.elim (·.2.symm) nofun⟩
  · rw [get?_insert_of_ne hj, get?_erase_of_ne hj]
    exact ⟨.inr, fun h => h.elim (fun h => absurd h.1 hj) id⟩

/-- The entries of a dict that knows a key: that of the key, and those of the others. -/
theorem toList_perm_of_get? (h : d.get? k = some v) : d.toList.Perm ((k, v) :: (d.erase k).toList) := by
  have := toList_insert_perm d k v
  rwa [insert_of_get? h] at this

theorem values_insert_perm (d : Dict κ ν) (k : κ) (v : ν) : (d.insert k v).values.Perm (v :: (d.erase k).values) :=
  (toList_insert_perm d k v).map Prod.snd

theorem values_perm_of_get? (h : d.get? k = some v) : d.values.Perm (v :: (d.erase k).values) :=
  (toList_perm_of_get? h).map Prod.snd

theorem values_insert_perm_of_get?_eq_none (h : d.get? k = none) : (d.insert k v).values.Perm (v :: d.values) := by
  have := values_insert_perm d k v
  rwa [erase_of_get?_eq_none h] at this

/-- A sum over the values after the value of a known key is changed. -/
theorem sum_values_insert (f : ν → Nat) (h : d.get? k = some v) (w : ν) :
    ((d.insert k w).values.map f).sum + f v = (d.values.map f).sum + f w := by
  rw [((values_insert_perm d k w).map f).sum_nat, ((values_perm_of_get? h).map f).sum_nat, List.map_cons,
    List.map_cons, List.sum_cons, List.sum_cons]
  omega

/-! ### Changed values -/

theorem get?_mapValues (f : ν → μ) (d : Dict κ ν) (k : κ) : (d.mapValues f).get? k = (d.get? k).map f := by
  refine Option.ext fun w => ?_
  rw [← mem_toList_iff, Option.map_eq_some_iff]
  simp only [mapValues, List.mem_map, Prod.mk.injEq, Prod.exists, ← mem_toList_iff]
  constructor
  · rintro ⟨_, v, hv, rfl, rfl⟩
    exact ⟨v, hv, rfl⟩
  · rintro ⟨v, hv, rfl⟩
    exact ⟨k, v, hv, rfl, rfl⟩

theorem get?_filterMap (f : κ → ν → Option μ) (d : Dict κ ν) (k : κ) :
    (d.filterMap f).get? k = (d.get? k).bind (f k) := by
  refine Option.ext fun w => ?_
  rw [← mem_toList_iff, Option.bind_eq_some_iff]
  simp only [filterMap, List.mem_filterMap, Option.map_eq_some_iff, Prod.mk.injEq, Prod.exists, ← mem_toList_iff]
  constructor
  · rintro ⟨_, v, hv, _, hw, rfl, rfl⟩
    exact ⟨v, hv, hw⟩
  · rintro ⟨v, hv, hw⟩
    exact ⟨k, v, hv, w, hw, rfl, rfl⟩

theorem insert_mapValues (f : ν → μ) (d : Dict κ ν) (k : κ) (v : ν) :
    (d.mapValues f).insert k (f v) = (d.insert k v).mapValues f := by
  refine ext_get? fun j => ?_
  rw [get?_mapValues]
  by_cases hj : j = k
  · rw [hj, get?_insert_self, get?_insert_self]; rfl
  · rw [get?_insert_of_ne hj, get?_insert_of_ne hj, get?_mapValues]

theorem keys_insert_of_get? (h : d.get? k = some v) (w : ν) : (d.insert k w).keys = d.keys := by
  have hunit : (d.insert k w).mapValues (fun _ => ()) = d.mapValues fun _ => () := by
    refine ext_get? fun j => ?_
    rw [get?_mapValues, get?_mapValues]
    by_cases hj : j = k
    · rw [hj, get?_insert_self, h]
      rfl
    · rw [get?_insert_of_ne hj]
  rw [← keys_mapValues (fun _ => ()), hunit, keys_mapValues]

theorem mem_keys_iff : k ∈ d.keys ↔ (d.get? k).isSome := by
  simp only [keys, List.mem_map, Prod.exists, exists_and_right, exists_eq_right, mem_toList_iff,
    Option.isSome_iff_exists]

theorem mem_values_iff : v ∈ d.values ↔ ∃ k, d.get? k = some v := by
  simp only [values, List.mem_map, Prod.exists, exists_eq_right, mem_toList_iff]

/-! ### Entries in order -/

theorem toList_foldl_insert {l : List (κ × ν)} {d : Dict κ ν}
    (h : (d.toList ++ l).Pairwise fun a b => compare a.1 b.1 = .lt) :
    (l.foldl (fun d e => d.insert e.1 e.2) d).toList = d.toList ++ l := by
  induction l generalizing d with
  | nil => exact (List.append_nil _).symm
  | cons e l ih =>
    have hlt : ∀ a ∈ d.toList, compare a.1 e.1 = .lt := fun a ha =>
      (List.pairwise_append.mp h).2.2 a ha e (List.mem_cons_self ..)
    have hd : (d.insert e.1 e.2).toList = d.toList ++ [e] := place_of_lt hlt
    rw [List.foldl_cons, ih, hd, List.append_assoc, List.singleton_append]
    rwa [hd, List.append_assoc, List.singleton_append]

theorem ofList_toList (d : Dict κ ν) : ofList d.toList = d :=
  ext_toList (toList_foldl_insert (d := empty) d.sorted)

/-! ### Entries set one after the other -/

/-- A key has the value of one of its entries, or the value from before if there is none. -/
theorem get?_foldl_insert (l : List (κ × ν)) (d : Dict κ ν) (k : κ) :
    (∃ v, (k, v) ∈ l ∧ (l.foldl (fun d e => d.insert e.1 e.2) d).get? k = some v) ∨
      (∀ v, (k, v) ∉ l) ∧ (l.foldl (fun d e => d.insert e.1 e.2) d).get? k = d.get? k := by
  induction l generalizing d with
  | nil => exact .inr ⟨fun _ => List.not_mem_nil, rfl⟩
  | cons e l ih =>
    obtain ⟨j, w⟩ := e
    rcases ih (d.insert j w) with ⟨v, hv, h⟩ | ⟨hnot, h⟩
    · exact .inl ⟨v, List.mem_cons_of_mem _ hv, h⟩
    by_cases hk : k = j
    · subst hk
      exact .inl ⟨w, List.mem_cons_self, h.trans (get?_insert_self ..)⟩
    · refine .inr ⟨fun v hv => ?_, h.trans (get?_insert_of_ne hk)⟩
      exact (List.mem_cons.mp hv).elim (fun he => hk (congrArg Prod.fst he)) (hnot v)

/-- If its entries have one value only, a key has this value. -/
theorem get?_foldl_insert_of_mem {l : List (κ × ν)} (hv : (k, v) ∈ l) (hone : ∀ w, (k, w) ∈ l → w = v) (d : Dict κ ν) :
    (l.foldl (fun d e => d.insert e.1 e.2) d).get? k = some v := by
  rcases get?_foldl_insert l d k with ⟨w, hw, h⟩ | ⟨hnot, -⟩
  · exact hone w hw ▸ h
  · exact absurd hv (hnot v)

/-- A key that no entry has keeps its value. -/
theorem get?_foldl_insert_of_notMem {l : List (κ × ν)} (h : ∀ w, (k, w) ∉ l) (d : Dict κ ν) :
    (l.foldl (fun d e => d.insert e.1 e.2) d).get? k = d.get? k := by
  rcases get?_foldl_insert l d k with ⟨w, hw, -⟩ | ⟨-, h'⟩
  · exact absurd hw (h w)
  · exact h'

theorem mem_of_get?_ofList {l : List (κ × ν)} (h : (ofList l).get? k = some v) : (k, v) ∈ l := by
  rcases get?_foldl_insert l empty k with ⟨w, hw, h'⟩ | ⟨-, h'⟩
  · exact Option.some.inj (h'.symm.trans h) ▸ hw
  · cases h'.symm.trans h

theorem size_insert_of_get?_eq_none (h : d.get? k = none) : (d.insert k v).size = d.size + 1 := by
  have := (toList_insert_perm d k v).length_eq
  rwa [erase_of_get?_eq_none h] at this

/-- Entries with different keys of which a dict has none make it as much larger as there are of them. -/
theorem size_foldl_insert {l : List (κ × ν)} (hl : (l.map Prod.fst).Nodup) (h : ∀ e ∈ l, d.get? e.1 = none) :
    (l.foldl (fun d e => d.insert e.1 e.2) d).size = d.size + l.length := by
  induction l generalizing d with
  | nil => rfl
  | cons e l ih =>
    rw [List.map_cons, List.nodup_cons] at hl
    have hrest : ∀ a ∈ l, (d.insert e.1 e.2).get? a.1 = none := fun a ha => by
      have hne : a.1 ≠ e.1 := fun he => hl.1 (he ▸ List.mem_map_of_mem ha)
      rw [get?_insert_of_ne hne, h a (List.mem_cons_of_mem _ ha)]
    rw [List.foldl_cons, ih hl.2 hrest, size_insert_of_get?_eq_none (h e List.mem_cons_self), List.length_cons]
    omega

/-! ### A dict in another one -/

section Rekeyed

variable {ι : Type} [Ord ι] [Std.TransOrd ι] [Std.LawfulEqOrd ι] {f : ι → κ} {b : Dict κ ν} {d : Dict ι ν}

/-- The entries of a dict, each under a key that is made of its own. -/
def rekeyed (f : ι → κ) (d : Dict ι ν) : List (κ × ν) := d.toList.map fun e => (f e.1, e.2)

omit [Ord κ] [Std.LawfulEqOrd κ] [Std.TransOrd κ] in
theorem mem_rekeyed_iff {e : κ × ν} : e ∈ d.rekeyed f ↔ ∃ j, f j = e.1 ∧ d.get? j = some e.2 := by
  simp only [rekeyed, List.mem_map, Prod.exists, mem_toList_iff]
  constructor
  · rintro ⟨j, v, hv, rfl⟩
    exact ⟨j, rfl, hv⟩
  · rintro ⟨j, hj, hv⟩
    exact ⟨j, e.2, hv, Prod.ext hj rfl⟩

/-- Under keys of which the other dict has none the entries are found as they are in their own. -/
theorem get?_foldl_insert_rekeyed (hf : Function.Injective f) (hb : ∀ j, b.get? (f j) = none) (j : ι) :
    ((d.rekeyed f).foldl (fun b e => b.insert e.1 e.2) b).get? (f j) = d.get? j := by
  have hmem (w : ν) : (f j, w) ∈ d.rekeyed f ↔ d.get? j = some w :=
    mem_rekeyed_iff.trans ⟨fun ⟨_, hi, hw⟩ => hf hi ▸ hw, fun hw => ⟨j, rfl, hw⟩⟩
  cases hj : d.get? j with
  | none =>
    rw [get?_foldl_insert_of_notMem fun w hw => ?_, hb]
    rw [hmem, hj] at hw
    cases hw
  | some v =>
    refine get?_foldl_insert_of_mem ((hmem v).mpr hj) (fun w hw => ?_) b
    rw [hmem, hj] at hw
    exact (Option.some.inj hw).symm

/-- The other keys have the values that they had. -/
theorem get?_foldl_insert_rekeyed_of_ne (hk : ∀ j, f j ≠ k) :
    ((d.rekeyed f).foldl (fun b e => b.insert e.1 e.2) b).get? k = b.get? k :=
  get?_foldl_insert_of_notMem (fun _ hw => (mem_rekeyed_iff.mp hw).elim fun j hj => hk j hj.1) b

theorem size_foldl_insert_rekeyed (hf : Function.Injective f) (hb : ∀ j, b.get? (f j) = none) :
    ((d.rekeyed f).foldl (fun b e => b.insert e.1 e.2) b).size = b.size + d.size := by
  have hkeys : ((d.rekeyed f).map Prod.fst).Nodup := by
    rw [rekeyed, List.map_map]
    show (d.toList.map (f ∘ Prod.fst)).Nodup
    rw [← List.map_map]
    exact List.Pairwise.map f (fun _ _ hne he => hne (hf he)) d.nodup_keys
  have hnew : ∀ e ∈ d.rekeyed f, b.get? e.1 = none := fun e he => by
    obtain ⟨j, hj, -⟩ := mem_rekeyed_iff.mp he
    rw [← hj, hb]
  rw [size_foldl_insert hkeys hnew, rekeyed, List.length_map]
  rfl

end Rekeyed

end EndpointWatch.Dict
