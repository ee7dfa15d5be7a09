/-!
# Finite maps in key order

A `Dict` is a list of entries in strictly increasing key order, so two dicts with the same look-ups are
equal, and `toList` is the order in which they are written. Main statements: `get?_insert`, `get?_erase`
and `ext_get?`.
-/

namespace EndpointWatch

variable {κ ν μ : Type} [Ord κ]

/-- Entries in strictly increasing key order. -/
structure Dict (κ ν : Type) [Ord κ] where
  toList : List (κ × ν)
  sorted : toList.Pairwise fun a b => compare a.1 b.1 = .lt

namespace Dict

theorem ext_toList {d e : Dict κ ν} (h : d.toList = e.toList) : d = e := by
  cases d; cases e; simp_all

/-! ### On lists of entries -/

/-- The value beside the first entry with this key. -/
def find? (k : κ) : List (κ × ν) → Option ν
  | [] => none
  | (k', v) :: rest => if compare k k' = .eq then some v else find? k rest

/-- Puts an entry in its place, over one with the same key. -/
def place (k : κ) (v : ν) : List (κ × ν) → List (κ × ν)
  | [] => [(k, v)]
  | (k', v') :: rest =>
    match compare k k' with
    | .lt => (k, v) :: (k', v') :: rest
    | .eq => (k, v) :: rest
    | .gt => (k', v') :: place k v rest

theorem mem_place {k : κ} {v : ν} {l : List (κ × ν)} {e : κ × ν} (h : e ∈ place k v l) :
    e = (k, v) ∨ e ∈ l := by
  induction l with
  | nil => simpa [place] using h
  | cons a l ih =>
    simp only [place] at h
    split at h <;> grind

theorem find?_eq_none {k : κ} {l : List (κ × ν)} (h : ∀ e ∈ l, compare k e.1 = .lt) :
    find? k l = none := by
  induction l with
  | nil => rfl
  | cons a l ih =>
    have ha := h a (List.mem_cons_self ..)
    simp [find?, ha, ih fun e he => h e (List.mem_cons_of_mem _ he)]

variable [Std.LawfulEqOrd κ]

theorem find?_place (k j : κ) (v : ν) (l : List (κ × ν)) :
    find? j (place k v l) = if compare j k = .eq then some v else find? j l := by
  induction l with
  | nil => simp [place, find?]
  | cons a l ih =>
    obtain ⟨k', v'⟩ := a
    simp only [place]
    split
    case h_1 => simp [find?]
    case h_2 heq => rw [Std.LawfulEqCmp.eq_of_compare heq]; simp only [find?]; split <;> rfl
    case h_3 hgt =>
      simp only [find?, ih]
      by_cases hj : compare j k' = .eq
      · have := Std.LawfulEqCmp.eq_of_compare hj
        subst this
        have : compare j k ≠ .eq := fun h => by
          have := Std.LawfulEqCmp.eq_of_compare h
          subst this
          simp at hgt
        simp [this]
      · simp [hj]

theorem mem_of_find? {k : κ} {v : ν} {l : List (κ × ν)} (h : find? k l = some v) : (k, v) ∈ l := by
  induction l with
  | nil => simp [find?] at h
  | cons a l ih =>
    obtain ⟨k', v'⟩ := a
    simp only [find?] at h
    split at h
    · next heq =>
      rw [Std.LawfulEqCmp.eq_of_compare heq]
      simp_all
    · exact List.mem_cons_of_mem _ (ih h)

variable [Std.TransOrd κ]

theorem sorted_place (k : κ) (v : ν) {l : List (κ × ν)}
    (h : l.Pairwise fun a b => compare a.1 b.1 = .lt) :
    (place k v l).Pairwise fun a b => compare a.1 b.1 = .lt := by
  induction l with
  | nil => simp [place]
  | cons a l ih =>
    rw [List.pairwise_cons] at h
    simp only [place]
    split
    case h_1 hlt =>
      refine List.pairwise_cons.mpr ⟨fun e he => ?_, List.pairwise_cons.mpr h⟩
      rcases List.mem_cons.mp he with rfl | he
      · exact hlt
      · exact Std.TransCmp.lt_trans hlt (h.1 e he)
    case h_2 heq =>
      rw [Std.LawfulEqCmp.eq_of_compare heq]
      exact List.pairwise_cons.mpr ⟨fun e he => h.1 e he, h.2⟩
    case h_3 hgt =>
      refine List.pairwise_cons.mpr ⟨fun e he => ?_, ih h.2⟩
      rcases mem_place he with rfl | he
      · exact Std.OrientedCmp.gt_iff_lt.mp hgt
      · exact h.1 e he

theorem find?_of_mem {k : κ} {v : ν} {l : List (κ × ν)}
    (hs : l.Pairwise fun a b => compare a.1 b.1 = .lt) (h : (k, v) ∈ l) : find? k l = some v := by
  induction l with
  | nil => simp at h
  | cons a l ih =>
    rw [List.pairwise_cons] at hs
    rcases List.mem_cons.mp h with rfl | h
    · simp [find?]
    · have : compare a.1 k = .lt := hs.1 _ h
      have : compare k a.1 = .gt := Std.OrientedCmp.gt_iff_lt.mpr this
      simp [find?, this, ih hs.2 h]

theorem ext_find? {l m : List (κ × ν)} (hl : l.Pairwise fun a b => compare a.1 b.1 = .lt)
    (hm : m.Pairwise fun a b => compare a.1 b.1 = .lt) (h : ∀ k, find? k l = find? k m) : l = m := by
  induction l generalizing m with
  | nil =>
    cases m with
    | nil => rfl
    | cons b m => have := h b.1; simp [find?] at this
  | cons a l ih =>
    rw [List.pairwise_cons] at hl
    cases m with
    | nil => have := h a.1; simp [find?] at this
    | cons b m =>
      rw [List.pairwise_cons] at hm
      have hab : a.1 = b.1 := by
        have h1 := h a.1
        have h2 := h b.1
        simp only [find?, Std.ReflCmp.compare_self, if_true] at h1 h2
        rcases hc : compare a.1 b.1 with _ | _ | _
        · rw [hc] at h1
          have := find?_eq_none (ν := ν) fun e he => Std.TransCmp.lt_trans hc (hm.1 e he)
          simp [this] at h1
        · exact Std.LawfulEqCmp.eq_of_compare hc
        · have hc' : compare b.1 a.1 = .lt := Std.OrientedCmp.gt_iff_lt.mp hc
          rw [hc'] at h2
          have := find?_eq_none (ν := ν) fun e he => Std.TransCmp.lt_trans hc' (hl.1 e he)
          simp [this] at h2
      have hv : a.2 = b.2 := by
        have := h a.1
        simp only [find?, Std.ReflCmp.compare_self, if_true, hab] at this
        simpa using this
      have hlm : l = m := ih hl.2 hm.2 fun k => by
        by_cases hk : compare k a.1 = .eq
        · have hk := Std.LawfulEqCmp.eq_of_compare hk
          subst hk
          rw [find?_eq_none hl.1, find?_eq_none (by rw [hab]; exact hm.1)]
        · have := h k
          simpa [find?, hk, hab ▸ hk] using this
      rw [hlm, show a = b from Prod.ext hab hv]

/-! ### Dicts -/

def empty : Dict κ ν := ⟨[], .nil⟩

instance : EmptyCollection (Dict κ ν) := ⟨empty⟩
instance : Inhabited (Dict κ ν) := ⟨empty⟩

instance [DecidableEq κ] [DecidableEq ν] : DecidableEq (Dict κ ν)
  | ⟨l, _⟩, ⟨m, _⟩ => if h : l = m then isTrue (by subst h; rfl) else isFalse fun e => h (by cases e; rfl)

def get? (d : Dict κ ν) (k : κ) : Option ν := find? k d.toList

def contains (d : Dict κ ν) (k : κ) : Bool := (d.get? k).isSome

def insert (d : Dict κ ν) (k : κ) (v : ν) : Dict κ ν := ⟨place k v d.toList, sorted_place k v d.sorted⟩

def filter (p : κ → ν → Bool) (d : Dict κ ν) : Dict κ ν :=
  ⟨d.toList.filter fun e => p e.1 e.2, d.sorted.filter _⟩

/-- Changes the values and drops the keys without a new one. -/
def filterMap (f : κ → ν → Option μ) (d : Dict κ ν) : Dict κ μ :=
  ⟨d.toList.filterMap fun e => (f e.1 e.2).map (Prod.mk e.1), d.sorted.filterMap _ fun a b hab c hc e he => by
    obtain ⟨v, _, rfl⟩ := Option.map_eq_some_iff.mp hc
    obtain ⟨w, _, rfl⟩ := Option.map_eq_some_iff.mp he
    exact hab⟩

def erase (d : Dict κ ν) (k : κ) : Dict κ ν := d.filter fun k' _ => compare k k' != .eq

/-- Changes the values and keeps the keys. -/
def mapValues (f : ν → μ) (d : Dict κ ν) : Dict κ μ :=
  ⟨d.toList.map fun e => (e.1, f e.2), List.pairwise_map.mpr d.sorted⟩

/-- Sets entries one after the other, so the last one of a key stays. -/
def ofList (l : List (κ × ν)) : Dict κ ν := l.foldl (fun d e => d.insert e.1 e.2) empty

def keys (d : Dict κ ν) : List κ := d.toList.map Prod.fst

def values (d : Dict κ ν) : List ν := d.toList.map Prod.snd

def size (d : Dict κ ν) : Nat := d.toList.length

theorem ext_get? {d e : Dict κ ν} (h : ∀ k, d.get? k = e.get? k) : d = e :=
  ext_toList (ext_find? d.sorted e.sorted h)

omit [Std.LawfulEqOrd κ] [Std.TransOrd κ] in
@[simp] theorem get?_empty (k : κ) : (empty : Dict κ ν).get? k = none := rfl

theorem get?_insert (d : Dict κ ν) (k j : κ) (v : ν) :
    (d.insert k v).get? j = if compare j k = .eq then some v else d.get? j :=
  find?_place k j v d.toList

@[simp] theorem get?_insert_self (d : Dict κ ν) (k : κ) (v : ν) : (d.insert k v).get? k = some v := by
  simp [get?_insert]

theorem mem_toList_iff {d : Dict κ ν} {k : κ} {v : ν} : (k, v) ∈ d.toList ↔ d.get? k = some v :=
  ⟨find?_of_mem d.sorted, mem_of_find?⟩

theorem get?_filter (d : Dict κ ν) (p : κ → ν → Bool) (k : κ) :
    (d.filter p).get? k = (d.get? k).filter (p k) := by
  apply Option.ext
  intro v
  rw [← mem_toList_iff, Option.filter_eq_some_iff, ← mem_toList_iff]
  simp [filter]

theorem get?_erase (d : Dict κ ν) (k j : κ) :
    (d.erase k).get? j = if compare k j = .eq then none else d.get? j := by
  rw [erase, get?_filter]
  by_cases h : compare k j = .eq
  · simp [h]
  · have h' : (compare k j != .eq) = true := by simpa using h
    simp only [h, h', if_false]
    cases d.get? j <;> rfl

end Dict

end EndpointWatch
