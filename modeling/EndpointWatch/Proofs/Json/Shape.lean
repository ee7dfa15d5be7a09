import EndpointWatch.Json.Shape
import EndpointWatch.Proofs.Json.Value

/-!
# Reading records back

A record of any shape is read back from the object that has a text for each member (`Shape.document_writeObject`). While
the object is read the slots hold the members that came so far (`Members.known`), each taken by the reader of its own
name.
-/

namespace EndpointWatch.Json

namespace Members

def names : {αs : List Type} → Members αs → List String
  | _, nil => []
  | _, cons m rest => m.name :: rest.names

/-- The object has a text for each member in order, under its name, and the member's reader takes the value off it. -/
def Written : {αs : List Type} → Members αs → Values αs → List (String × List Char) → Prop
  | _, nil, _, l => l = []
  | _, cons m rest, (a, as), l => ∃ text l', l = (m.name, text) :: l' ∧ Reads m.read text a ∧ rest.Written as l'

/-- The slots once the members of these names have been read. -/
def known : {αs : List Type} → Members αs → Values αs → List String → Slots αs
  | _, nil, _, _ => ()
  | _, cons m rest, (a, as), read => (if m.name ∈ read then some a else none, rest.known as read)

variable {αs : List Type} {ms : Members αs} {vs : Values αs} {l : List (String × List Char)} {read : List String}

theorem Written.map_fst (h : ms.Written vs l) : l.map Prod.fst = ms.names := by
  induction ms generalizing l with
  | nil => rw [show l = [] from h]; rfl
  | cons m rest ih =>
    obtain ⟨text, l', rfl, -, htail⟩ := h
    rw [List.map_cons, ih htail, names]

theorem known_nil (ms : Members αs) (vs : Values αs) : ms.known vs [] = Slots.empty αs := by
  induction ms with
  | nil => rfl
  | cons m rest ih =>
    show (if m.name ∈ [] then some vs.1 else none, rest.known vs.2 []) = (none, _)
    rw [if_neg List.not_mem_nil, ih]

/-- Reading a member that is not among these changes none of them. -/
theorem known_cons_of_notMem {name : String} (h : name ∉ ms.names) (vs : Values αs) (read : List String) :
    ms.known vs (name :: read) = ms.known vs read := by
  induction ms with
  | nil => rfl
  | cons m rest ih =>
    rw [names, List.mem_cons, not_or] at h
    have hiff : m.name ∈ name :: read ↔ m.name ∈ read := by
      rw [List.mem_cons, or_iff_right (Ne.symm h.1)]
    show (if m.name ∈ name :: read then some vs.1 else none, rest.known vs.2 (name :: read)) =
      (if m.name ∈ read then some vs.1 else none, rest.known vs.2 read)
    rw [if_congr hiff rfl rfl, ih h.2]

/-- A member that was not there before goes into its slot. -/
theorem store_known (h : ms.Written vs l) (hnodup : ms.names.Nodup) {e : String × List Char} (he : e ∈ l)
    (hread : e.1 ∉ read) {c : Char} (hc : Ends c) (rest : List Char) :
    ms.store e.1 (ms.known vs read) (':' :: (e.2 ++ c :: rest)) = .ok (ms.known vs (e.1 :: read), c :: rest) := by
  induction ms generalizing l with
  | nil => rw [show l = [] from h] at he; cases he
  | cons m ms ih =>
    obtain ⟨a, as⟩ := vs
    obtain ⟨text, l', rfl, hm, htail⟩ := h
    obtain ⟨hnew, hnodup⟩ := List.nodup_cons.mp hnodup
    rcases List.mem_cons.mp he with rfl | he
    · -- it is this member, and none of the others
      simp only [known, store, if_true, if_neg hread, colon_cons, hm c rest hc, bind, Except.bind, List.mem_cons,
        true_or, known_cons_of_notMem hnew]
    · have hne : m.name ≠ e.1 := by
        intro heq
        refine hnew ?_
        rw [heq, ← htail.map_fst]
        exact List.mem_map_of_mem he
      have hstore := ih htail hnodup he
      simp only [known, store, hstore, bind, Except.bind, List.mem_cons, hne, false_or, if_false]

/-- Behind a member stands the comma of the next one, or the closing bracket. -/
theorem exists_ends (part : List (String × List Char)) (rest : List Char) :
    ∃ c cs, part.flatMap (fun e => ',' :: memberText e) ++ '\x7d' :: rest = c :: cs ∧ Ends c := by
  cases part with
  | nil => exact ⟨'\x7d', rest, rfl, .inr rfl⟩
  | cons e part => exact ⟨',', _, rfl, .inl rfl⟩

/-- One member of the object, whichever it is. -/
theorem readObject_member (h : ms.Written vs l) (hnodup : ms.names.Nodup) {e : String × List Char} (he : e ∈ l)
    (hread : e.1 ∉ read) {c : Char} (hc : Ends c) {first : Bool} {text cs : List Char}
    (hnext : nextMember first text = .ok (true, (writeString e.1).tail ++ (':' :: e.2 ++ c :: cs))) (rounds : Nat) :
    ms.readObject (rounds + 1) first (ms.known vs read) text =
      ms.readObject rounds false (ms.known vs (e.1 :: read)) (c :: cs) := by
  have hstore := store_known h hnodup he hread hc cs
  simp only [readObject, hnext, bind, Except.bind, if_true, textBody_writeString, List.cons_append, hstore]

/-- The members of the object that are left. -/
theorem readObject_flatMap (h : ms.Written vs l) (hnodup : ms.names.Nodup) {part : List (String × List Char)}
    (hpart : ∀ e ∈ part, e ∈ l ∧ e.1 ∉ read) (hnames : (part.map Prod.fst).Nodup) {rounds : Nat}
    (hrounds : part.length < rounds) (rest : List Char) :
    ms.readObject rounds false (ms.known vs read) (part.flatMap (fun e => ',' :: memberText e) ++ '\x7d' :: rest) =
      .ok (ms.known vs ((part.map Prod.fst).reverse ++ read), rest) := by
  induction part generalizing read rounds with
  | nil =>
    obtain ⟨rounds, rfl⟩ := Nat.exists_eq_succ_of_ne_zero (Nat.ne_of_gt hrounds)
    rfl
  | cons e part ih =>
    obtain ⟨rounds, rfl⟩ := Nat.exists_eq_succ_of_ne_zero (Nat.ne_of_gt (Nat.lt_of_le_of_lt (Nat.zero_le _) hrounds))
    obtain ⟨hmem, hread⟩ := hpart e List.mem_cons_self
    obtain ⟨hnew, hnames⟩ := List.nodup_cons.mp hnames
    have hleft : ∀ d ∈ part, d ∈ l ∧ d.1 ∉ e.1 :: read := by
      intro d hd
      obtain ⟨hdl, hdread⟩ := hpart d (List.mem_cons_of_mem _ hd)
      have hne : d.1 ≠ e.1 := fun heq => hnew (heq ▸ List.mem_map_of_mem hd)
      exact ⟨hdl, List.not_mem_cons_of_ne_of_not_mem hne hdread⟩
    obtain ⟨c, cs, hcs, hc⟩ := exists_ends part rest
    have hnext := nextMember_comma e (c :: cs)
    rw [List.flatMap_cons, List.append_assoc, List.cons_append, hcs, readObject_member h hnodup hmem hread hc hnext,
      ← hcs, ih hleft hnames (Nat.lt_of_succ_lt_succ hrounds), List.map_cons, List.reverse_cons, List.append_assoc,
      List.singleton_append]

/-- The members of the whole object, of which each one is read. -/
theorem readObject_writeMembers (h : ms.Written vs l) (hnodup : ms.names.Nodup) {rounds : Nat} (hrounds : l.length < rounds) :
    ∃ read, (∀ name ∈ ms.names, name ∈ read) ∧
      ms.readObject rounds true (.empty αs) (writeMembers l ++ ['\x7d']) = .ok (ms.known vs read, []) := by
  obtain ⟨rounds, rfl⟩ := Nat.exists_eq_succ_of_ne_zero (Nat.ne_of_gt (Nat.lt_of_le_of_lt (Nat.zero_le _) hrounds))
  rw [← known_nil ms vs, ← h.map_fst]
  cases l with
  | nil => exact ⟨[], fun _ hname => hname, rfl⟩
  | cons e part =>
    have hnames : ((e :: part).map Prod.fst).Nodup := h.map_fst ▸ hnodup
    obtain ⟨hnew, hnames⟩ := List.nodup_cons.mp hnames
    have hpart : ∀ d ∈ part, d ∈ e :: part ∧ d.1 ∉ [e.1] := by
      intro d hd
      refine ⟨List.mem_cons_of_mem _ hd, fun heq => hnew ?_⟩
      rw [← List.mem_singleton.mp heq]
      exact List.mem_map_of_mem hd
    refine ⟨(part.map Prod.fst).reverse ++ [e.1], fun name hname => ?_, ?_⟩
    · rcases List.mem_cons.mp hname with rfl | hname
      · exact List.mem_append_right _ (List.mem_singleton_self _)
      · exact List.mem_append_left _ (List.mem_reverse.mpr hname)
    · obtain ⟨c, cs, hcs, hc⟩ := exists_ends part []
      have hnext := nextMember_memberText e (c :: cs)
      rw [writeMembers_cons, List.append_assoc, hcs,
        readObject_member h hnodup List.mem_cons_self List.not_mem_nil hc hnext, ← hcs]
      exact readObject_flatMap h hnodup hpart hnames (Nat.lt_of_succ_lt_succ hrounds) []

/-- Once every member has been read there is nothing to fill in. -/
theorem fill_known (h : ∀ name ∈ ms.names, name ∈ read) (vs : Values αs) : ms.fill (ms.known vs read) = .ok vs := by
  induction ms with
  | nil => rfl
  | cons m ms ih =>
    obtain ⟨a, as⟩ := vs
    have hfill := ih (fun name hname => h name (List.mem_cons_of_mem _ hname)) as
    simp only [known, fill, if_pos (h m.name List.mem_cons_self), hfill, bind, Except.bind]

end Members

theorem length_le_writeMembers (l : List (String × List Char)) : l.length ≤ (writeMembers l).length := by
  cases l with
  | nil => exact Nat.le_refl _
  | cons e part =>
    have hlen := length_le_flatMap part
    have hfirst : 0 < (memberText e).length := Nat.zero_lt_succ _
    rw [writeMembers_cons, List.length_append, List.length_cons]
    omega

/-- A record is read back from the object that has a text for each of its members. -/
theorem Shape.document_writeObject {ρ : Type} {s : Shape ρ} {vs : Values s.types} {l : List (String × List Char)}
    (h : s.members.Written vs l) (hnodup : s.members.names.Nodup) : document s.read (writeObject l) = .ok (s.build vs) := by
  have hrounds : l.length < (writeMembers l ++ ['\x7d']).length + 1 := by
    have := length_le_writeMembers l
    simp only [List.length_append]
    omega
  obtain ⟨read, hall, hobject⟩ := Members.readObject_writeMembers h hnodup hrounds
  have hread : s.read (writeObject l) = .ok (s.build vs, []) := by
    show (Members.readObject s.members _ true _ _).bind _ = _
    rw [hobject]
    show (Members.fill s.members _).bind _ = _
    rw [Members.fill_known hall vs]
    rfl
  rw [document, hread]
  rfl

end EndpointWatch.Json
