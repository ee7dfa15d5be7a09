import EndpointWatch.Proofs.Json.Taking
import EndpointWatch.Proofs.Json.Shape

/-!
# What a text mentions

A value is looked up in a text by the names and numbers on the way to it (`textAt?`), whatever the values beside it are.
A record that is read has for each of its members what stands there in the text, or else what the member's absence means
(`Shape.read_tells`).
-/

namespace EndpointWatch.Json

/-! ### Looking up a value -/

/-- What a member goes by: its name in an object, its number in a list. -/
structure Key where
  name : String
  index : Nat

/-- The text from the value of the first member with a name on; `cs` is what is left of the object. -/
def memberText? (name : String) : (rounds : Nat) → (first : Bool) → (cs : List Char) → Option (List Char)
  | 0, _, _ => none
  | rounds + 1, first, cs => do
    let (more, cs) ← (nextMember first cs).toOption
    if more then
      let (other, cs) ← (textBody cs).toOption
      let cs ← (colon cs).toOption
      if other = name then some cs
      else
        let cs ← (skip cs).toOption
        memberText? name rounds false cs
    else none

/-- The text from the element with a number on; `cs` is what is left of the list. -/
def elementText? : (index : Nat) → (first : Bool) → (cs : List Char) → Option (List Char)
  | 0, first, cs => (nextElement first cs).toOption.join
  | index + 1, first, cs => do
    let cs ← (nextElement first cs).toOption.join
    let cs ← (skip cs).toOption
    elementText? index false cs

/-- The text from a member of the value on with which `cs` begins. -/
def Key.text? (k : Key) (cs : List Char) : Option (List Char) :=
  match skipBlank cs with
  | '\x7b' :: rest => memberText? k.name (rest.length + 1) true rest
  | '[' :: rest => elementText? k.index true rest
  | _ => none

/-- The text from the value on to which the keys lead. -/
def textAt? : List Key → List Char → Option (List Char)
  | [], cs => some cs
  | k :: ks, cs => (k.text? cs).bind (textAt? ks)

theorem textAt?_concat (ks : List Key) (k : Key) (cs : List Char) :
    textAt? (ks ++ [k]) cs = (textAt? ks cs).bind k.text? := by
  induction ks generalizing cs with
  | nil =>
    show (k.text? cs).bind some = _
    exact Option.bind_fun_some _
  | cons l ks ih =>
    show (l.text? cs).bind (textAt? (ks ++ [k])) = ((l.text? cs).bind (textAt? ks)).bind k.text?
    rw [Option.bind_assoc, funext ih]

/-- The text has a value where the keys lead. -/
def Mentions (cs : List Char) (ks : List Key) : Prop := (textAt? ks cs).isSome

instance (cs : List Char) (ks : List Key) : Decidable (Mentions cs ks) := inferInstanceAs (Decidable (_ = true))

/-! ### Members and their values -/

/-- The member's value is what its text says; without a text it is what the member's absence means. -/
def Member.Tells {α : Type} (m : Member α) : Option (List Char) → α → Prop
  | some text, a => ∃ rest, m.read text = .ok (a, rest)
  | none, a => m.absence = .inObject a ∨ m.absence = .anywhere a

theorem Member.Tells.eq_standard {α : Type} {m : Member α} {a standard : α} (h : m.Tells none a)
    (hm : m.absence = .anywhere standard) : a = standard := by
  rcases h with h | h
  · cases hm.symm.trans h
  · cases hm.symm.trans h
    rfl

/-- What a slot holds once the member with this text, if there is one, has been read. -/
def Member.Fills {α : Type} (m : Member α) : Option (List Char) → Option α → Option α → Prop
  | _, some a, slot => slot = some a
  | some text, none, slot => ∃ a rest, m.read text = .ok (a, rest) ∧ slot = some a
  | none, none, slot => slot = none

theorem Member.fills_refl {α : Type} (m : Member α) (slot : Option α) : m.Fills none slot slot := by
  cases slot <;> rfl

theorem Member.Fills.tells {α : Type} {m : Member α} {text? : Option (List Char)} {a : α}
    (h : m.Fills text? none (some a)) : m.Tells text? a := by
  cases text? with
  | none => cases h
  | some text =>
    obtain ⟨a', rest, hread, heq⟩ := h
    cases heq
    exact ⟨rest, hread⟩

theorem Member.Fills.eq_none {α : Type} {m : Member α} {text? : Option (List Char)} (h : m.Fills text? none none) :
    text? = none := by
  cases text? with
  | none => rfl
  | some text =>
    obtain ⟨_, _, _, heq⟩ := h
    cases heq

theorem Member.Fills.orElse {α : Type} {m : Member α} {t t' : Option (List Char)} {slot slot' slot'' : Option α}
    (h : m.Fills t slot slot') (h' : m.Fills t' slot' slot'') : m.Fills (t <|> t') slot slot'' := by
  cases slot with
  | some a =>
    cases (show slot' = some a from h)
    exact h'
  | none =>
    cases t with
    | none =>
      cases (show slot' = none from h)
      exact h'
    | some text =>
      obtain ⟨a, rest, hread, rfl⟩ := h
      exact ⟨a, rest, hread, h'⟩

namespace Members

variable {αs : List Type}

/-- Each value is what the member's text says; `index` is the number of the first member. -/
def Tells (text? : Key → Option (List Char)) : {αs : List Type} → Members αs → (index : Nat) → Values αs → Prop
  | _, nil, _, _ => True
  | _, cons m rest, index, (a, as) => m.Tells (text? ⟨m.name, index⟩) a ∧ rest.Tells text? (index + 1) as

/-- The slots before and after members have been read whose texts these are. -/
def Fills (text? : String → Option (List Char)) : {αs : List Type} → Members αs → Slots αs → Slots αs → Prop
  | _, nil, _, _ => True
  | _, cons m rest, (slot, slots), (slot', slots') => m.Fills (text? m.name) slot slot' ∧ rest.Fills text? slots slots'

/-- Each member's reader takes one value. -/
def AllTake : {αs : List Type} → Members αs → Prop
  | _, nil => True
  | _, cons m rest => Takes m.read ∧ rest.AllTake

variable {ms : Members αs} {slots slots' slots'' : Slots αs} {cs rest : List Char}

/-! ### Objects -/

theorem fills_none (ms : Members αs) (slots : Slots αs) {text? : String → Option (List Char)}
    (h : ∀ name ∈ ms.names, text? name = none) : ms.Fills text? slots slots := by
  induction ms with
  | nil => trivial
  | cons m ms ih =>
    obtain ⟨slot, slots⟩ := slots
    rw [names, List.forall_mem_cons] at h
    refine ⟨?_, ih slots h.2⟩
    rw [h.1]
    exact m.fills_refl slot

theorem Fills.orElse {t t' : String → Option (List Char)} (h : ms.Fills t slots slots')
    (h' : ms.Fills t' slots' slots'') : ms.Fills (fun name => t name <|> t' name) slots slots'' := by
  induction ms with
  | nil => trivial
  | cons m ms ih => exact ⟨h.1.orElse h'.1, ih h.2 h'.2⟩

theorem store_fills (hms : ms.AllTake) (hnodup : ms.names.Nodup) {name : String}
    (h : ms.store name slots cs = .ok (slots', rest)) :
    ∃ text, colon cs = .ok text ∧ Passes text rest ∧
      ms.Fills (fun n => if name = n then some text else none) slots slots' := by
  induction ms generalizing rest with
  | nil =>
    obtain ⟨text, hcolon, h⟩ := bind_eq_ok_iff.mp h
    obtain ⟨rest', hskip, h⟩ := bind_eq_ok_iff.mp h
    cases h
    exact ⟨text, hcolon, skip_eq_ok_iff.mp hskip, trivial⟩
  | cons m ms ih =>
    obtain ⟨slot, slots⟩ := slots
    obtain ⟨hnew, hnodup⟩ := List.nodup_cons.mp hnodup
    simp only [store] at h
    split at h
    · next hname =>
      subst hname
      cases slot with
      | some a => cases h
      | none =>
        obtain ⟨text, hcolon, h⟩ := bind_eq_ok_iff.mp h
        obtain ⟨⟨a, rest'⟩, hread, h⟩ := bind_eq_ok_iff.mp h
        cases h
        refine ⟨text, hcolon, hms.1 _ _ _ hread, ?_, fills_none ms slots fun name hmem => ?_⟩
        · show m.Fills (if m.name = m.name then some text else none) none (some a)
          rw [if_pos rfl]
          exact ⟨a, _, hread, rfl⟩
        · refine if_neg ?_
          rintro rfl
          exact hnew hmem
    · next hne =>
      obtain ⟨⟨slots₁, rest'⟩, hstore, h⟩ := bind_eq_ok_iff.mp h
      cases h
      obtain ⟨text, hcolon, hpasses, hfills⟩ := ih hms.2 hnodup hstore
      refine ⟨text, hcolon, hpasses, ?_, hfills⟩
      show m.Fills (if name = m.name then some text else none) slot slot
      rw [if_neg (Ne.symm hne)]
      exact m.fills_refl slot

theorem memberText?_succ {name other : String} {rounds : Nat} {first : Bool} {cs₁ cs₂ text cs₃ : List Char}
    (hnext : nextMember first cs = .ok (true, cs₁)) (hother : textBody cs₁ = .ok (other, cs₂))
    (hcolon : colon cs₂ = .ok text) (hpasses : Passes text cs₃) : memberText? name (rounds + 1) first cs =
      ((if other = name then some text else none) <|> memberText? name rounds false cs₃) := by
  rw [memberText?, hnext]
  show (textBody cs₁).toOption.bind _ = _
  rw [hother]
  show (colon cs₂).toOption.bind _ = _
  rw [hcolon]
  show (if other = name then some text else (skip text).toOption.bind _) = _
  rw [skip_eq_ok_iff.mpr hpasses]
  split <;> rfl

/-- While the members of an object are read, each slot takes what stands behind the member's name. -/
theorem readObject_fills (hms : ms.AllTake) (hnodup : ms.names.Nodup) {rounds : Nat} {first : Bool}
    (h : ms.readObject rounds first slots cs = .ok (slots', rest)) :
    Closes first .object cs rest ∧ ms.Fills (memberText? · rounds first cs) slots slots' := by
  induction rounds generalizing first slots cs with
  | zero => cases h
  | succ rounds ih =>
    obtain ⟨⟨more, cs₁⟩, hnext, h⟩ := bind_eq_ok_iff.mp h
    cases more with
    | false =>
      cases h
      refine ⟨closes_of_nextMember_false hnext, fills_none ms _ fun name _ => ?_⟩
      rw [memberText?, hnext]
      rfl
    | true =>
      obtain ⟨⟨name, cs₂⟩, hname, h⟩ := bind_eq_ok_iff.mp h
      obtain ⟨⟨slots₁, cs₃⟩, hstore, h⟩ := bind_eq_ok_iff.mp h
      obtain ⟨text, hcolon, hpasses, hfills⟩ := store_fills hms hnodup hstore
      obtain ⟨hcloses, hrest⟩ := ih h
      refine ⟨closes_of_nextMember hnext hname hcolon hpasses hcloses, ?_⟩
      have htexts : (memberText? · (rounds + 1) first cs) =
          fun n => ((if name = n then some text else none) <|> memberText? n rounds false cs₃) :=
        funext fun n => memberText?_succ hnext hname hcolon hpasses
      rw [htexts]
      exact hfills.orElse hrest

/-- A value is what the slot holds, or what the absence of the member means. -/
theorem fill_cons_eq_ok {α : Type} {m : Member α} {slot : Option α} {vs : Values (α :: αs)}
    (h : (cons m ms).fill (slot, slots) = .ok vs) : ∃ a as, vs = (a, as) ∧ ms.fill slots = .ok as ∧
      (slot = some a ∨ slot = none ∧ (m.absence = .inObject a ∨ m.absence = .anywhere a)) := by
  have hrest (a : α) (h : (ms.fill slots >>= fun as => .ok (a, as)) = .ok vs) :
      ∃ as, vs = (a, as) ∧ ms.fill slots = .ok as := by
    obtain ⟨as, has, h⟩ := bind_eq_ok_iff.mp h
    cases h
    exact ⟨as, rfl, has⟩
  cases slot with
  | some a =>
    obtain ⟨as, hvs, has⟩ := hrest a h
    exact ⟨a, as, hvs, has, .inl rfl⟩
  | none =>
    rcases hm : m.absence with _ | a | a
    · simp only [fill, hm] at h
      cases h
    · simp only [fill, hm] at h
      obtain ⟨as, hvs, has⟩ := hrest a h
      exact ⟨a, as, hvs, has, .inr ⟨rfl, .inl rfl⟩⟩
    · simp only [fill, hm] at h
      obtain ⟨as, hvs, has⟩ := hrest a h
      exact ⟨a, as, hvs, has, .inr ⟨rfl, .inr rfl⟩⟩

/-- Filling in what an object left out leaves each member with what its text says. -/
theorem tells_of_fill {text? : String → Option (List Char)} (hslots : ms.Fills text? (.empty αs) slots)
    {vs : Values αs} (h : ms.fill slots = .ok vs) (index : Nat) : ms.Tells (fun k => text? k.name) index vs := by
  induction ms generalizing index with
  | nil => trivial
  | cons m ms ih =>
    obtain ⟨slot, slots⟩ := slots
    obtain ⟨hslot, hslots⟩ := hslots
    obtain ⟨a, as, rfl, has, hvalue⟩ := fill_cons_eq_ok h
    refine ⟨?_, ih hslots has (index + 1)⟩
    rcases hvalue with rfl | ⟨rfl, habsence⟩
    · exact hslot.tells
    · show m.Tells (text? m.name) a
      rw [hslot.eq_none]
      exact habsence

/-! ### Lists -/

theorem elementText?_of_end {behind : List Char} (h : skipBlank cs = ']' :: behind) (index : Nat) (first : Bool) :
    elementText? index first cs = none := by
  have hnext : nextElement first cs = .ok none := by
    rw [nextElement, h]
    rfl
  cases index <;> (rw [elementText?, hnext]; rfl)

/-- The elements of a list are read one for each member, as far as they go. -/
theorem readList_tells (hms : ms.AllTake) {whole : String} {index : Nat} {vs : Values αs}
    (text? : Key → Option (List Char)) (htext : ∀ name i, text? ⟨name, index + i⟩ = elementText? i (index = 0) cs)
    (h : ms.readList whole index cs = .ok (vs, rest)) {behind : List Char} (hend : listEnd rest = .ok behind) :
    Closes (index = 0) .list cs behind ∧ ms.Tells text? index vs := by
  induction ms generalizing index cs with
  | nil => cases h; exact ⟨closes_of_listEnd hend _, trivial⟩
  | cons m ms ih =>
    obtain ⟨o, hnext, h⟩ := bind_eq_ok_iff.mp h
    cases o with
    | some text =>
      obtain ⟨⟨a, cs'⟩, hread, h⟩ := bind_eq_ok_iff.mp h
      obtain ⟨⟨as, rest'⟩, hrest, h⟩ := bind_eq_ok_iff.mp h
      cases h
      have hpasses := hms.1 _ _ _ hread
      have htail (name : String) (i : Nat) : text? ⟨name, index + 1 + i⟩ = elementText? i (index + 1 = 0) cs' := by
        rw [Nat.add_right_comm]
        refine (htext name (i + 1)).trans ?_
        rw [elementText?, hnext]
        show (skip text).toOption.bind _ = _
        rw [skip_eq_ok_iff.mpr hpasses]
        rfl
      obtain ⟨hcloses, htells⟩ := ih hms.2 htail hrest
      refine ⟨closes_of_nextElement hnext hpasses hcloses, ?_, htells⟩
      have hhere : text? ⟨m.name, index⟩ = some text := by
        refine (htext m.name 0).trans ?_
        rw [elementText?, hnext]
        rfl
      show m.Tells (text? ⟨m.name, index⟩) a
      rw [hhere]
      exact ⟨cs', hread⟩
    | none =>
      -- the list ends early: this member has no text, and neither have those after it
      obtain ⟨behind', hcs⟩ := nextElement_eq_none hnext
      rcases hm : m.absence with _ | a | a
      · simp only [hm] at h
        cases h
      · simp only [hm] at h
        cases h
      · simp only [hm] at h
        obtain ⟨⟨as, rest'⟩, hrest, h⟩ := bind_eq_ok_iff.mp h
        cases h
        have hnone (name : String) (i : Nat) : text? ⟨name, index + i⟩ = none := by
          rw [htext, elementText?_of_end hcs]
        have htail (name : String) (i : Nat) : text? ⟨name, index + 1 + i⟩ = elementText? i (index + 1 = 0) cs := by
          rw [elementText?_of_end hcs, Nat.add_assoc]
          exact hnone name (1 + i)
        obtain ⟨hcloses, htells⟩ := ih hms.2 htail hrest
        refine ⟨hcloses.of_closing hcs _, ?_, htells⟩
        show m.Tells (text? ⟨m.name, index⟩) a
        rw [show text? ⟨m.name, index⟩ = none from hnone m.name 0]
        exact .inr hm

end Members

/-! ### Records -/

namespace Shape

variable {ρ : Type} {s : Shape ρ} {cs rest : List Char}

/-- A record that is read says of each member what its text says. -/
theorem read_tells (hms : s.members.AllTake) (hnodup : s.members.names.Nodup) {a : ρ} (h : s.read cs = .ok (a, rest)) :
    Passes cs rest ∧ ∃ vs, a = s.build vs ∧ s.members.Tells (·.text? cs) 0 vs := by
  unfold read at h
  split at h
  · next text hcs =>
    obtain ⟨⟨slots, rest'⟩, hobject, h⟩ := bind_eq_ok_iff.mp h
    obtain ⟨vs, hfill, h⟩ := bind_eq_ok_iff.mp h
    cases h
    obtain ⟨hcloses, hfills⟩ := Members.readObject_fills hms hnodup hobject
    refine ⟨Passes.of_skipBlank (hcs ▸ hcloses.passes_object), vs, rfl, ?_⟩
    have htext : (fun k : Key => k.text? cs) = fun k => memberText? k.name (text.length + 1) true text := by
      funext k
      rw [Key.text?, hcs]
      rfl
    rw [htext]
    exact Members.tells_of_fill hfills hfill 0
  · next text hcs =>
    obtain ⟨⟨vs, rest'⟩, hlist, h⟩ := bind_eq_ok_iff.mp h
    obtain ⟨behind, hend, h⟩ := bind_eq_ok_iff.mp h
    cases h
    have htext (name : String) (i : Nat) : Key.text? ⟨name, 0 + i⟩ cs = elementText? i (decide (0 = 0)) text := by
      rw [Key.text?, hcs, Nat.zero_add]
      rfl
    obtain ⟨hcloses, htells⟩ := Members.readList_tells hms (·.text? cs) htext hlist hend
    exact ⟨Passes.of_skipBlank (hcs ▸ hcloses.passes_list), vs, rfl, htells⟩
  · exact (wrongType_ne_ok _ _ _ h).elim

theorem takes_read (hms : s.members.AllTake) (hnodup : s.members.names.Nodup) : Takes s.read := fun _ _ _ h =>
  (read_tells hms hnodup h).1

end Shape

end EndpointWatch.Json
