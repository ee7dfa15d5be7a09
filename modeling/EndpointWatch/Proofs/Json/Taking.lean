import EndpointWatch.Proofs.Json.Passing
import EndpointWatch.Json.Passed
import EndpointWatch.Json.Shape

/-!
# What readers take

Every reader of a plain value takes one value off the front of a text: the one that `skip` passes over (`Takes`). So
does a reader that keeps a value for later, to any depth.
-/

namespace EndpointWatch.Json

/-! ### Steps that may fail -/

theorem bind_eq_ok_iff {ε α β : Type} {x : Except ε α} {f : α → Except ε β} {b : β} :
    x >>= f = .ok b ↔ ∃ a, x = .ok a ∧ f a = .ok b := by
  cases x with
  | error e => exact ⟨fun h => (nomatch h), fun ⟨_, h, _⟩ => (nomatch h)⟩
  | ok a => exact ⟨fun h => ⟨a, rfl, h⟩, fun ⟨_, rfl, h⟩ => h⟩

theorem map_eq_ok_iff {ε α β : Type} {x : Except ε α} {f : α → β} {b : β} :
    x.map f = .ok b ↔ ∃ a, x = .ok a ∧ f a = b := by
  cases x with
  | error e => exact ⟨fun h => (nomatch h), fun ⟨_, h, _⟩ => (nomatch h)⟩
  | ok a => exact ⟨fun h => ⟨a, rfl, Except.ok.inj h⟩, fun ⟨_, hx, hb⟩ => by cases hx; exact congrArg _ hb⟩

variable {first : Bool} {cs rest text mid mid' : List Char}

/-! ### Strings -/

theorem skipText?_of_skipEscape? {cs rest : List Char} (h : skipEscape? cs = some rest) :
    skipText? ('\\' :: cs) = skipText? rest := by
  rw [skipText?, if_neg (by decide), if_pos rfl]
  split
  · next he => rw [h] at he; cases he; rfl
  · next he => cases h.symm.trans he

/-- Half of a pair may be skipped on its own, so the second half is skipped as an escape of its own. -/
theorem skipText?_of_lowHalf? {cs rest : List Char} {n : Nat} (h : lowHalf? cs = some (n, rest)) :
    skipText? cs = skipText? rest := by
  unfold lowHalf? at h
  split at h
  · obtain ⟨⟨m, r⟩, hhex, h⟩ := Option.bind_eq_some_iff.mp h
    dsimp only at h
    split at h
    · cases h
      refine skipText?_of_skipEscape? ?_
      rw [skipEscape?, hhex]
      rfl
    · cases h
  · cases h

theorem skipText?_of_escape? {cs rest : List Char} {c : Char} (h : escape? cs = some (c, rest)) :
    skipText? ('\\' :: cs) = skipText? rest := by
  unfold escape? at h
  split at h
  · next digits =>
    obtain ⟨⟨n, r⟩, hhex, h⟩ := Option.bind_eq_some_iff.mp h
    have hskip : skipText? ('\\' :: 'u' :: digits) = skipText? r := by
      refine skipText?_of_skipEscape? ?_
      rw [skipEscape?, hhex]
      rfl
    dsimp only at h
    split at h
    · cases h
    split at h
    · obtain ⟨⟨m, r'⟩, hlow, heq⟩ := Option.bind_eq_some_iff.mp h
      obtain ⟨-, rfl⟩ := Prod.mk.injEq .. ▸ Option.some.inj heq
      exact hskip.trans (skipText?_of_lowHalf? hlow)
    · cases h
      exact hskip
  · next c' cs' hne =>
    obtain ⟨d, hd, heq⟩ := Option.map_eq_some_iff.mp h
    cases heq
    refine skipText?_of_skipEscape? ?_
    unfold skipEscape?
    split
    · next heq => cases heq; exact (hne rfl).elim
    · next heq => cases heq; rw [hd]; rfl
    · next heq => cases heq
  · cases h

theorem skipText?_of_text? {cs s rest : List Char} (h : text? cs = some (s, rest)) : skipText? cs = some rest := by
  fun_induction text? cs generalizing s with
  | case1 => cases h
  | case2 cs => cases h; rw [skipText?, if_pos rfl]
  | case3 cs c cs' he _ _ ih =>
    obtain ⟨⟨s', r⟩, htext, heq⟩ := Option.map_eq_some_iff.mp h
    cases heq
    rw [skipText?_of_escape? (by assumption)]
    exact ih htext
  | case4 => cases h
  | case5 => cases h
  | case6 c cs hq hb hc ih =>
    obtain ⟨⟨s', r⟩, htext, heq⟩ := Option.map_eq_some_iff.mp h
    cases heq
    rw [skipText?, if_neg hq, if_neg hb, if_neg hc]
    exact ih htext

theorem skipText?_of_textBody {s : String} (h : textBody cs = .ok (s, rest)) : skipText? cs = some rest := by
  unfold textBody at h
  split at h
  · next htext => cases h; exact skipText?_of_text? htext
  · cases h

/-! ### Members -/

theorem colon_eq_ok (h : colon cs = .ok rest) : skipBlank cs = ':' :: rest := by
  unfold colon at h
  split at h
  · next hcs => cases h; exact hcs
  · cases h

theorem skipName_object {s : String} {behind : List Char} (hquote : skipBlank cs = '"' :: text)
    (htext : textBody text = .ok (s, behind)) (hcolon : colon behind = .ok mid) : skipName .object cs = some mid := by
  rw [skipName, hquote]
  show (skipText? text).bind _ = _
  rw [skipText?_of_textBody htext, Option.bind_some, colon_eq_ok hcolon]
  rfl

theorem closes_of_nextMember {s : String} {behind : List Char} (h : nextMember first cs = .ok (true, text))
    (htext : textBody text = .ok (s, behind)) (hcolon : colon behind = .ok mid) (hvalue : Passes mid mid')
    (hrest : Closes false .object mid' rest) : Closes first .object cs rest := by
  have hlen := length_skipBlank_le cs
  unfold nextMember at h
  split at h
  · cases h
  · next behind' hcs =>
    rw [hcs, List.length_cons] at hlen
    split at h
    · next hquote =>
      cases h
      have hname := skipName_object hquote htext hcolon
      refine closes_of_passes ?_ (fun open_ => ⟨mid, ?_, rfl⟩) hvalue hrest
      · have := length_skipName_le hname
        omega
      · show skipClosing (.object :: open_) cs = _
        rw [skipClosing, hcs]
        show (skipName .object behind').map _ = _
        rw [hname]
        rfl
    · cases h
  · next text' hcs =>
    split at h
    · next hfirst =>
      cases h
      have hquote : skipBlank (skipBlank cs) = '"' :: text := by rw [skipBlank_skipBlank, hcs]
      have hname := skipName_object hquote htext hcolon
      refine closes_of_passes ?_ (fun open_ => ⟨mid, ?_, rfl⟩) hvalue hrest
      · have := length_skipName_le hname
        omega
      · rw [resume, if_pos hfirst, opened, hcs]
        show (skipName .object ('"' :: text)).map _ = _
        rw [← hcs, hname]
        rfl
    · cases h
  · cases h

/-! ### Readers -/

/-- The reader takes one value and leaves what is behind it. -/
def Takes {α : Type} (r : Reader α) : Prop := ∀ cs a rest, r cs = .ok (a, rest) → Passes cs rest

variable {α β : Type} {r : Reader α}

theorem document_eq_ok {a : α} (h : document r cs = .ok a) : ∃ rest, r cs = .ok (a, rest) := by
  unfold document at h
  split at h
  · next hread =>
    split at h
    · cases h
      exact ⟨_, hread⟩
    · cases h
  · cases h

theorem Takes.map (h : Takes r) (f : α → β) : Takes (r.map f) := by
  intro cs b rest hr
  unfold Reader.map at hr
  split at hr
  · next hread => cases hr; exact h cs _ rest hread
  · cases hr

theorem Takes.check (h : Takes r) (f : α → Except Fault β) : Takes (r.check f) := by
  intro cs b rest hr
  unfold Reader.check at hr
  split at hr
  · next hread =>
    split at hr
    · cases hr; exact h cs _ rest hread
    · cases hr
  · cases hr

theorem wrongType_ne_ok (expected : String) (cs : List Char) (a : α) : wrongType expected cs ≠ .ok a := by
  unfold wrongType
  split <;> exact nofun

theorem passes_of_scalar (hcs : skipBlank cs = text) (h : skipScalar? text = some rest) : Passes cs rest := by
  refine Passes.of_skipBlank (hcs ▸ passes_of_skipScalar? h ?_)
  rw [← hcs, skipBlank_skipBlank]

theorem takes_stringAs (expected : String) : Takes (stringAs expected) := by
  intro cs s rest h
  unfold stringAs at h
  split at h
  · next hcs => exact passes_of_scalar hcs (skipText?_of_textBody h)
  · exact (wrongType_ne_ok _ _ _ h).elim

theorem word_eq_ok {w : List Char} (h : word w cs = .ok rest) : w.isPrefixOf cs = true ∧ rest = cs.drop w.length := by
  unfold word at h
  split at h
  · next hw => cases h; exact ⟨hw, rfl⟩
  · cases h

theorem skipScalar?_of_word {c : Char} {w : List Char} (hc : wordRest? c = some w)
    (hplain : c ≠ '"' ∧ startsNumber c = false) (h : word w cs = .ok rest) : skipScalar? (c :: cs) = some rest := by
  obtain ⟨hfits, rfl⟩ := word_eq_ok h
  rw [skipScalar?, if_neg hplain.1, if_neg (by rw [hplain.2]; decide), hc, Option.bind_some, if_pos hfits]

theorem passes_of_word {c : Char} {w : List Char} {a b : α} (hcs : skipBlank cs = c :: text)
    (hc : wordRest? c = some w) (hplain : c ≠ '"' ∧ startsNumber c = false)
    (h : (word w text).map (a, ·) = .ok (b, rest)) : Passes cs rest := by
  obtain ⟨r, hword, heq⟩ := map_eq_ok_iff.mp h
  cases heq
  exact passes_of_scalar hcs (skipScalar?_of_word hc hplain hword)

theorem takes_boolean : Takes boolean := by
  intro cs b rest h
  unfold boolean at h
  split at h
  · next hcs => exact passes_of_word hcs rfl (by decide) h
  · next hcs => exact passes_of_word hcs rfl (by decide) h
  · exact (wrongType_ne_ok _ _ _ h).elim

theorem ne_quote_of_startsNumber {c : Char} (h : startsNumber c = true) : c ≠ '"' := by
  rintro rfl
  exact absurd h (by decide)

theorem skipScalar?_of_numberValue {c : Char} {v : NumberValue} (hc : startsNumber c = true)
    (h : numberValue (c :: cs) = .ok (v, rest)) : skipScalar? (c :: cs) = some rest := by
  rw [skipScalar?, if_neg (ne_quote_of_startsNumber hc), if_pos hc]
  unfold numberValue at h
  split at h
  · next hnumber =>
    split at h
    · cases h; rw [hnumber]; rfl
    · cases h
  · cases h

theorem takes_numberAs (expected : String) (accept : NumberValue → Except Fault α) :
    Takes (numberAs expected accept) := by
  intro cs a rest h
  unfold numberAs at h
  split at h
  · next c behind hcs =>
    split at h
    · next hc =>
      obtain ⟨⟨v, r⟩, hvalue, h⟩ := bind_eq_ok_iff.mp h
      obtain ⟨a', -, h⟩ := bind_eq_ok_iff.mp h
      cases h
      exact passes_of_scalar hcs (skipScalar?_of_numberValue hc hvalue)
    · exact (wrongType_ne_ok _ _ _ h).elim
  · cases h

theorem takes_integerIn (expected : String) (lo hi : Int) : Takes (integerIn expected lo hi) :=
  takes_numberAs expected _

theorem takes_float : Takes float := takes_numberAs "f64" _

theorem Takes.optional (h : Takes r) : Takes (optional r) := by
  intro cs o rest hr
  unfold Json.optional at hr
  split at hr
  · next hcs => exact passes_of_word hcs rfl (by decide) hr
  · exact Passes.of_skipBlank (h.map some _ _ _ hr)

/-! ### Values that are kept for later -/

theorem closes_of_elements (h : Takes r) {rounds : Nat} {as : List α}
    (hr : elements r rounds first cs = .ok (as, rest)) : Closes first .list cs rest := by
  induction rounds generalizing first cs as with
  | zero => cases hr
  | succ rounds ih =>
    obtain ⟨o, hnext, hr⟩ := bind_eq_ok_iff.mp hr
    cases o with
    | none =>
      obtain ⟨r, hend, hr⟩ := bind_eq_ok_iff.mp hr
      cases hr
      exact closes_of_listEnd hend first
    | some mid =>
      obtain ⟨⟨a, mid'⟩, hread, hr⟩ := bind_eq_ok_iff.mp hr
      obtain ⟨⟨as', r⟩, hrest, hr⟩ := bind_eq_ok_iff.mp hr
      cases hr
      exact closes_of_nextElement hnext (h _ _ _ hread) (ih hrest)

theorem closes_of_members {read : String → Reader α} (h : ∀ name, Takes (read name)) {rounds : Nat}
    {as : List (String × α)} (hr : members read rounds first cs = .ok (as, rest)) : Closes first .object cs rest := by
  induction rounds generalizing first cs as with
  | zero => cases hr
  | succ rounds ih =>
    obtain ⟨⟨more, cs₁⟩, hnext, hr⟩ := bind_eq_ok_iff.mp hr
    cases more with
    | false => cases hr; exact closes_of_nextMember_false hnext
    | true =>
      obtain ⟨⟨name, cs₂⟩, htext, hr⟩ := bind_eq_ok_iff.mp hr
      obtain ⟨cs₃, hcolon, hr⟩ := bind_eq_ok_iff.mp hr
      obtain ⟨⟨a, cs₄⟩, hread, hr⟩ := bind_eq_ok_iff.mp hr
      obtain ⟨⟨as', r⟩, hrest, hr⟩ := bind_eq_ok_iff.mp hr
      cases hr
      exact closes_of_nextMember hnext htext hcolon (h name _ _ _ hread) (ih hrest)

theorem skipScalar?_of_scalar {f : Found} (h : kept.scalar cs = .ok (f, rest)) : skipScalar? cs = some rest := by
  unfold kept.scalar at h
  split at h
  · cases h
  · split at h
    · next hc =>
      obtain ⟨⟨s, r⟩, htext, heq⟩ := map_eq_ok_iff.mp h
      cases heq
      rw [skipScalar?, if_pos hc]
      exact skipText?_of_textBody htext
    split at h
    · next hc =>
      obtain ⟨⟨v, r⟩, hvalue, heq⟩ := map_eq_ok_iff.mp h
      cases heq
      exact skipScalar?_of_numberValue hc hvalue
    · obtain ⟨f', -, h⟩ := bind_eq_ok_iff.mp h
      split at h
      · next hscalar => cases h; exact hscalar
      · cases h

theorem takes_kept (depth : Nat) : Takes (kept depth) := by
  induction depth with
  | zero =>
    intro cs f rest h
    unfold kept at h
    split at h
    · cases h
    · cases h
    · exact passes_of_scalar rfl (skipScalar?_of_scalar h)
  | succ depth ih =>
    intro cs f rest h
    unfold kept at h
    split at h
    · next hcs =>
      obtain ⟨⟨as, r⟩, hread, heq⟩ := bind_eq_ok_iff.mp h
      cases heq
      exact Passes.of_skipBlank (hcs ▸ (closes_of_elements ih hread).passes_list)
    · next hcs =>
      obtain ⟨⟨as, r⟩, hread, heq⟩ := bind_eq_ok_iff.mp h
      cases heq
      exact Passes.of_skipBlank (hcs ▸ (closes_of_members (fun _ => ih) hread).passes_object)
    · exact passes_of_scalar rfl (skipScalar?_of_scalar h)

end EndpointWatch.Json
