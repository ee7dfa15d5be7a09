import Mathlib.Data.List.DropRight
import EndpointWatch.Json.Reader

/-!
# Passing over a value

Whatever brackets are open around a value, `skip` passes over it in the same way, and behind it they go on to be
closed (`Passes`, `skip_eq_ok_iff`). So a list or an object need only be followed from one of its values to the next
(`Closes`).
-/

namespace EndpointWatch.Json

/-! ### Scalars are not empty -/

theorem length_skipBlank_le (cs : List Char) : (skipBlank cs).length ≤ cs.length :=
  (List.dropWhile_sublist _).length_le

theorem skipBlank_skipBlank (cs : List Char) : skipBlank (skipBlank cs) = skipBlank cs :=
  List.dropWhile_idempotent ..

theorem length_skipText? {cs rest : List Char} (h : skipText? cs = some rest) : rest.length < cs.length := by
  fun_induction skipText? cs with
  | case1 => cases h
  | case2 cs => cases h; exact Nat.lt_succ_self _
  | case3 cs cs' he _ _ ih => exact Nat.lt_succ_of_lt (Nat.lt_trans (ih h) (length_skipEscape? he))
  | case4 => cases h
  | case5 => cases h
  | case6 c cs _ _ _ ih => exact Nat.lt_succ_of_lt (ih h)

theorem length_digitRun? {cs ds rest : List Char} (h : digitRun? cs = some (ds, rest)) : rest.length < cs.length := by
  have hlen := congrArg List.length (List.takeWhile_append_dropWhile (p := Char.isDigit) (l := cs))
  rw [List.length_append] at hlen
  unfold digitRun? at h
  split at h
  · cases h
  · next hne =>
    obtain ⟨rfl, rfl⟩ := Prod.mk.injEq .. ▸ Option.some.inj h
    have hpos := List.length_pos_iff.mpr hne
    omega

theorem length_part?_le {cs rest : List Char} {o : Option (List Char)} (h : part? cs = some (o, rest)) :
    rest.length ≤ cs.length := by
  unfold part? at h
  split at h
  · obtain ⟨⟨ds, r⟩, hrun, heq⟩ := Option.map_eq_some_iff.mp h
    cases heq
    exact Nat.le_succ_of_le (Nat.le_of_lt (length_digitRun? hrun))
  · cases h
    exact Nat.le_refl _

theorem length_exponent?_le {cs rest : List Char} {o : Option (Bool × List Char)} (h : exponent? cs = some (o, rest)) :
    rest.length ≤ cs.length := by
  unfold exponent? at h
  split at h
  · cases h
    exact Nat.le_refl _
  · split at h
    · obtain ⟨⟨ds, r⟩, hrun, heq⟩ := Option.map_eq_some_iff.mp h
      cases heq
      have hlt := length_digitRun? hrun
      split at hlt <;> simp only [List.length_cons] at * <;> omega
    · cases h
      exact Nat.le_refl _

theorem length_whole? {cs ds rest : List Char} (h : whole? cs = some (ds, rest)) : rest.length < cs.length := by
  unfold whole? at h
  obtain ⟨⟨ds', rest'⟩, hrun, h⟩ := Option.bind_eq_some_iff.mp h
  dsimp only at h
  split at h
  · cases h
  · cases h
    exact length_digitRun? hrun

theorem length_number? {cs rest : List Char} {n : Number} (h : number? cs = some (n, rest)) :
    rest.length < cs.length := by
  unfold number? at h
  simp only [Option.bind_eq_bind, Option.bind_eq_some_iff] at h
  obtain ⟨⟨whole, cs₁⟩, hwhole, ⟨part, cs₂⟩, hpart, ⟨exponent, cs₃⟩, hexponent, heq⟩ := h
  cases heq
  have h₁ := length_whole? hwhole
  have h₂ := length_part?_le hpart
  have h₃ := length_exponent?_le hexponent
  split at h₁ <;> simp only [List.length_cons] at * <;> omega

theorem length_skipScalar? {cs rest : List Char} (h : skipScalar? cs = some rest) : rest.length < cs.length := by
  unfold skipScalar? at h
  split at h
  · cases h
  · split at h
    · exact Nat.lt_succ_of_lt (length_skipText? h)
    split at h
    · obtain ⟨⟨n, r⟩, hnumber, rfl⟩ := Option.map_eq_some_iff.mp h
      exact length_number? hnumber
    · obtain ⟨w, -, h⟩ := Option.bind_eq_some_iff.mp h
      split at h
      · cases h
        exact Nat.lt_succ_of_le (List.drop_sublist ..).length_le
      · cases h

/-! ### Rounds of passing over -/

/-- A bracket and the state behind it: its first name is passed over, or it is closed at once. -/
def opened (open_ : List Bracket) (b : Bracket) (cs : List Char) : Option (List Bracket × List Char) :=
  match skipBlank cs with
  | c :: rest => if c = b.closing then skipClosing open_ rest else (skipName b (c :: rest)).map (b :: open_, ·)
  | [] => none

/-- One round: a bracket or a scalar. -/
def skipRound (open_ : List Bracket) (cs : List Char) : Option (List Bracket × List Char) :=
  match skipBlank cs with
  | '[' :: rest => opened open_ .list rest
  | '\x7b' :: rest => opened open_ .object rest
  | cs => (skipScalar? cs).bind (skipClosing open_)

/-- The rounds behind a state; with no bracket open there is none. -/
def goOn (rounds : Nat) : List Bracket × List Char → Option (List Char)
  | ([], rest) => some rest
  | (b :: open_, rest) => skipFrom rounds (b :: open_) rest

variable {open_ open' : List Bracket} {cs cs' rest : List Char} {b : Bracket}

theorem skipFrom_succ (rounds : Nat) (open_ : List Bracket) (cs : List Char) :
    skipFrom (rounds + 1) open_ cs = (skipRound open_ cs).bind (goOn rounds) := by
  rw [skipFrom]
  split
  · next hround => rw [show skipRound open_ cs = _ from hround]; rfl
  · next open' _ hopen hround =>
    rw [show skipRound open_ cs = _ from hround]
    cases open' with
    | nil => exact (hopen rfl).elim
    | cons => rfl
  · next hround => rw [show skipRound open_ cs = _ from hround]; rfl

theorem skipFrom_skipBlank (rounds : Nat) (open_ : List Bracket) (cs : List Char) :
    skipFrom rounds open_ (skipBlank cs) = skipFrom rounds open_ cs := by
  cases rounds with
  | zero => rfl
  | succ rounds => rw [skipFrom_succ, skipFrom_succ, skipRound, skipRound, skipBlank_skipBlank]

theorem length_skipName_le (h : skipName b cs = some rest) : rest.length ≤ cs.length := by
  cases b with
  | list => cases h; exact Nat.le_refl _
  | object =>
    have hblank := length_skipBlank_le cs
    rw [skipName] at h
    split at h
    · next text hcs =>
      obtain ⟨behind, htext, h⟩ := Option.bind_eq_some_iff.mp h
      have hlt := length_skipText? htext
      have hblank' := length_skipBlank_le behind
      split at h
      · next hbehind =>
        cases h
        rw [hcs] at hblank
        rw [hbehind] at hblank'
        simp only [List.length_cons] at *
        omega
      · cases h
    · cases h

theorem length_skipClosing_le (h : skipClosing open_ cs = some (open', rest)) : rest.length ≤ cs.length := by
  induction open_ generalizing cs with
  | nil => cases h; exact Nat.le_refl _
  | cons b open_ ih =>
    have hblank := length_skipBlank_le cs
    unfold skipClosing at h
    split at h
    · next c behind hcs =>
      rw [hcs] at hblank
      refine Nat.le_trans ?_ (Nat.le_of_succ_le hblank)
      split at h
      · exact ih h
      · split at h
        · obtain ⟨r, hname, heq⟩ := Option.map_eq_some_iff.mp h
          cases heq
          exact length_skipName_le hname
        · cases h
    · cases h

theorem length_opened_le (h : opened open_ b cs = some (open', rest)) : rest.length ≤ cs.length := by
  have hblank := length_skipBlank_le cs
  unfold opened at h
  split at h
  · next c behind hcs =>
    rw [hcs] at hblank
    refine Nat.le_trans ?_ hblank
    split at h
    · exact Nat.le_succ_of_le (length_skipClosing_le h)
    · obtain ⟨r, hname, heq⟩ := Option.map_eq_some_iff.mp h
      cases heq
      exact length_skipName_le hname
  · cases h

/-- Every round takes something. -/
theorem length_skipRound (h : skipRound open_ cs = some (open', rest)) : rest.length < cs.length := by
  have hblank := length_skipBlank_le cs
  refine Nat.lt_of_lt_of_le ?_ hblank
  unfold skipRound at h
  split at h
  · next hcs => rw [hcs]; exact Nat.lt_succ_of_le (length_opened_le h)
  · next hcs => rw [hcs]; exact Nat.lt_succ_of_le (length_opened_le h)
  · obtain ⟨r, hscalar, h⟩ := Option.bind_eq_some_iff.mp h
    exact Nat.lt_of_le_of_lt (length_skipClosing_le h) (length_skipScalar? hscalar)

/-! ### Brackets around -/

/-- Further brackets are open around the ones of a state. -/
def within (around : List Bracket) : List Bracket × List Char → Option (List Bracket × List Char)
  | ([], rest) => skipClosing around rest
  | (b :: open_, rest) => some (b :: open_ ++ around, rest)

theorem skipClosing_append (open_ around : List Bracket) (cs : List Char) :
    skipClosing (open_ ++ around) cs = (skipClosing open_ cs).bind (within around) := by
  induction open_ generalizing cs with
  | nil => rfl
  | cons b open_ ih =>
    simp only [List.cons_append, skipClosing]
    split
    · split
      · exact ih _
      · split
        · cases skipName b _ <;> rfl
        · rfl
    · rfl

theorem opened_append (open_ around : List Bracket) (b : Bracket) (cs : List Char) :
    opened (open_ ++ around) b cs = (opened open_ b cs).bind (within around) := by
  unfold opened
  split
  · split
    · exact skipClosing_append ..
    · cases skipName b _ <;> rfl
  · rfl

theorem skipRound_append (open_ around : List Bracket) (cs : List Char) :
    skipRound (open_ ++ around) cs = (skipRound open_ cs).bind (within around) := by
  unfold skipRound
  split
  · exact opened_append ..
  · exact opened_append ..
  · cases skipScalar? _ with
    | none => rfl
    | some rest => exact skipClosing_append ..

/-! ### Values -/

/-- A value ends at `rest`: whatever brackets are open, some rounds lead from the value to where these go on to be
closed. -/
def Passes (cs rest : List Char) : Prop :=
  ∃ k, k + rest.length ≤ cs.length ∧ ∀ open_ st n, skipClosing open_ rest = some st →
    skipFrom (k + n) open_ cs = goOn n st

theorem passes_of_skipFrom {rounds : Nat} (h : skipFrom rounds open_ cs = some rest) :
    ∃ k, k + rest.length ≤ cs.length ∧ ∀ around st n, skipClosing around rest = some st →
      skipFrom (k + n) (open_ ++ around) cs = goOn n st := by
  induction rounds generalizing open_ cs with
  | zero => cases h
  | succ rounds ih =>
    rw [skipFrom_succ] at h
    obtain ⟨⟨open', cs'⟩, hround, h⟩ := Option.bind_eq_some_iff.mp h
    have hlt := length_skipRound hround
    cases open' with
    | nil =>
      -- the last bracket of the value is closed: the ones around go on in the same round
      cases h
      refine ⟨1, by omega, fun around st n hst => ?_⟩
      rw [Nat.add_comm, skipFrom_succ, skipRound_append, hround]
      show (skipClosing around rest).bind (goOn n) = _
      rw [hst, Option.bind_some]
    | cons b open' =>
      obtain ⟨k, hk, hgo⟩ := ih h
      refine ⟨k + 1, by omega, fun around st n hst => ?_⟩
      rw [Nat.add_right_comm, skipFrom_succ, skipRound_append, hround]
      exact hgo around st n hst

/-- A value is passed over in the same way whatever brackets are open around it. -/
theorem skip_eq_ok_iff : skip cs = .ok rest ↔ Passes cs rest := by
  unfold skip
  constructor
  · intro h
    split at h
    · next heq =>
      cases h
      exact passes_of_skipFrom heq
    · cases h
  · rintro ⟨k, hk, hgo⟩
    obtain ⟨n, hn⟩ := Nat.exists_eq_add_of_le (show k ≤ cs.length + 1 by omega)
    rw [hn, hgo [] ([], rest) n rfl]
    rfl

theorem Passes.of_skipBlank (h : Passes (skipBlank cs) rest) : Passes cs rest := by
  obtain ⟨k, hk, hgo⟩ := h
  refine ⟨k, Nat.le_trans hk (length_skipBlank_le cs), fun open_ st n hst => ?_⟩
  rw [← skipFrom_skipBlank]
  exact hgo open_ st n hst

theorem passes_of_skipScalar? (h : skipScalar? cs = some rest) (hblank : skipBlank cs = cs) : Passes cs rest := by
  refine ⟨1, Nat.add_comm 1 _ ▸ length_skipScalar? h, fun open_ st n hst => ?_⟩
  have hround : skipRound open_ cs = skipClosing open_ rest := by
    unfold skipRound
    rw [hblank]
    split
    · cases h
    · cases h
    · rw [h, Option.bind_some]
  rw [Nat.add_comm, skipFrom_succ, hround, hst, Option.bind_some]

/-! ### From one value to the next -/

/-- The state behind a bracket (`first`) or behind a value in it. -/
def resume (first : Bool) (open_ : List Bracket) (b : Bracket) (cs : List Char) : Option (List Bracket × List Char) :=
  if first then opened open_ b cs else skipClosing (b :: open_) cs

/-- A bracket is closed at `rest`, from behind it (`first`) or behind a value in it. -/
def Closes (first : Bool) (b : Bracket) (cs rest : List Char) : Prop :=
  ∃ k, k + rest.length ≤ cs.length ∧ ∀ open_ st n, skipClosing open_ rest = some st →
    ∃ st', resume first open_ b cs = some st' ∧ goOn (k + n) st' = goOn n st

variable {first : Bool} {text mid mid' : List Char}

theorem Closes.passes {c : Char} (h : Closes true b cs rest)
    (hopens : ∀ open_, skipRound open_ (c :: cs) = opened open_ b cs) : Passes (c :: cs) rest := by
  obtain ⟨k, hk, hgo⟩ := h
  refine ⟨k + 1, by simp only [List.length_cons]; omega, fun open_ st n hst => ?_⟩
  obtain ⟨st', hopened, hgo⟩ := hgo open_ st n hst
  rw [Nat.add_right_comm, skipFrom_succ, hopens, show opened open_ b cs = some st' from hopened, Option.bind_some, hgo]

theorem Closes.passes_list (h : Closes true .list cs rest) : Passes ('[' :: cs) rest := h.passes fun _ => rfl

theorem Closes.passes_object (h : Closes true .object cs rest) : Passes ('\x7b' :: cs) rest := h.passes fun _ => rfl

theorem resume_of_closing {b : Bracket} (h : skipBlank cs = b.closing :: rest) (first : Bool) (open_ : List Bracket) :
    resume first open_ b cs = skipClosing open_ rest := by
  cases first with
  | true =>
    show opened open_ b cs = _
    rw [opened, h]
    exact if_pos rfl
  | false =>
    show skipClosing (b :: open_) cs = _
    rw [skipClosing, h]
    exact if_pos rfl

theorem closes_of_closing {b : Bracket} (h : skipBlank cs = b.closing :: rest) (first : Bool) :
    Closes first b cs rest := by
  have hlen := length_skipBlank_le cs
  rw [h, List.length_cons] at hlen
  refine ⟨0, by omega, fun open_ st n hst => ⟨st, ?_, by rw [Nat.zero_add]⟩⟩
  rw [resume_of_closing h, hst]

/-- Where a bracket is closed at once it does not matter what came before. -/
theorem Closes.of_closing {b : Bracket} {behind : List Char} (hclosing : skipBlank cs = b.closing :: behind)
    (h : Closes false b cs rest) (first : Bool) : Closes first b cs rest := by
  obtain ⟨k, hk, hgo⟩ := h
  refine ⟨k, hk, fun open_ st n hst => ?_⟩
  rw [resume_of_closing hclosing, ← resume_of_closing hclosing false]
  exact hgo open_ st n hst

/-- The next value in the bracket begins at `mid`, and behind this value the bracket is closed. -/
theorem closes_of_passes (hlen : mid.length ≤ cs.length)
    (hresume : ∀ open_, ∃ text, resume first open_ b cs = some (b :: open_, text) ∧ skipBlank text = skipBlank mid)
    (hvalue : Passes mid mid') (h : Closes false b mid' rest) : Closes first b cs rest := by
  obtain ⟨k, hk, hgo⟩ := hvalue
  obtain ⟨k', hk', hgo'⟩ := h
  refine ⟨k + k', by omega, fun open_ st n hst => ?_⟩
  obtain ⟨st', hst', hgo'⟩ := hgo' open_ st n hst
  obtain ⟨text, hresume, htext⟩ := hresume open_
  refine ⟨_, hresume, ?_⟩
  show skipFrom _ (b :: open_) text = _
  rw [← skipFrom_skipBlank, htext, skipFrom_skipBlank, Nat.add_assoc, hgo (b :: open_) st' _ hst', hgo']

theorem closes_of_listEnd (h : listEnd cs = .ok rest) (first : Bool) : Closes first .list cs rest := by
  unfold listEnd at h
  split at h
  · next hcs => cases h; exact closes_of_closing hcs first
  · cases h

theorem nextElement_eq_none (h : nextElement first cs = .ok none) : ∃ behind, skipBlank cs = ']' :: behind := by
  unfold nextElement at h
  split at h
  · cases h
  · next hcs => exact ⟨_, hcs⟩
  · split at h <;> cases h
  · split at h <;> cases h

theorem closes_of_nextElement (h : nextElement first cs = .ok (some mid)) (hvalue : Passes mid mid')
    (hrest : Closes false .list mid' rest) : Closes first .list cs rest := by
  have hlen := length_skipBlank_le cs
  unfold nextElement at h
  split at h
  · cases h
  · cases h
  · next behind hcs =>
    have hlen' := length_skipBlank_le behind
    rw [hcs, List.length_cons] at hlen
    split at h
    · cases h
    · cases h
    · cases h
    · -- behind a comma
      cases h
      refine closes_of_passes (by omega) (fun open_ => ⟨behind, ?_, (skipBlank_skipBlank _).symm⟩) hvalue hrest
      show skipClosing (.list :: open_) cs = _
      rw [skipClosing, hcs]
      rfl
  · next hnil hend _ =>
    split at h
    · -- the first one
      next hfirst =>
      cases h
      refine closes_of_passes hlen (fun open_ => ⟨skipBlank cs, ?_, rfl⟩) hvalue hrest
      rw [resume, if_pos hfirst, opened]
      split
      · next c behind hcs =>
        rw [if_neg (fun hc => hend behind (by rw [hcs, hc]; rfl)), hcs]
        rfl
      · next hcs => exact absurd hcs hnil
    · cases h

theorem closes_of_nextMember_false (h : nextMember first cs = .ok (false, rest)) : Closes first .object cs rest := by
  unfold nextMember at h
  split at h
  · next hcs => cases h; exact closes_of_closing hcs first
  · split at h <;> cases h
  · split at h <;> cases h
  · cases h

end EndpointWatch.Json
