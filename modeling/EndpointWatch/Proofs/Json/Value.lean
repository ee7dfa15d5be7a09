import EndpointWatch.Proofs.Instant.Rfc3339
import EndpointWatch.Proofs.Json.StringMap
import Mathlib.Algebra.Ring.Int.Defs

/-!
# Reading values back

What a reader takes off a value inside an object, where a comma or the closing bracket follows: numbers of every width,
booleans, strings, instants, and each of them or `null`.
-/

namespace EndpointWatch.Json

open Text

/-- What stands behind a value inside an object. -/
def Ends (c : Char) : Prop := c = ',' ∨ c = '\x7d'

/-- The reader takes this text off an object for this value. -/
def Reads {α : Type} (r : Reader α) (text : List Char) (a : α) : Prop :=
  ∀ c rest, Ends c → r (text ++ c :: rest) = .ok (a, c :: rest)

variable {α β : Type} {r : Reader α} {text : List Char} {a : α}

theorem Reads.map (h : Reads r text a) (f : α → β) : Reads (r.map f) text (f a) := by
  intro c rest hc
  rw [Reader.map, h c rest hc]

theorem Reads.check {f : α → Except Fault β} {b : β} (h : Reads r text a) (hf : f a = .ok b) :
    Reads (r.check f) text b := by
  intro c rest hc
  simp only [Reader.check, h c rest hc, hf]

/-! ### Numbers -/

theorem Ends.not_isDigit {c : Char} (hc : Ends c) : c.isDigit = false := by
  rcases hc with rfl | rfl <;> decide

/-- A number begins with a digit. -/
theorem ofNat_eq_cons (n : Nat) : ∃ d ds, ofNat n = d :: ds ∧ d.isDigit = true := by
  obtain ⟨d, ds, h⟩ := List.exists_cons_of_ne_nil (ofNat_ne_nil n)
  exact ⟨d, ds, h, isDigit_of_mem_ofNat (h ▸ List.mem_cons_self)⟩

theorem whole?_ofNat (n : Nat) {c : Char} (hc : c.isDigit = false) (rest : List Char) :
    whole? (ofNat n ++ c :: rest) = some (ofNat n, c :: rest) := by
  have hdigits : ∀ d ∈ ofNat n, d.isDigit = true := fun d hd => isDigit_of_mem_ofNat hd
  obtain ⟨d, ds, hd, -⟩ := ofNat_eq_cons n
  have hrun : digitRun? (ofNat n ++ c :: rest) = some (ofNat n, c :: rest) := by
    rw [digitRun?, takeWhile_isDigit_append hdigits hc, dropWhile_isDigit_append hdigits hc, hd]
  rw [whole?, hrun]
  dsimp only [Option.bind_eq_bind, Option.bind_some]
  split
  · next heq => cases (ofNat_eq_zero_cons heq).2
  · rfl

theorem number?_ofNat (n : Nat) {c : Char} (hc : Ends c) (rest : List Char) :
    number? (ofNat n ++ c :: rest) = some (⟨false, ofNat n, none, none⟩, c :: rest) := by
  have hwhole := whole?_ofNat n hc.not_isDigit rest
  obtain ⟨d, ds, hd, hdigit⟩ := ofNat_eq_cons n
  have hsign : d ≠ '-' := by
    rintro rfl
    exact absurd hdigit (by decide)
  rw [hd, List.cons_append] at hwhole ⊢
  rcases hc with rfl | rfl <;> simp [number?, hsign, hwhole, part?, exponent?]

theorem number?_minus_ofNat (n : Nat) {c : Char} (hc : Ends c) (rest : List Char) :
    number? ('-' :: (ofNat n ++ c :: rest)) = some (⟨true, ofNat n, none, none⟩, c :: rest) := by
  have hwhole := whole?_ofNat n hc.not_isDigit rest
  rcases hc with rfl | rfl <;> simp [number?, hwhole, part?, exponent?]

theorem numberValue_ofInt {n : Int} (hlo : -2 ^ 63 ≤ n) (hhi : n < 2 ^ 64) :
    Reads numberValue (ofInt n) (.integer n) := by
  intro c rest hc
  cases n with
  | ofNat n =>
    have hlt : n < 2 ^ 64 := Int.ofNat_lt.mp hhi
    rw [ofInt, numberValue, number?_ofNat n hc]
    simp only [Number.value?, toNat_ofNat, Bool.false_eq_true, if_false, if_pos hlt]
    rfl
  | negSucc n =>
    have hle : 0 < n + 1 ∧ n + 1 ≤ 2 ^ 63 := by omega
    rw [ofInt, List.cons_append, numberValue, number?_minus_ofNat (n + 1) hc]
    simp only [Number.value?, toNat_ofNat, if_true, if_pos hle]
    rfl

theorem ofInt_eq_cons (n : Int) : ∃ d ds, ofInt n = d :: ds ∧ startsNumber d = true := by
  cases n with
  | ofNat n =>
    obtain ⟨d, ds, hd, hdigit⟩ := ofNat_eq_cons n
    exact ⟨d, ds, hd, by rw [startsNumber, hdigit, Bool.or_true]⟩
  | negSucc n => exact ⟨'-', _, rfl, rfl⟩

theorem isBlank_of_startsNumber {c : Char} (h : startsNumber c = true) : isBlank c = false := by
  rw [startsNumber, Bool.or_eq_true, decide_eq_true_eq] at h
  rcases h with rfl | h
  · rfl
  · have hc := toNat_of_isDigit h
    have hne (d : Char) (hd : d.toNat < 48) : c ≠ d := by
      rintro rfl
      omega
    simp only [isBlank, hne ' ' (by decide), hne '\n' (by decide), hne '\t' (by decide), hne '\r' (by decide), decide_false,
      Bool.or_false]

theorem reads_integerIn (expected : String) {lo hi n : Int} (hlo : -2 ^ 63 ≤ lo) (hhi : hi < 2 ^ 64) (h : lo ≤ n ∧ n ≤ hi) :
    Reads (integerIn expected lo hi) (ofInt n) n := by
  intro c rest hc
  have hvalue := numberValue_ofInt (n := n) (by omega) (by omega) c rest hc
  obtain ⟨d, ds, hd, hstarts⟩ := ofInt_eq_cons n
  rw [hd, List.cons_append] at hvalue ⊢
  have hskip : skipBlank (d :: (ds ++ c :: rest)) = d :: (ds ++ c :: rest) := by
    rw [skipBlank, List.dropWhile_cons_of_neg (by rw [isBlank_of_startsNumber hstarts]; exact Bool.false_ne_true)]
  simp only [integerIn, numberAs, hskip, hstarts, if_true, hvalue, bind, Except.bind, if_pos h]

theorem reads_int64 (n : Int64) : Reads int64 (ofInt n.toInt) n := by
  have h := (reads_integerIn "i64" (by decide) (by decide) ⟨n.le_toInt, Int.le_sub_one_of_lt n.toInt_lt⟩).map
    Int64.ofInt
  rwa [Int64.ofInt_toInt] at h

theorem reads_natural {expected : String} {hi : Int} {of : Nat → α} {n : Nat} (hhi : hi < 2 ^ 64) (h : (n : Int) ≤ hi)
    (hof : of n = a) : Reads ((integerIn expected 0 hi).map fun m => of m.toNat) (ofNat n) a := by
  have hread := (reads_integerIn expected (n := n) (by decide) hhi ⟨Int.natCast_nonneg n, h⟩).map
    fun m => of m.toNat
  rwa [Int.toNat_natCast, hof] at hread

theorem reads_uint64 (n : UInt64) : Reads uint64 (ofNat n.toNat) n :=
  reads_natural (by decide) (Int.le_sub_one_of_lt (Int.ofNat_lt.mpr n.toNat_lt)) UInt64.ofNat_toNat

theorem reads_uint32 (n : UInt32) : Reads uint32 (ofNat n.toNat) n :=
  reads_natural (by decide) (Int.le_sub_one_of_lt (Int.ofNat_lt.mpr n.toNat_lt)) UInt32.ofNat_toNat

theorem reads_uint16 (n : UInt16) : Reads uint16 (ofNat n.toNat) n :=
  reads_natural (by decide) (Int.le_sub_one_of_lt (Int.ofNat_lt.mpr n.toNat_lt)) UInt16.ofNat_toNat

/-! ### Words -/

theorem reads_boolean (b : Bool) : Reads boolean (writeBool b) b := by
  intro c rest hc
  cases b <;> rfl

/-- What cannot be taken for the beginning of `null`. -/
def NotNull (text : List Char) : Prop := ∃ c cs, text = c :: cs ∧ isBlank c = false ∧ c ≠ 'n'

theorem reads_optional {write : α → List Char} {o : Option α} (h : ∀ a ∈ o, Reads r (write a) a ∧ NotNull (write a)) :
    Reads (optional r) (writeOptional write o) o := by
  intro c rest hc
  cases o with
  | none => rfl
  | some a =>
    obtain ⟨hread, d, ds, hd, hblank, hn⟩ := h a rfl
    have hvalue := hread c rest hc
    rw [writeOptional]
    rw [hd, List.cons_append] at hvalue ⊢
    have hskip : skipBlank (d :: (ds ++ c :: rest)) = d :: (ds ++ c :: rest) := by
      rw [skipBlank, List.dropWhile_cons_of_neg (by rw [hblank]; exact Bool.false_ne_true)]
    simp [optional, hskip, hn, Reader.map, hvalue]

theorem notNull_ofNat (n : Nat) : NotNull (ofNat n) := by
  obtain ⟨d, ds, hd, hdigit⟩ := ofNat_eq_cons n
  refine ⟨d, ds, hd, isBlank_of_startsNumber ?_, ?_⟩
  · rw [startsNumber, hdigit, Bool.or_true]
  · rintro rfl
    exact absurd hdigit (by decide)

theorem notNull_writeString (s : String) : NotNull (writeString s) := ⟨'"', _, rfl, rfl, by decide⟩

/-! ### Strings and instants -/

theorem reads_string (s : String) : Reads string (writeString s) s := fun c rest _ => string_writeString s (c :: rest)

/-- Text without quotes, backslashes and controls stands in a string as it is. -/
theorem text?_plain {s : List Char} (h : ∀ c ∈ s, c ≠ '"' ∧ c ≠ '\\' ∧ 0x20 ≤ c.toNat) (rest : List Char) :
    text? (s ++ '"' :: rest) = some (s, rest) := by
  induction s with
  | nil => rw [List.nil_append, text?, if_pos rfl]
  | cons c s ih =>
    obtain ⟨hq, hb, hc⟩ := h c List.mem_cons_self
    rw [List.cons_append, text?, if_neg hq, if_neg hb, if_neg (Nat.not_lt.mpr hc),
      ih fun d hd => h d (List.mem_cons_of_mem _ hd)]
    rfl

theorem reads_instant {i : Instant} (h : i.IsOrdinary) : Reads instant ('"' :: (i.render ++ ['"'])) i := by
  have hmarks : ∀ c ∈ ['+', '-', 'T', ':', '.', 'Z'], c ≠ '"' ∧ c ≠ '\\' ∧ 0x20 ≤ c.toNat := by
    intro c hc
    simp only [List.mem_cons, List.not_mem_nil, or_false] at hc
    rcases hc with rfl | rfl | rfl | rfl | rfl | rfl <;> decide
  have hplain : ∀ c ∈ i.render, c ≠ '"' ∧ c ≠ '\\' ∧ 0x20 ≤ c.toNat := by
    intro c hc
    rcases Instant.mem_render hc with hdigit | hmark
    · have := toNat_of_isDigit hdigit
      refine ⟨?_, ?_, by omega⟩ <;> (rintro rfl; exact absurd hdigit (by decide))
    · exact hmarks c hmark
  have htext : Reads (stringAs "an RFC 3339 formatted date and time string") ('"' :: (i.render ++ ['"']))
      (.ofList i.render) := by
    intro c rest _
    show textBody ((i.render ++ ['"']) ++ c :: rest) = _
    rw [List.append_assoc, List.singleton_append, textBody, text?_plain hplain]
  refine htext.check ?_
  rw [String.toList_ofList, Instant.read?_render h]

end EndpointWatch.Json
