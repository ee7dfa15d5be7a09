import EndpointWatch.Instant.Rfc3339
import EndpointWatch.Proofs.Instant
import EndpointWatch.Proofs.Instant.Calendar
import EndpointWatch.Proofs.Text.Digits
import Mathlib.Data.List.TakeWhile

/-!
# Reading instants back

Every instant outside the leap seconds whose year has four digits is read back from its text (`read?_render`): each field
is as wide as its reader expects, and the date and the clock lead back to the second. In any year and in leap seconds too
the fields are read back, and so no two instants have the same text (`renderWith_injective`).
-/

namespace EndpointWatch.Instant

open Text

/-- The year of an instant in UTC. -/
def year (i : Instant) : Int := (Date.ofDays (i.second / 86400)).year

/-- An instant outside every leap second, of the years 0000 to 9999. -/
def IsOrdinary (i : Instant) : Prop := i.IsRegular ∧ 0 ≤ i.year ∧ i.year ≤ 9999

instance (i : Instant) : Decidable i.IsOrdinary := inferInstanceAs (Decidable (_ ∧ _ ∧ _))

variable {n width : Nat}

/-! ### Fields -/

theorem padded_eq_cons (hw : 0 < width) (h : n < 10 ^ width) : ∃ c ds, padded width n = c :: ds ∧ c.isDigit = true := by
  have hlen := length_padded hw h
  cases hp : padded width n with
  | nil =>
    rw [hp, List.length_nil] at hlen
    omega
  | cons c ds => exact ⟨c, ds, rfl, isDigit_of_mem_padded (hp ▸ List.mem_cons_self)⟩

theorem isEmpty_padded (hw : 0 < width) (h : n < 10 ^ width) : (padded width n).isEmpty = false := by
  obtain ⟨c, ds, hc, -⟩ := padded_eq_cons hw h
  rw [hc]
  rfl

theorem trimFront_padded (hw : 0 < width) (h : n < 10 ^ width) (rest : List Char) :
    Unicode.trimFront (padded width n ++ rest) = padded width n ++ rest := by
  obtain ⟨c, ds, hc, hdigit⟩ := padded_eq_cons hw h
  rw [hc, List.cons_append, Unicode.trimFront_cons (isBlank_of_isDigit hdigit)]

theorem digits?_padded (hw : 0 < width) (h : n < 10 ^ width) (rest : List Char) :
    digits? width (padded width n ++ rest) = some (n, rest) := by
  have hlen := length_padded hw h
  have htake : ((padded width n ++ rest).take width).takeWhile Char.isDigit = padded width n := by
    rw [List.take_left' hlen]
    exact List.takeWhile_eq_self_iff.mpr fun c hc => isDigit_of_mem_padded hc
  simp only [digits?, htake, isEmpty_padded hw h, toNat_padded, hlen, List.drop_left' hlen]
  rfl

theorem field?_padded (h : n < 100) (rest : List Char) : field? (padded 2 n ++ rest) = some (n, rest) := by
  rw [field?, trimFront_padded (by decide) h, digits?_padded (by decide) h]

theorem mark?_cons {c : Char} (hc : Unicode.isBlank c = false) (rest : List Char) : mark? c (c :: rest) = some rest := by
  rw [mark?, Unicode.trimFront_cons hc]
  exact if_pos rfl

theorem digits?_length {c : Char} (hc : c.isDigit = false) (width n : Nat) (rest : List Char) :
    digits? (padded width n ++ c :: rest).length (padded width n ++ c :: rest) = some (n, c :: rest) := by
  have hdigits : ∀ c ∈ padded width n, c.isDigit = true := fun c hc => isDigit_of_mem_padded hc
  have hne : (padded width n).isEmpty = false := by
    simp [padded, ofNat_ne_nil]
  simp only [digits?, List.take_length, takeWhile_isDigit_append hdigits hc, hne, toNat_padded, List.drop_left]
  rfl

/-- Every year is read back from its text, whether it has four digits or a sign. -/
theorem year?_yearText {c : Char} (hc : c.isDigit = false) (y : Int) (rest : List Char) :
    year? (yearText y ++ c :: rest) = some (y, c :: rest) := by
  unfold yearText
  split
  · next hy =>
    have hlt : y.toNat < 10 ^ 4 := by omega
    obtain ⟨d, ds, hd, hdigit⟩ := padded_eq_cons (by decide) hlt
    have hread := digits?_padded (by decide : 0 < 4) hlt (c :: rest)
    rw [year?, trimFront_padded (by decide) hlt]
    rw [hd, List.cons_append] at hread ⊢
    -- the year begins with a digit, so with no sign
    split
    · next heq => cases heq; exact absurd hdigit (by decide)
    · next heq => cases heq; exact absurd hdigit (by decide)
    · rw [hread]
      exact congrArg (fun y : Int => some (y, c :: rest)) (Int.toNat_of_nonneg hy.1)
  · have hread := digits?_length hc 4 y.natAbs rest
    rw [List.cons_append]
    split
    all_goals
      rw [year?, Unicode.trimFront_cons (by decide)]
      simp only [hread, Option.map_some]
      exact congrArg (fun y : Int => some (y, c :: rest)) (by omega)

section Fraction

variable {c : Char} (hc : c.isDigit = false)
include hc

theorem nano?_point (hw : 0 < width) (hle : width ≤ 9) (h : n < 10 ^ width) (rest : List Char) :
    nano? ('.' :: (padded width n ++ c :: rest)) = some (n * 10 ^ (9 - width), c :: rest) := by
  have hlen := length_padded hw h
  have hdigits : ∀ c ∈ padded width n, c.isDigit = true := fun c hc => isDigit_of_mem_padded hc
  have htake : (padded width n).take 9 = padded width n := List.take_of_length_le (by omega)
  simp only [nano?, takeWhile_isDigit_append hdigits hc, dropWhile_isDigit_append hdigits hc, isEmpty_padded hw h, hlen,
    htake, toNat_padded]
  rfl

theorem nano?_fraction (hpoint : c ≠ '.') {nano : Nat} (h : nano < 1_000_000_000) (rest : List Char) :
    nano? (fraction nano ++ c :: rest) = some (nano, c :: rest) := by
  unfold fraction
  split
  · next h0 =>
    rw [h0, List.nil_append]
    unfold nano?
    split
    · next heq => exact absurd (List.cons_eq_cons.mp heq).1 hpoint
    · rfl
  split
  · rw [List.cons_append, nano?_point hc (by decide) (by decide) (by omega)]
    exact congrArg (fun n => some (n, c :: rest)) (by omega)
  split
  · rw [List.cons_append, nano?_point hc (by decide) (by decide) (by omega)]
    exact congrArg (fun n => some (n, c :: rest)) (by omega)
  · rw [List.cons_append, nano?_point hc (by decide) (by decide) h]
    exact congrArg (fun n => some (n, c :: rest)) (Nat.mul_one nano)

end Fraction

/-! ### Date and clock -/

theorem date?_dateText {d : Date} (hd : d.IsValid) (hlo : 0 ≤ d.year) (hhi : d.year ≤ 9999) (hm : d.month < 100)
    (hday : d.day < 100) (rest : List Char) : date? (dateText d ++ rest) = some (d, rest) := by
  have hyears : supportedYears d.year = true := by
    simp only [supportedYears, Bool.and_eq_true, decide_eq_true_eq]
    omega
  have hdigit : Char.isDigit '-' = false := by decide
  have hdash := mark?_cons (by decide : Unicode.isBlank '-' = false)
  simp only [date?, dateText, List.append_assoc, List.cons_append, year?_yearText hdigit, hdash,
    field?_padded hm, field?_padded hday, Option.bind_eq_bind, Option.bind_some]
  exact if_pos ⟨hd, hyears⟩

section Clock

variable {c : Char} (hc : c.isDigit = false) (hpoint : c ≠ '.')
include hc hpoint

theorem clock?_fields {hour minute second nano : Nat} (hhour : hour < 100) (hminute : minute < 100)
    (hsecond : second < 100) (hn : nano < 1_000_000_000) (rest : List Char) :
    clock? (padded 2 hour ++ ':' :: padded 2 minute ++ ':' :: padded 2 second ++ fraction nano ++ c :: rest) =
      if hour < 24 ∧ minute < 60 ∧ second ≤ 60 then
        some (if second = 60 then (3600 * hour + 60 * minute + 59, nano + 1_000_000_000, c :: rest)
          else (3600 * hour + 60 * minute + second, nano, c :: rest))
      else none := by
  have hcolon := mark?_cons (by decide : Unicode.isBlank ':' = false)
  simp only [clock?, List.append_assoc, List.cons_append, field?_padded hhour, field?_padded hminute,
    field?_padded hsecond, hcolon, nano?_fraction hc hpoint hn, Option.bind_eq_bind, Option.bind_some]

/-- The time of day is read back from its text, in leap seconds too. -/
theorem clock?_clockText {second nano : Nat} (hs : second < 86400) (hn : nano < 2_000_000_000)
    (hleap : 1_000_000_000 ≤ nano → second % 60 = 59) (rest : List Char) :
    clock? (clockText second nano ++ c :: rest) = some (second, nano, c :: rest) := by
  by_cases hregular : nano < 1_000_000_000
  · rw [clockText, if_pos hregular, clock?_fields hc hpoint (by omega) (by omega) (by omega) hregular, if_pos (by omega),
      if_neg (by omega)]
    exact congrArg (fun s => some (s, nano, c :: rest)) (by omega)
  · -- the second is the last of its minute, and written as the one after it
    have hlast := hleap (Nat.not_lt.mp hregular)
    obtain ⟨k, hk⟩ : ∃ k, nano - 1_000_000_000 = k := ⟨_, rfl⟩
    have hnano : k + 1_000_000_000 = nano := by omega
    rw [clockText, if_neg hregular, hk, clock?_fields hc hpoint (by omega) (by omega) (by omega) (by omega),
      if_pos (by omega), if_pos (by omega), hnano]
    exact congrArg (fun s => some (s, nano, c :: rest)) (by omega)

end Clock

/-! ### Instants -/

theorem mem_fraction {nano : Nat} {c : Char} (h : c ∈ fraction nano) : c.isDigit = true ∨ c = '.' := by
  unfold fraction at h
  split at h
  · cases h
  split at h
  · exact (List.mem_cons.mp h).symm.imp_left isDigit_of_mem_padded
  split at h
  · exact (List.mem_cons.mp h).symm.imp_left isDigit_of_mem_padded
  · exact (List.mem_cons.mp h).symm.imp_left isDigit_of_mem_padded

theorem mem_yearText {y : Int} {c : Char} (h : c ∈ yearText y) : c.isDigit = true ∨ c ∈ ['+', '-'] := by
  unfold yearText at h
  split at h
  · exact .inl (isDigit_of_mem_padded h)
  · refine (List.mem_cons.mp h).symm.imp isDigit_of_mem_padded ?_
    rintro rfl
    split <;> decide

/-- The text of an instant has digits, and six other characters. -/
theorem mem_render {i : Instant} {c : Char} (h : c ∈ i.render) :
    c.isDigit = true ∨ c ∈ ['+', '-', 'T', ':', '.', 'Z'] := by
  have hpadded (width n : Nat) (h : c ∈ padded width n) : c.isDigit = true := isDigit_of_mem_padded h
  unfold render renderWith dateText clockText at h
  grind [mem_yearText, mem_fraction]

/-- An ordinary instant is read back from its text. -/
theorem read?_render {i : Instant} (h : i.IsOrdinary) : read? i.render = some i := by
  obtain ⟨hregular, hlo, hhi⟩ := h
  change 0 ≤ (Date.ofDays (i.second / 86400)).year at hlo
  change (Date.ofDays (i.second / 86400)).year ≤ 9999 at hhi
  have hsecond : (i.second % 86400).toNat < 86400 := by omega
  have hmonth := Date.month_le (i.second / 86400)
  have hday := Date.day_le (i.second / 86400)
  have hdate (rest : List Char) := date?_dateText (Date.isValid_ofDays (i.second / 86400)) hlo hhi (by omega) (by omega) rest
  have hyears : supportedYears (Date.ofDays (i.second / 86400)).year = true := by
    simp only [supportedYears, Bool.and_eq_true, decide_eq_true_eq]
    omega
  have hclock := clock?_clockText (by decide : Char.isDigit 'Z' = false) (by decide) hsecond i.nano_lt
    (fun hn => absurd hregular (Nat.not_lt.mpr hn)) []
  have hZ := Unicode.trimFront_cons (by decide : Unicode.isBlank 'Z' = false) []
  have hback : i.second / 86400 * 86400 + ((i.second % 86400).toNat : Int) - 60 * 0 = i.second := by omega
  have hparts : ofParts? i.second i.nano = some i := by
    rw [ofParts?, dif_pos ⟨i.nano_lt, i.leap⟩, if_pos hyears]
  simp only [render, renderWith, read?, List.append_assoc, hdate, Option.bind_eq_bind, Option.bind_some,
    List.cons_append, hclock, hZ, offset?, Date.toDays_ofDays, hback]
  exact hparts

/-! ### Different instants -/

theorem dateText_inj {d d' : Date} (hm : d.month < 100) (hm' : d'.month < 100) (hday : d.day < 100) (hday' : d'.day < 100)
    {rest rest' : List Char} (h : dateText d ++ rest = dateText d' ++ rest') : d = d' ∧ rest = rest' := by
  simp only [dateText, List.append_assoc, List.cons_append] at h
  have hyear := congrArg year? h
  simp only [year?_yearText (by decide : Char.isDigit '-' = false), Option.some.injEq, Prod.mk.injEq, List.cons.injEq,
    true_and] at hyear
  obtain ⟨hyear, h⟩ := hyear
  have hmonth := congrArg field? h
  simp only [field?_padded hm, field?_padded hm', Option.some.injEq, Prod.mk.injEq, List.cons.injEq, true_and] at hmonth
  obtain ⟨hmonth, h⟩ := hmonth
  have hrest := congrArg field? h
  simp only [field?_padded hday, field?_padded hday', Option.some.injEq, Prod.mk.injEq] at hrest
  obtain ⟨hday, hrest⟩ := hrest
  exact ⟨by rw [Date.mk.injEq]; exact ⟨hyear, hmonth, hday⟩, hrest⟩

/-- No two instants have the same text, whatever the offset text is that tells where the fraction ends. -/
theorem renderWith_injective {c : Char} (hc : c.isDigit = false) (hpoint : c ≠ '.') (offset : List Char) :
    Function.Injective (renderWith (c :: offset)) := by
  intro i j h
  simp only [renderWith, List.append_assoc, List.cons_append] at h
  have hmonth := Date.month_le (i.second / 86400)
  have hmonth' := Date.month_le (j.second / 86400)
  have hday := Date.day_le (i.second / 86400)
  have hday' := Date.day_le (j.second / 86400)
  obtain ⟨hdate, h⟩ := dateText_inj (by omega) (by omega) (by omega) (by omega) h
  have hdays : i.second / 86400 = j.second / 86400 := by
    rw [← Date.toDays_ofDays (i.second / 86400), hdate, Date.toDays_ofDays]
  have hclock (i : Instant) := clock?_clockText hc hpoint (by omega : (i.second % 86400).toNat < 86400) i.nano_lt
    (fun hn => by have := i.leap hn; omega) offset
  have hread := congrArg clock? (List.cons_eq_cons.mp h).2
  simp only [hclock, Option.some.injEq, Prod.mk.injEq, and_true] at hread
  exact Instant.ext (by omega) hread.2

end EndpointWatch.Instant
