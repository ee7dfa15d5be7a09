import EndpointWatch.Json.Reader
import EndpointWatch.Json.Writer
import EndpointWatch.Proofs.Dict

/-!
# Reading back what was written

Every string is read back from its JSON text (`string_writeString`), and so is every map of strings
(`document_stringMap`).
-/

namespace EndpointWatch.Json

/-! ### Characters and strings -/

theorem hex4?_hex4 : ∀ n < 0x20, ∀ cs, hex4? (hex4 n ++ cs) = some (n, cs) := by
  have hdigits : ∀ n < 0x20, hex4 n = ['0', '0', Nat.digitChar (n / 16), Nat.digitChar (n % 16)] := by decide
  have hvalue : ∀ d < 16, Text.hexValue? (Nat.digitChar d) = some d := by decide
  intro n hn cs
  have h0 : Text.hexValue? '0' = some 0 := hvalue 0 (by decide)
  rw [hdigits n hn]
  simp only [hex4?, List.cons_append, List.nil_append, h0, hvalue (n / 16) (by omega), hvalue (n % 16) (by omega)]
  show some _ = some _
  rw [show ((0 * 16 + 0) * 16 + n / 16) * 16 + n % 16 = n by omega]

theorem text?_of_escape? {c : Char} {cs rest : List Char} (h : escape? cs = some (c, rest)) :
    text? ('\\' :: cs) = (text? rest).map fun (s, r) => (c :: s, r) := by
  rw [text?, if_neg (by decide), if_pos rfl]
  split
  · next he =>
    rw [h] at he
    obtain ⟨rfl, rfl⟩ := Prod.mk.injEq .. ▸ Option.some.inj he
    rfl
  · next he => cases h.symm.trans he

theorem text?_writeChar (c : Char) (cs : List Char) :
    text? (writeChar c ++ cs) = (text? cs).map fun (s, r) => (c :: s, r) := by
  have hshort (a : Char) (h : shortEscape? a = some c) (ha : a ≠ 'u') :
      text? (['\\', a] ++ cs) = (text? cs).map fun (s, r) => (c :: s, r) := by
    refine text?_of_escape? ?_
    unfold escape?
    split
    · next he => cases he; exact absurd rfl ha
    · next he => cases he; rw [h]; rfl
    · next he => cases he
  unfold writeChar
  split
  · next hc => subst hc; exact hshort '"' rfl (by decide)
  split
  · next hc => subst hc; exact hshort '\\' rfl (by decide)
  split
  · next hc => subst hc; exact hshort 'b' rfl (by decide)
  split
  · next hc => subst hc; exact hshort 'f' rfl (by decide)
  split
  · next hc => subst hc; exact hshort 'n' rfl (by decide)
  split
  · next hc => subst hc; exact hshort 'r' rfl (by decide)
  split
  · next hc => subst hc; exact hshort 't' rfl (by decide)
  split
  · next hc =>
    refine text?_of_escape? ?_
    -- what is written by its number is below 0x20, so it is no half of a pair
    have hsurrogate : ¬(0xdc00 ≤ c.toNat ∧ c.toNat ≤ 0xdfff) ∧ ¬(0xd800 ≤ c.toNat ∧ c.toNat ≤ 0xdbff) := by omega
    show (hex4? (hex4 c.toNat ++ cs)).bind _ = _
    rw [hex4?_hex4 _ hc, Option.bind_some]
    simp only [if_neg hsurrogate.1, if_neg hsurrogate.2, Char.ofNat_toNat]
  · next hq hb _ _ _ _ _ hc =>
    rw [List.singleton_append, text?, if_neg hq, if_neg hb, if_neg hc]

theorem text?_flatMap_writeChar (s rest : List Char) : text? (s.flatMap writeChar ++ '"' :: rest) = some (s, rest) := by
  induction s with
  | nil => rw [List.flatMap_nil, List.nil_append, text?, if_pos rfl]
  | cons c s ih =>
    rw [List.flatMap_cons, List.append_assoc, text?_writeChar, ih]
    rfl

theorem textBody_writeString (s : String) (rest : List Char) :
    textBody ((writeString s).tail ++ rest) = .ok (s, rest) := by
  rw [textBody, writeString, List.tail_cons, List.append_assoc, List.singleton_append, text?_flatMap_writeChar]
  simp only [String.ofList_toList]

theorem string_writeString (s : String) (rest : List Char) : string (writeString s ++ rest) = .ok (s, rest) :=
  textBody_writeString s rest

/-! ### Members -/

/-- A member of an object as it is written. -/
def memberText (e : String × List Char) : List Char := writeString e.1 ++ ':' :: e.2

/-- Behind the first member each one follows a comma. -/
theorem writeMembers_cons (e : String × List Char) (l : List (String × List Char)) :
    writeMembers (e :: l) = memberText e ++ l.flatMap fun e => ',' :: memberText e := by
  induction l generalizing e with
  | nil => exact (List.append_nil _).symm
  | cons e' l ih =>
    show memberText e ++ ',' :: writeMembers (e' :: l) = _
    rw [ih e', List.flatMap_cons, List.cons_append]

theorem nextMember_memberText (e : String × List Char) (cs : List Char) :
    nextMember true (memberText e ++ cs) = .ok (true, (writeString e.1).tail ++ (':' :: e.2 ++ cs)) := by
  simp [nextMember, memberText, writeString, skipBlank, isBlank]

theorem nextMember_comma (e : String × List Char) (cs : List Char) :
    nextMember false (',' :: (memberText e ++ cs)) = .ok (true, (writeString e.1).tail ++ (':' :: e.2 ++ cs)) := by
  simp [nextMember, memberText, writeString, skipBlank, isBlank]

theorem nextMember_brace (first : Bool) (cs : List Char) : nextMember first ('\x7d' :: cs) = .ok (false, cs) := rfl

theorem colon_cons (cs : List Char) : colon (':' :: cs) = .ok cs := rfl

theorem length_le_flatMap (l : List (String × List Char)) :
    l.length ≤ (l.flatMap fun e => ',' :: memberText e).length := by
  induction l with
  | nil => exact Nat.le_refl _
  | cons e l ih =>
    simp only [List.flatMap_cons, List.length_append, List.length_cons]
    omega

/-! ### Maps of strings -/

theorem stringMembers_succ {rounds : Nat} {first : Bool} {d : Dict String String} {e : String × String}
    {text cs : List Char} (h : nextMember first text =
      .ok (true, (writeString e.1).tail ++ (':' :: writeString e.2 ++ cs))) :
    stringMembers (rounds + 1) first d text = stringMembers rounds false (d.insert e.1 e.2) cs := by
  simp only [stringMembers, h, bind, Except.bind, if_true, textBody_writeString, List.cons_append, colon_cons,
    string_writeString]

theorem stringMembers_brace (rounds : Nat) (first : Bool) (d : Dict String String) (cs : List Char) :
    stringMembers (rounds + 1) first d ('\x7d' :: cs) = .ok (d, cs) := by
  rw [stringMembers, nextMember_brace]
  rfl

theorem stringMembers_flatMap (l : List (String × String)) (rounds : Nat) (hr : l.length < rounds)
    (d : Dict String String) (cs : List Char) :
    stringMembers rounds false d ((l.map fun e => (e.1, writeString e.2)).flatMap (fun e => ',' :: memberText e) ++
      '\x7d' :: cs) = .ok (l.foldl (fun d e => d.insert e.1 e.2) d, cs) := by
  induction l generalizing rounds d with
  | nil =>
    obtain ⟨rounds, rfl⟩ := Nat.exists_eq_succ_of_ne_zero (Nat.ne_of_gt hr)
    exact stringMembers_brace rounds false d cs
  | cons e l ih =>
    obtain ⟨rounds, rfl⟩ := Nat.exists_eq_succ_of_ne_zero (Nat.ne_of_gt (Nat.lt_of_le_of_lt (Nat.zero_le _) hr))
    rw [List.map_cons, List.flatMap_cons, List.append_assoc, List.cons_append,
      stringMembers_succ (nextMember_comma (e.1, writeString e.2) _)]
    exact ih rounds (Nat.lt_of_succ_lt_succ hr) _

/-- A map of strings is read back from its JSON text. -/
theorem document_stringMap (d : Dict String String) :
    document stringMap (writeObject (d.toList.map fun e => (e.1, writeString e.2))) = .ok d := by
  have hread : stringMap (writeObject (d.toList.map fun e => (e.1, writeString e.2))) = .ok (d, []) := by
    show stringMembers _ true .empty _ = _
    rcases hl : d.toList with _ | ⟨e, l⟩
    · rw [show d = .empty from Dict.ext_toList hl]
      exact stringMembers_brace _ true _ []
    · have hlen := length_le_flatMap (l.map fun e => (e.1, writeString e.2))
      rw [List.length_map] at hlen
      rw [List.map_cons, writeMembers_cons, List.append_assoc,
        stringMembers_succ (nextMember_memberText (e.1, writeString e.2) _), stringMembers_flatMap]
      · have hd : Dict.ofList (e :: l) = d := hl ▸ Dict.ofList_toList d
        exact congrArg (fun d => Except.ok (d, [])) hd
      · simp only [List.length_append, List.length_cons]
        omega
  rw [document, hread]
  rfl

end EndpointWatch.Json
