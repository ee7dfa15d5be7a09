/-!
# White space

The characters with the property `White_Space`.
-/

namespace EndpointWatch.Unicode

/-- Whether a character is white space: controls 9 to 13, the spaces and the line and paragraph
separators. -/
def isBlank (c : Char) : Bool :=
  let n := c.toNat
  (9 ≤ n && n ≤ 13) || n = 0x20 || n = 0x85 || n = 0xa0 || n = 0x1680 || (0x2000 ≤ n && n ≤ 0x200a)
    || n = 0x2028 || n = 0x2029 || n = 0x202f || n = 0x205f || n = 0x3000

def trimFront (cs : List Char) : List Char := cs.dropWhile isBlank

def trim (cs : List Char) : List Char := (trimFront (trimFront cs).reverse).reverse

theorem trimFront_cons {c : Char} (hc : isBlank c = false) (cs : List Char) : trimFront (c :: cs) = c :: cs := by
  rw [trimFront, List.dropWhile_cons_of_neg (by rw [hc]; exact Bool.false_ne_true)]

/-- Text between two characters that are no white space is left as it is. -/
theorem trim_cons_concat {a b : Char} (ha : isBlank a = false) (hb : isBlank b = false) (cs : List Char) :
    trim (a :: (cs ++ [b])) = a :: (cs ++ [b]) := by
  rw [trim, trimFront_cons ha, ← List.cons_append, List.reverse_append, List.reverse_singleton, List.singleton_append,
    trimFront_cons hb, List.reverse_cons, List.reverse_reverse]

/-- Every character that core counts as white space is white space here. -/
theorem isBlank_of_isWhitespace {c : Char} (h : c.isWhitespace) : isBlank c := by
  have h' : c = ' ' ∨ c = '\t' ∨ c = '\r' ∨ c = '\n' := by
    simpa [Char.isWhitespace, or_assoc] using h
  rcases h' with rfl | rfl | rfl | rfl <;> decide

end EndpointWatch.Unicode
