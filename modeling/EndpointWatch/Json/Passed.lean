import EndpointWatch.Json.Reader

/-!
# Values that are kept for later

A value that is read before its type is known keeps only what a later message can name. Its strings and
numbers must be valid, and its nesting is limited.
-/

namespace EndpointWatch.Json

/-- Elements up to the closing bracket of a list. -/
def elements {α : Type} (read : Reader α) : (rounds : Nat) → (first : Bool) → Reader (List α)
  | 0, _, _ => .error .malformed
  | rounds + 1, first, cs => do
    match ← nextElement first cs with
    | none =>
      let cs ← listEnd cs
      .ok ([], cs)
    | some cs =>
      let (a, cs) ← read cs
      let (as, cs) ← elements read rounds false cs
      .ok (a :: as, cs)

/-- Members up to the closing bracket of an object; `read` is told the name. -/
def members {α : Type} (read : String → Reader α) :
    (rounds : Nat) → (first : Bool) → Reader (List (String × α))
  | 0, _, _ => .error .malformed
  | rounds + 1, first, cs => do
    let (more, cs) ← nextMember first cs
    if more then
      let (name, cs) ← textBody cs
      let cs ← colon cs
      let (a, cs) ← read name cs
      let (as, cs) ← members read rounds false cs
      .ok ((name, a) :: as, cs)
    else .ok ([], cs)

/-- Reads a value of any type in which at most `depth` brackets are open at once. -/
def kept : (depth : Nat) → Reader Found
  | 0, cs =>
    match skipBlank cs with
    | '[' :: _ | '\x7b' :: _ => .error .malformed
    | cs => scalar cs
  | depth + 1, cs =>
    match skipBlank cs with
    | '[' :: rest => do
      let (_, rest) ← elements (kept depth) (rest.length + 1) true rest
      .ok (.sequence, rest)
    | '\x7b' :: rest => do
      let (_, rest) ← members (fun _ => kept depth) (rest.length + 1) true rest
      .ok (.map, rest)
    | cs => scalar cs
where
  scalar (cs : List Char) : Except Fault (Found × List Char) :=
    match cs with
    | [] => .error .malformed
    | c :: rest =>
      if c = '"' then (textBody rest).map fun (s, rest) => (.string s, rest)
      else if startsNumber c then (numberValue (c :: rest)).map fun (v, rest) => (v.found, rest)
      else do
        let f ← found (c :: rest)
        match skipScalar? (c :: rest) with
        | some rest => .ok (f, rest)
        | none => .error .malformed

end EndpointWatch.Json
