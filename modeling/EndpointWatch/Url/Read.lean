import EndpointWatch.Url.Basic

/-!
# Reading URLs

A URL is read part by part: scheme, authority, path, query and fragment. Tabs and line breaks are ignored
everywhere, and controls and spaces at the ends. A relative reference needs a base.
-/

namespace EndpointWatch.Url

/-! ### Authority -/

def endsAuthority (web : Bool) (c : Char) : Bool := c = '/' || c = '?' || c = '#' || (web && c = '\\')

/-- User and password, encoded, from the text in front of the last `@`. -/
def userAndPassword (cs : List Char) : List Char × List Char :=
  let encode := Percent.encode Percent.inUser
  (encode (cs.takeWhile (· ≠ ':')), encode ((cs.dropWhile (· ≠ ':')).drop 1))

/-- The text in front of the last `@`, if there is one, and the rest. -/
def splitUser (cs : List Char) : Option (List Char) × List Char :=
  let back := (cs.reverse.takeWhile (· ≠ '@')).reverse
  if back.length = cs.length then (none, cs) else (some (cs.take (cs.length - back.length - 1)), back)

/-- The host and what follows it: a colon inside square brackets belongs to the host. -/
def splitHost (bracket : Bool) : List Char → List Char × List Char
  | [] => ([], [])
  | c :: cs =>
    if c = ':' ∧ !bracket then ([], c :: cs)
    else
      let (host, rest) := splitHost (if c = '[' then true else if c = ']' then false else bracket) cs
      (c :: host, rest)

/-- The port behind a colon. No digits, or the scheme's own port, is no port. -/
def port? (scheme : String) (cs : List Char) : Option (Option UInt16) :=
  if !cs.all Char.isDigit then none
  else
    let n := Text.toNat cs
    if 65535 < n then none
    else
      let port := n.toUInt16
      some (if cs.isEmpty ∨ some port = defaultPort? scheme then none else some port)

structure Authority where
  user : List Char
  password : List Char
  host : Host
  port : Option UInt16

/-- Reads an authority. Only without user and port, and outside the schemes of the web, the host may be
empty. -/
def authority? (scheme : String) (cs : List Char) : Option Authority := do
  let (userText?, rest) := splitUser cs
  let (user, password) := userAndPassword (userText?.getD [])
  let (hostText, portText) := splitHost false rest
  let web := isWeb scheme
  if hostText.isEmpty ∧ (web ∨ userText?.isSome ∨ !portText.isEmpty) then none
  else
    let host ← if web then Host.ofDomain? hostText else Host.ofText? hostText
    let port ← match portText with
      | [] => some none
      | _ :: digits => port? scheme digits
    some ⟨user, password, host, port⟩

/-! ### Path, query and fragment -/

def isDot (segment : List Char) : Bool :=
  let s := segment.map Char.toLower
  s = ".".toList || s = "%2e".toList

def isDoubleDot (segment : List Char) : Bool :=
  let s := segment.map Char.toLower
  ["..", "%2e.", ".%2e", "%2e%2e"].any fun d => s = d.toList

/-- A letter and a colon, which a file's path may start with. -/
def isDrive (segment : List Char) : Bool :=
  match segment with
  | [a, b] => a.isAlpha && (b = ':' || b = '|')
  | _ => false

/-- Drops the last segment, but not the drive of a file. -/
def shorten (file : Bool) (parts : List (List Char)) : List (List Char) :=
  match parts with
  | [d] => if file && isDrive d then parts else []
  | _ => parts.dropLast

/-- Appends segments to a path. Dots are resolved; as the last segment they leave an empty one. -/
def follow (file : Bool) : List (List Char) → List (List Char) → List (List Char)
  | parts, [] => parts
  | parts, s :: rest =>
    let parts :=
      if isDoubleDot s then shorten file parts ++ (if rest.isEmpty then [[]] else [])
      else if isDot s then parts ++ (if rest.isEmpty then [[]] else [])
      else if file && parts.isEmpty && isDrive s then [s.take 1 ++ [':']]
      else parts ++ [Percent.encode Percent.inPath s]
    follow file parts rest

/-- The pieces between slashes; in the schemes of the web backslashes count as slashes. -/
def pieces (web : Bool) (cs : List Char) : List (List Char) :=
  Text.splitAt '/' (if web then cs.map fun c => if c = '\\' then '/' else c else cs)

def pathAfterHost (scheme : String) (cs : List Char) : Path :=
  let web := isWeb scheme
  match pieces web cs with
  | [[]] => .segments (if web then [[]] else [])
  | [] :: parts | parts => .segments (follow (scheme = "file") [] parts)

/-- Splits off query and fragment. -/
def splitTail (cs : List Char) : List Char × Option (List Char) × Option (List Char) :=
  let front := cs.takeWhile (· ≠ '#')
  let fragment := match cs.dropWhile (· ≠ '#') with
    | [] => none
    | _ :: f => some f
  let query := match front.dropWhile (· ≠ '?') with
    | [] => none
    | _ :: q => some q
  (front.takeWhile (· ≠ '?'), query, fragment)

def encodeQuery (scheme : String) (cs : List Char) : List Char :=
  Percent.encode (if isWeb scheme then Percent.inWebQuery else Percent.inQuery) cs

/-- Sets query and fragment from their texts. -/
def withTail (u : Url) (query fragment : Option (List Char)) : Url :=
  { u with query := query.map (encodeQuery u.scheme), fragment := fragment.map (Percent.encode Percent.inFragment) }

/-! ### Whole URLs -/

/-- Reads what follows the slashes in front of an authority. -/
def afterSlashes? (scheme : String) (cs : List Char) : Option Url := do
  let web := isWeb scheme
  let authorityText := cs.takeWhile (!endsAuthority web ·)
  let a ← authority? scheme authorityText
  let (path, query, fragment) := splitTail (cs.drop authorityText.length)
  some (withTail ⟨scheme, a.user, a.password, some a.host, a.port, pathAfterHost scheme path, none, none⟩ query
    fragment)

/-- A file's path without empty segments in front; at least one segment. -/
def rooted (parts : List (List Char)) : List (List Char) :=
  match parts.dropWhile List.isEmpty with
  | [] => [[]]
  | parts => parts

/-- Reads what follows the colon of a file's URL. A host is kept unless it is this computer or the path
starts with a drive. -/
def file? (cs : List Char) : Option Url := do
  let (front, query, fragment) := splitTail cs
  let parts := pieces true front
  let (hostText, parts) := match parts with
    | [] :: [] :: h :: rest => if isDrive h then ([], h :: rest) else (h, if rest.isEmpty then [[]] else rest)
    | [] :: rest => ([], rest)
    | rest => ([], rest)
  let host ← if hostText.isEmpty then some (Host.name []) else Host.ofDomain? hostText
  let path := rooted (follow true [] parts)
  let keep := host ≠ .name "localhost".toList && !path.head?.any isDrive
  some (withTail ⟨"file", [], [], some (if keep then host else .name []), none, .segments path, none, none⟩ query
    fragment)

/-- Reads what follows the colon of a URL without authority. -/
def withoutAuthority (scheme : String) (cs : List Char) : Url :=
  let (front, query, fragment) := splitTail cs
  let path := match front with
    | '/' :: rest => Path.segments (follow false [] (pieces false rest))
    | front => .bare (Percent.encode Percent.isControl front)
  withTail ⟨scheme, [], [], none, none, path, none, none⟩ query fragment

def isSlash (c : Char) : Bool := c = '/' || c = '\\'

/-- Reads what follows the colon, when there is no base or it does not matter. -/
def afterScheme? (scheme : String) (cs : List Char) : Option Url :=
  if scheme = "file" then file? cs
  else if isWeb scheme then afterSlashes? scheme (cs.dropWhile isSlash)
  else match cs with
    | '/' :: '/' :: rest => afterSlashes? scheme rest
    | _ => some (withoutAuthority scheme cs)

def isSchemeChar (c : Char) : Bool := c.isAlphanum || c = '+' || c = '-' || c = '.'

/-- The scheme in lower case and what follows its colon. -/
def scheme? (cs : List Char) : Option (String × List Char) :=
  match cs.takeWhile isSchemeChar, cs.dropWhile isSchemeChar with
  | c :: name, ':' :: rest => if c.isAlpha then some (.ofList ((c :: name).map Char.toLower), rest) else none
  | _, _ => none

/-- Drops controls and spaces at the ends, and tabs and line breaks everywhere. -/
def clean (cs : List Char) : List Char :=
  let edge (c : Char) : Bool := c.toNat ≤ 0x20
  ((cs.dropWhile edge).reverse.dropWhile edge).reverse.filter fun c => c ≠ '\t' && c ≠ '\n' && c ≠ '\r'

/-- Reads a URL that needs no base. -/
def read? (s : String) : Option Url := do
  let (scheme, rest) ← scheme? (clean s.toList)
  afterScheme? scheme rest

/-- Reads a reference without scheme against a base with segments. -/
def relative? (base : Url) (cs : List Char) : Option Url :=
  let web := isWeb base.scheme
  let slash (c : Char) : Bool := c = '/' || (web && c = '\\')
  let (front, query, fragment) := splitTail cs
  match base.path, front with
  | .bare _, [] => if query.isNone ∧ fragment.isSome then some (withTail base base.query fragment) else none
  | .bare _, _ => none
  | .segments _, [] =>
    let u := withTail base query fragment
    some (if query.isSome then u else { u with query := base.query })
  | .segments parts, c :: rest =>
    if slash c then
      match rest with
      | d :: more =>
        if slash d then afterSlashes? base.scheme (if web then (cs.dropWhile slash) else cs.drop 2)
        else some (withTail { base with path := .segments (follow (base.scheme = "file") [] (pieces web (d :: more))) }
          query fragment)
      | [] => some (withTail { base with path := .segments [[]] } query fragment)
    else
      let file := base.scheme = "file"
      some (withTail { base with path := .segments (follow file (shorten file parts) (pieces web (c :: rest))) }
        query fragment)

/-- Reads a reference, which may be relative to a base. -/
def join? (base : Url) (s : String) : Option Url :=
  let cs := clean s.toList
  match scheme? cs with
  | none => relative? base cs
  | some (scheme, rest) =>
    let slashes := (rest.takeWhile isSlash).length
    if isWeb scheme ∧ scheme ≠ "file" ∧ scheme = base.scheme ∧ slashes < 2 then relative? base rest
    else afterScheme? scheme rest

/-- Whether a text is a URL with a host. -/
def isValidAddress (s : String) : Bool := (read? s).any fun u => u.hostText?.isSome

end EndpointWatch.Url
