import EndpointWatch.Record.Endpoint

/-!
# Header fields

A field has a name, a token in which case does not count, and a value of visible ASCII characters, spaces and
tabs. `Headers.ofEntries` takes fields one after the other and leaves out what is no field; a later field of the
same name takes the place of an earlier one. It takes any number of them: that a table of header fields may be full, and
that adding one more field then ends the program, is left out.
-/

namespace EndpointWatch.Http

/-- Fields by name in lower case. -/
abbrev Headers := Dict String String

namespace Headers

def isTokenChar (c : Char) : Bool :=
  c.isAlphanum || ['!', '#', '$', '%', '&', '*', '+', '-', '.', '^', '_', '|', '~'].contains c
    || c.toNat = 0x27 || c.toNat = 0x60

/-- The most characters of a name. -/
def maxNameLength : Nat := 65535

/-- A field name in lower case. -/
def name? (s : String) : Option String :=
  let cs := s.toList
  if !cs.isEmpty && cs.length ≤ maxNameLength && cs.all isTokenChar then some (.ofList (cs.map Char.toLower))
  else none

def isValueChar (c : Char) : Bool := (0x20 ≤ c.toNat && c.toNat < 0x7f) || c = '\t'

def isValue (s : String) : Bool := s.toList.all isValueChar

/-- Adds a field if it is one. -/
def addEntry (h : Headers) (e : String × String) : Headers :=
  match name? e.1 with
  | some name => if isValue e.2 then h.insert name e.2 else h
  | none => h

def ofEntries (es : List (String × String)) : Headers := es.foldl addEntry .empty

/-- Adds a field unless there is one of its name. -/
def orElse (h : Headers) (name value : String) : Headers := if h.contains name then h else h.insert name value

/-- The fields of both; where both have a name, the one of `given` counts. -/
def override (given h : Headers) : Headers := given.toList.foldl (fun h e => h.insert e.1 e.2) h

end Headers

end Http

/-- The header fields that are made of the configured entries if they are gone through in the given order. Without
readable entries there are none. -/
def Endpoint.requestHeadersIn (order : List (String × String) → List (String × String)) (e : Endpoint) : Http.Headers :=
  match e.headerMap with
  | .ok d => .ofEntries (order d.toList)
  | .error _ => .empty

/-- The header fields that the checks of an endpoint send. -/
def Endpoint.requestHeaders (e : Endpoint) : Http.Headers := e.requestHeadersIn fun entries => entries

end EndpointWatch
