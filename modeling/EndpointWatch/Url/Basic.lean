import EndpointWatch.Url.Host
import EndpointWatch.Text.Number

/-!
# URLs

A URL in its parts, as the URL Standard of the web takes it apart, and its normalized text.
-/

namespace EndpointWatch

namespace Url

/-- A path: text without hierarchy, or segments that follow a slash each. -/
inductive Path where
  | bare (text : List Char)
  | segments (parts : List (List Char))
  deriving DecidableEq, Repr

def Path.write : Path → List Char
  | bare text => text
  | segments parts => parts.flatMap ('/' :: ·)

end Url

/-- A URL, with everything encoded that must be. The port is left out where it is the scheme's own. -/
structure Url where
  scheme : String
  user : List Char
  password : List Char
  host : Option Url.Host
  port : Option UInt16
  path : Url.Path
  query : Option (List Char)
  fragment : Option (List Char)
  deriving DecidableEq, Repr

namespace Url

/-- The schemes of the web and their ports; files have none. -/
def webSchemes : List (String × Option UInt16) :=
  [("http", some 80), ("https", some 443), ("ws", some 80), ("wss", some 443), ("ftp", some 21), ("file", none)]

def isWeb (scheme : String) : Bool := (webSchemes.lookup scheme).isSome

def defaultPort? (scheme : String) : Option UInt16 := (webSchemes.lookup scheme).join

/-- User and password in front of the host. -/
def writeUser (u : Url) : List Char :=
  if u.user.isEmpty && u.password.isEmpty then []
  else u.user ++ (if u.password.isEmpty then [] else ':' :: u.password) ++ ['@']

def writePort (u : Url) : List Char := u.port.elim [] fun p => ':' :: Text.ofNat p.toNat

/-- The parts behind the host. -/
def writeTail (u : Url) : List Char :=
  u.path.write ++ u.query.elim [] ('?' :: ·) ++ u.fragment.elim [] ('#' :: ·)

/-- The normalized text. -/
def write (u : Url) : List Char :=
  u.scheme.toList ++ ':' :: u.host.elim [] (fun h => '/' :: '/' :: (u.writeUser ++ h.write ++ u.writePort))
    ++ u.writeTail

def withoutUser (u : Url) : Url := { u with user := [], password := [] }

/-- The text of the host; none for an empty one. -/
def hostText? (u : Url) : Option String :=
  u.host.bind fun h => if h = .name [] then none else some (.ofList h.write)

end Url

end EndpointWatch
