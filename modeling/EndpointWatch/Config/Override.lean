import EndpointWatch.Arith
import EndpointWatch.Config.Read
import EndpointWatch.Config.EnvFile

/-!
# Variables that override the configuration

Five variables are looked up in a fixed order. The first one whose value cannot be read stops the
overriding; those before it have taken effect.
-/

namespace EndpointWatch.Config

open scoped EndpointWatch.Arith

/-- Why a text is not a number of 64 bits. -/
inductive NumberFault where
  | empty
  | digit
  | tooLarge
  deriving DecidableEq, Repr

def NumberFault.message : NumberFault → String
  | empty => "cannot parse integer from empty string"
  | digit => "invalid digit found in string"
  | tooLarge => "number too large to fit in target type"

/-- Appends digits to a number, up to the first that is none or is too much. -/
def appendDigits (n : Nat) : List Char → Except NumberFault Nat
  | [] => .ok n
  | c :: cs =>
    if c.isDigit then
      let n := 10 * n + (c.toNat - '0'.toNat)
      if n < 2 ^ (64 : Nat) then appendDigits n cs else .error .tooLarge
    else .error .digit

/-- Reads digits, with a plus sign in front if one likes. -/
def readNumber (s : String) : Except NumberFault UInt64 :=
  let digits := match s.toList with
    | '+' :: c :: cs => c :: cs
    | cs => cs
  if digits = [] then .error .empty else (appendDigits 0 digits).map Nat.toUInt64

/-- Why a variable's value was refused. -/
inductive OverrideFault where
  | address (variable_ value : String)
  | number (variable_ value : String) (fault : NumberFault)
  deriving DecidableEq, Repr

def OverrideFault.message : OverrideFault → String
  | address x value => s!"{x} is not a socket address: {value}: {Json.Fault.address.message}"
  | number x value fault => s!"{x} is not a number: {value}: {fault.message}"

/-- A variable and what its value does. -/
structure Override where
  name : String
  apply : String → Config → Except OverrideFault Config

def numberOverride (name : String) (set : UInt64 → Config → Config) : Override where
  name := name
  apply value c :=
    match readNumber value with
    | .ok n => .ok (set n c)
    | .error e => .error (.number name value e)

/-- The variables, in the order in which they are looked up. -/
def overrides : List Override := [
  { name := "API_MONITOR_DATABASE"
    apply := fun path c => .ok { c with storage := if path = "none" then .memory else .file path } },
  { name := "ALERT_EVALUATOR_URL"
    apply := fun url c =>
      .ok { c with monitor := { c.monitor with evaluatorUrl := if url = "" then none else some url } } },
  { name := "API_MONITOR_BIND"
    apply := fun bind c =>
      match Net.SocketAddress.read? bind.toList with
      | some a => .ok { c with api := ⟨a⟩ }
      | none => .error (.address "API_MONITOR_BIND" bind) },
  numberOverride "HTTP_CLIENT_TIMEOUT_SECS" fun n c => { c with monitor := { c.monitor with httpTimeout := n } },
  numberOverride "CYCLE_INTERVAL_SECS" fun n c => { c with monitor := { c.monitor with cycleInterval := n } }]

/-- Applies overrides up to the first fault. -/
def applyOverrides (vars : EnvFile.Variables) : List Override → Config → Config × Option OverrideFault
  | [], c => (c, none)
  | o :: rest, c =>
    match vars o.name with
    | none => applyOverrides vars rest c
    | some value =>
      match o.apply value c with
      | .ok c => applyOverrides vars rest c
      | .error e => (c, some e)

/-- Why there is no configuration. -/
inductive LoadFault where
  | unreadable (path : String)
  | invalid (fault : Json.Fault)
  | overriding (fault : OverrideFault)

def LoadFault.message : LoadFault → String
  | unreadable path => s!"could not read configuration file {path}: No such file or directory (os error 2)"
  | invalid fault => s!"Invalid configuration file provided! ({fault.message})"
  | overriding fault => fault.message

/-- The configuration that a file gives; without a file the standard one. -/
def ofFile (file : Option (String × Option String)) : Except LoadFault Config :=
  match file with
  | none => .ok standard
  | some (path, none) => .error (.unreadable path)
  | some (_, some text) => (read text.toList).mapError .invalid

/-- Loads a configuration from a file of variables, a configuration file and the variables. -/
def load (vars : EnvFile.Variables) (envFile : Option String) (file : Option (String × Option String)) :
    Except LoadFault Config := do
  let vars := envFile.elim vars (EnvFile.loadText vars)
  let c ← ofFile file
  match applyOverrides vars overrides c with
  | (c, none) => .ok c
  | (_, some e) => .error (.overriding e)

end EndpointWatch.Config
