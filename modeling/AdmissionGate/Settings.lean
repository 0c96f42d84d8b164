import AdmissionGate.Text.Blank
import AdmissionGate.Text.Numeral
import AdmissionGate.Text.Quoted

/-!
# Settings

The ports and certificate files of the service, read from named variables.
-/

namespace AdmissionGate

structure Settings where
  port : Nat := 9443
  healthPort : Nat := 8080
  certPath : String := "/etc/webhook/certs/tls.crt"
  keyPath : String := "/etc/webhook/certs/tls.key"
deriving DecidableEq, Repr

/-! ## Ports -/

inductive PortFault where
  | empty
  | digit
  | tooLarge
deriving DecidableEq, Repr

namespace PortFault

def message : PortFault → String
  | .empty => "cannot parse integer from empty string"
  | .digit => "invalid digit found in string"
  | .tooLarge => "number too large to fit in target type"

end PortFault

open Text in
/-- The value of digits after those already read.  The first character that is
no digit or makes the value too large is the fault. -/
def readPortDigits (value : Nat) : List Char → Except PortFault Nat
  | [] => .ok value
  | digit :: rest =>
    if !digit.isDigit then .error .digit
    else
      let longer := value * 10 + digitValue digit
      if maxUInt16 < longer then .error .tooLarge
      else readPortDigits longer rest

/-- A port is a number of 16 bits, which a plus sign may precede. -/
def readPort (text : List Char) : Except PortFault Nat :=
  match text with
  | [] => .error .empty
  | ['+'] => .error .digit
  | '+' :: digits => readPortDigits 0 digits
  | digits => readPortDigits 0 digits

/-! ## Errors -/

structure SettingsError where
  name : String
  text : String
  fault : PortFault
deriving DecidableEq, Repr

namespace SettingsError

def message (error : SettingsError) : String :=
  "invalid configuration: " ++ error.name ++ "=" ++ Text.quoted error.text ++
    ": " ++ error.fault.message

end SettingsError

namespace Settings

/-! ## Defaults -/

/-- The named parts of a path from the root; empty parts and single points lead
nowhere. -/
def pathParts (path : String) : List String :=
  (path.splitOn "/").filter fun part => !part.isEmpty && part != "."

def samePath (left right : String) : Bool :=
  left.startsWith "/" == right.startsWith "/" &&
    pathParts left == pathParts right

def isDefault (settings : Settings) : Bool :=
  let defaults : Settings := {}
  settings.port == defaults.port &&
    settings.healthPort == defaults.healthPort &&
    samePath settings.certPath defaults.certPath &&
    samePath settings.keyPath defaults.keyPath

def certificatesPresent (settings : Settings) (exist : String → Bool) : Bool :=
  exist settings.certPath && exist settings.keyPath

/-! ## Reading -/

def port? (lookup : String → Option String) (name : String) (default : Nat) :
    Except SettingsError Nat :=
  match lookup name with
  | none => .ok default
  | some text =>
    (readPort (Text.trim text.toList)).mapError fun fault => ⟨name, text, fault⟩

def ofLookup (lookup : String → Option String) :
    Except SettingsError Settings := do
  let defaults : Settings := {}
  let port ← port? lookup "WEBHOOK_PORT" defaults.port
  let healthPort ← port? lookup "HEALTH_PORT" defaults.healthPort
  return {
    port
    healthPort
    certPath := (lookup "WEBHOOK_CERT_PATH").getD defaults.certPath
    keyPath := (lookup "WEBHOOK_KEY_PATH").getD defaults.keyPath }

end Settings
end AdmissionGate
