import AdmissionGate.Json.Codec

/-!
# Operations

The kinds of operation that a request may ask for, each with the part of the
request that holds its parameters.
-/

namespace AdmissionGate

inductive Operation where
  | updateVersion
  | horizontalScaling
  | verticalScaling
  | volumeExpansion
  | restart
  | reconfigure
  | reconfigureTls
  | rotateAuth
deriving DecidableEq, Repr

namespace Operation

def all : List Operation :=
  [.updateVersion, .horizontalScaling, .verticalScaling, .volumeExpansion,
    .restart, .reconfigure, .reconfigureTls, .rotateAuth]

def name : Operation → String
  | .updateVersion => "UpdateVersion"
  | .horizontalScaling => "HorizontalScaling"
  | .verticalScaling => "VerticalScaling"
  | .volumeExpansion => "VolumeExpansion"
  | .restart => "Restart"
  | .reconfigure => "Reconfigure"
  | .reconfigureTls => "ReconfigureTLS"
  | .rotateAuth => "RotateAuth"

def sectionName : Operation → String
  | .updateVersion => "updateVersion"
  | .horizontalScaling => "horizontalScaling"
  | .verticalScaling => "verticalScaling"
  | .volumeExpansion => "volumeExpansion"
  | .restart => "restart"
  | .reconfigure => "configuration"
  | .reconfigureTls => "tls"
  | .rotateAuth => "authentication"

def path (operation : Operation) : String := "spec." ++ operation.sectionName

/-- Updates of a version may also go by the name `Upgrade`. -/
def ofText? (text : String) : Option Operation :=
  if text = "Upgrade" then some .updateVersion
  else all.find? fun operation => operation.name == text

theorem mem_all (operation : Operation) : operation ∈ all := by
  cases operation <;> decide

theorem ofText?_name (operation : Operation) :
    ofText? operation.name = some operation := by
  cases operation <;> decide

def codec : Codec Operation := .choice all name

end Operation
end AdmissionGate
