import AdmissionGate.Condition
import AdmissionGate.Object.Metadata
import AdmissionGate.Reference
import AdmissionGate.SchemaRequest.Kind

/-!
# Schema requests

Requests for a logical database inside a managed one, with credentials that a
vault issues.
-/

namespace AdmissionGate

/-! ## Settings of the logical database -/

structure ConfigParam where
  configParameter : String
  value : Option String := none
deriving DecidableEq, Repr

namespace ConfigParam

def layout : Layout ConfigParam ConfigParam :=
  Layout.start ConfigParam.mk
    |>.member (.required "configParameter" .string) configParameter
    |>.member (.optional "value" .string) value

def codec : Codec ConfigParam := layout.record

end ConfigParam

structure DatabaseConfig where
  name : String := ""
  characterSet : Option String := none
  encryption : Option String := none
  readOnly : Option Int := none
  params : List ConfigParam := []
deriving DecidableEq, Repr

namespace DatabaseConfig

def layout : Layout DatabaseConfig DatabaseConfig :=
  Layout.start DatabaseConfig.mk
    |>.member (.defaulted "name" .string "") name
    |>.member (.optional "characterSet" .string) characterSet
    |>.member (.optional "encryption" .string) encryption
    |>.member (.optional "readOnly" .int32) readOnly
    |>.member (.listed "params" ConfigParam.codec) params

def codec : Codec DatabaseConfig := layout.record

def isReadOnly (config : DatabaseConfig) : Bool := config.readOnly == some 1

end DatabaseConfig

/-! ## Access -/

structure Subject where
  kind : String := ""
  name : String := ""
  namespaceName : Option String := none
  apiGroup : Option String := none
deriving DecidableEq, Repr

namespace Subject

def layout : Layout Subject Subject :=
  Layout.start Subject.mk
    |>.member (.defaulted "kind" .string "") kind
    |>.member (.defaulted "name" .string "") name
    |>.member (.optional "namespace" .string) namespaceName
    |>.member (.optional "apiGroup" .string) apiGroup

def codec : Codec Subject := layout.record

end Subject

/-- Who may have credentials, and for how long. -/
structure AccessPolicy where
  subjects : List Subject := []
  defaultTtl : Option String := none
  maxTtl : Option String := none
deriving DecidableEq, Repr

namespace AccessPolicy

def layout : Layout AccessPolicy AccessPolicy :=
  Layout.start AccessPolicy.mk
    |>.member (.defaulted "subjects" (.list Subject.codec) []) subjects
    |>.member (.optional "defaultTTL" .string) defaultTtl
    |>.member (.optional "maxTTL" .string) maxTtl

def codec : Codec AccessPolicy := layout.record

end AccessPolicy

/-! ## Initialization -/

structure ScriptSource where
  scriptPath : Option String := none
  configMap : Option LocalReference := none
deriving DecidableEq, Repr

namespace ScriptSource

def layout : Layout ScriptSource ScriptSource :=
  Layout.start ScriptSource.mk
    |>.member (.optional "scriptPath" .string) scriptPath
    |>.member (.optional "configMap" LocalReference.codec) configMap

def codec : Codec ScriptSource := layout.record

end ScriptSource

structure SnapshotSource where
  repository : AppReference := {}
  snapshotId : Option String := none
deriving DecidableEq, Repr

namespace SnapshotSource

def layout : Layout SnapshotSource SnapshotSource :=
  Layout.start SnapshotSource.mk
    |>.member (.defaulted "repository" AppReference.codec {}) repository
    |>.member (.optional "snapshotId" .string) snapshotId

def codec : Codec SnapshotSource := layout.record

end SnapshotSource

/-- What a new schema starts with, and whether that has been done. -/
structure InitSpec where
  initialized : Bool := false
  script : Option ScriptSource := none
  snapshot : Option SnapshotSource := none
deriving DecidableEq, Repr

namespace InitSpec

def layout : Layout InitSpec InitSpec :=
  Layout.start InitSpec.mk
    |>.member (.defaulted "initialized" .bool false) initialized
    |>.member (.optional "script" ScriptSource.codec) script
    |>.member (.optional "snapshot" SnapshotSource.codec) snapshot

def codec : Codec InitSpec := layout.record

def sameSource (left right : InitSpec) : Bool :=
  left.script == right.script && left.snapshot == right.snapshot

end InitSpec

/-! ## Specification -/

inductive DeletionPolicy where
  | delete
  | doNotDelete
deriving DecidableEq, Repr

namespace DeletionPolicy

def name : DeletionPolicy → String
  | .delete => "Delete"
  | .doNotDelete => "DoNotDelete"

def codec : Codec DeletionPolicy := .choice [.delete, .doNotDelete] name

end DeletionPolicy

structure SchemaSpec where
  database : AppReference := {}
  vault : AppReference := {}
  config : DatabaseConfig := {}
  access : AccessPolicy := {}
  init : Option InitSpec := none
  deletionPolicy : DeletionPolicy := .delete
deriving DecidableEq, Repr

namespace SchemaSpec

def layout : Layout SchemaSpec SchemaSpec :=
  Layout.start SchemaSpec.mk
    |>.member (.defaulted "databaseRef" AppReference.codec {}) database
    |>.member (.defaulted "vaultRef" AppReference.codec {}) vault
    |>.member (.defaulted "databaseConfig" DatabaseConfig.codec {}) config
    |>.member (.defaulted "accessPolicy" AccessPolicy.codec {}) access
    |>.member (.optional "init" InitSpec.codec) init
    |>.member (.defaulted "deletionPolicy" DeletionPolicy.codec .delete)
      deletionPolicy

def codec : Codec SchemaSpec := layout.record

end SchemaSpec

/-! ## Status -/

inductive SchemaPhase where
  | terminating
  | expired
  | success
  | failed
  | waiting
  | running
deriving DecidableEq, Repr

namespace SchemaPhase

def all : List SchemaPhase :=
  [.terminating, .expired, .success, .failed, .waiting, .running]

def name : SchemaPhase → String
  | .terminating => "Terminating"
  | .expired => "Expired"
  | .success => "Success"
  | .failed => "Failed"
  | .waiting => "Waiting"
  | .running => "Running"

def isTerminal (phase : SchemaPhase) : Bool :=
  phase == .success || phase == .failed

def codec : Codec SchemaPhase := .choice all name

end SchemaPhase

structure SchemaStatus where
  phase : Option SchemaPhase := none
  observedGeneration : Option Int := none
  conditions : List Condition := []
deriving DecidableEq, Repr

namespace SchemaStatus

def layout : Layout SchemaStatus SchemaStatus :=
  Layout.start SchemaStatus.mk
    |>.member (.optional "phase" SchemaPhase.codec) phase
    |>.member (.optional "observedGeneration" .int64) observedGeneration
    |>.member (.listed "conditions" Condition.codec) conditions

def codec : Codec SchemaStatus := layout.record

end SchemaStatus

/-! ## Requests -/

structure SchemaRequest where
  metadata : Metadata := {}
  spec : SchemaSpec
  status : Option SchemaStatus := none
deriving DecidableEq, Repr

namespace SchemaRequest

def layout : Layout SchemaRequest SchemaRequest :=
  Layout.start SchemaRequest.mk
    |>.member Metadata.field metadata
    |>.member (.required "spec" SchemaSpec.codec) spec
    |>.member (.optional "status" SchemaStatus.codec) status

def codec : Codec SchemaRequest := layout.record

def conditions (request : SchemaRequest) : List Condition :=
  (request.status.map SchemaStatus.conditions).getD []

def storedPhase? (request : SchemaRequest) : Option SchemaPhase :=
  request.status.bind SchemaStatus.phase

end SchemaRequest
end AdmissionGate
