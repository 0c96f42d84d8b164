import AdmissionGate.Condition
import AdmissionGate.Object.Metadata
import AdmissionGate.Object.Storage
import AdmissionGate.Reference
import AdmissionGate.Tls

/-!
# Managed databases

A database of any engine.  The roles of a dedicated topology are listed by name.
-/

namespace AdmissionGate

/-! ## Topology -/

structure RoleSpec where
  replicas : Option Int := none
  storage : Option VolumeClaim := none
deriving DecidableEq, Repr

namespace RoleSpec

def layout : Layout RoleSpec RoleSpec :=
  Layout.start RoleSpec.mk
    |>.member (.optional "replicas" .int32) replicas
    |>.member (.optional "storage" VolumeClaim.codec) storage

def codec : Codec RoleSpec := layout.record

end RoleSpec

structure Topology where
  mode : Option String := none
  roles : Dict RoleSpec := .empty
deriving DecidableEq, Repr

namespace Topology

def layout : Layout Topology Topology :=
  Layout.start Topology.mk
    |>.member (.optional "mode" .string) mode
    |>.others RoleSpec.codec roles

def codec : Codec Topology := layout.object

end Topology

/-! ## Specification -/

inductive StorageType where
  | durable
  | ephemeral
deriving DecidableEq, Repr

namespace StorageType

def name : StorageType → String
  | .durable => "Durable"
  | .ephemeral => "Ephemeral"

def codec : Codec StorageType := .choice [.durable, .ephemeral] name

end StorageType

structure DatabaseSpec where
  version : String := ""
  replicas : Option Int := none
  mode : Option String := none
  topology : Option Topology := none
  storageType : Option StorageType := none
  storage : Option VolumeClaim := none
  configSecret : Option LocalReference := none
  tls : Option TlsConfig := none
  authSecret : Option LocalReference := none
  requireSsl : Option Bool := none
deriving DecidableEq, Repr

namespace DatabaseSpec

def layout : Layout DatabaseSpec DatabaseSpec :=
  Layout.start DatabaseSpec.mk
    |>.member (.defaulted "version" .string "") version
    |>.member (.optional "replicas" .int32) replicas
    |>.member (.optional "mode" .string) mode
    |>.member (.optional "topology" Topology.codec) topology
    |>.member (.optional "storageType" StorageType.codec) storageType
    |>.member (.optional "storage" VolumeClaim.codec) storage
    |>.member (.optional "configSecret" LocalReference.codec) configSecret
    |>.member (.optional "tls" TlsConfig.codec) tls
    |>.member (.optional "authSecret" LocalReference.codec) authSecret
    |>.member (.optional "requireSSL" .bool) requireSsl

def codec : Codec DatabaseSpec := layout.record

end DatabaseSpec

/-! ## Databases -/

structure DatabaseStatus where
  phase : Option String := none
  observedGeneration : Option Int := none
  conditions : List Condition := []
deriving DecidableEq, Repr

namespace DatabaseStatus

def layout : Layout DatabaseStatus DatabaseStatus :=
  Layout.start DatabaseStatus.mk
    |>.member (.optional "phase" .string) phase
    |>.member (.optional "observedGeneration" .int64) observedGeneration
    |>.member (.listed "conditions" Condition.codec) conditions

def codec : Codec DatabaseStatus := layout.record

end DatabaseStatus

structure Database where
  metadata : Metadata := {}
  spec : DatabaseSpec := {}
  status : Option DatabaseStatus := none
deriving DecidableEq, Repr

namespace Database

def layout : Layout Database Database :=
  Layout.start Database.mk
    |>.member Metadata.field metadata
    |>.member (.defaulted "spec" DatabaseSpec.codec {}) spec
    |>.member (.optional "status" DatabaseStatus.codec) status

def codec : Codec Database := layout.record

def topologyMode? (database : Database) : Option String :=
  database.spec.topology.bind Topology.mode

def hasTopologyRoles (database : Database) : Bool :=
  database.spec.topology.any fun topology => !topology.roles.isEmpty

def replicas (database : Database) : Int := database.spec.replicas.getD 1

def hasCustomConfig (database : Database) : Bool :=
  database.spec.configSecret.any fun secret => !secret.name.isEmpty

def hasTls (database : Database) : Bool := database.spec.tls.isSome

def isEphemeral (database : Database) : Bool :=
  database.spec.storageType == some .ephemeral

def roleStorage? (database : Database) (role : String) : Option Quantity := do
  (← (← (← database.spec.topology).roles.find? role).storage).requestedStorage?

def ownStorage? (database : Database) : Option Quantity :=
  database.spec.storage.bind VolumeClaim.requestedStorage?

/-- The storage of a role, or of the whole database if the role asks for none of
its own. -/
def storage? (database : Database) (role : String) : Option Quantity :=
  (database.roleStorage? role).or database.ownStorage?

end Database
end AdmissionGate
