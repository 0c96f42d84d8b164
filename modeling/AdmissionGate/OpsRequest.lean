import AdmissionGate.Condition
import AdmissionGate.Object.Metadata
import AdmissionGate.OpsRequest.Operation
import AdmissionGate.OpsRequest.Sections

/-!
# Operation requests

One administrative action on a database.  All engines share this form.  Members
of the specification that are not named here are kept, so that a change of them
can be seen.
-/

namespace AdmissionGate

/-! ## Specification -/

/-- Whether the operation waits for a database that is not ready. -/
inductive ApplyPolicy where
  | ifReady
  | always
deriving DecidableEq, Repr

namespace ApplyPolicy

def name : ApplyPolicy → String
  | .ifReady => "IfReady"
  | .always => "Always"

def codec : Codec ApplyPolicy := .choice [.ifReady, .always] name

end ApplyPolicy

structure OpsRequestSpec where
  database : LocalReference := {}
  type : String := ""
  updateVersion : Option UpdateVersionSpec := none
  horizontalScaling : Option HorizontalScalingSpec := none
  verticalScaling : Option VerticalScalingSpec := none
  volumeExpansion : Option VolumeExpansionSpec := none
  configuration : Option ReconfigureSpec := none
  tls : Option ReconfigureTlsSpec := none
  authentication : Option RotateAuthSpec := none
  restart : Option RestartSpec := none
  timeout : Option String := none
  apply : Option ApplyPolicy := none
  extra : Dict Json := .empty
deriving DecidableEq, Repr

namespace OpsRequestSpec

def layout : Layout OpsRequestSpec OpsRequestSpec :=
  Layout.start OpsRequestSpec.mk
    |>.member (.defaulted "databaseRef" LocalReference.codec {}) database
    |>.member (.defaulted "type" .string "") type
    |>.member (.optional "updateVersion" UpdateVersionSpec.codec) updateVersion
    |>.member (.optional "horizontalScaling" HorizontalScalingSpec.codec)
      horizontalScaling
    |>.member (.optional "verticalScaling" VerticalScalingSpec.codec)
      verticalScaling
    |>.member (.optional "volumeExpansion" VolumeExpansionSpec.codec)
      volumeExpansion
    |>.member (.optional "configuration" ReconfigureSpec.codec) configuration
    |>.member (.optional "tls" ReconfigureTlsSpec.codec) tls
    |>.member (.optional "authentication" RotateAuthSpec.codec) authentication
    |>.member (.optional "restart" RestartSpec.codec) restart
    |>.member (.optional "timeout" .string) timeout
    |>.member (.optional "apply" ApplyPolicy.codec) apply
    |>.others .json extra

def codec : Codec OpsRequestSpec := layout.object

def hasSection (spec : OpsRequestSpec) : Operation → Bool
  | .updateVersion => spec.updateVersion.isSome
  | .horizontalScaling => spec.horizontalScaling.isSome
  | .verticalScaling => spec.verticalScaling.isSome
  | .volumeExpansion => spec.volumeExpansion.isSome
  | .restart => spec.restart.isSome
  | .reconfigure => spec.configuration.isSome
  | .reconfigureTls => spec.tls.isSome
  | .rotateAuth => spec.authentication.isSome

def reportOrder : List Operation :=
  [.updateVersion, .horizontalScaling, .verticalScaling, .volumeExpansion,
    .reconfigure, .reconfigureTls, .rotateAuth, .restart]

def populated (spec : OpsRequestSpec) : List Operation :=
  reportOrder.filter spec.hasSection

end OpsRequestSpec

/-! ## Status -/

inductive OpsRequestPhase where
  | pending
  | progressing
  | successful
  | failed
  | skipped
deriving DecidableEq, Repr

namespace OpsRequestPhase

def name : OpsRequestPhase → String
  | .pending => "Pending"
  | .progressing => "Progressing"
  | .successful => "Successful"
  | .failed => "Failed"
  | .skipped => "Skipped"

def all : List OpsRequestPhase :=
  [.pending, .progressing, .successful, .failed, .skipped]

def codec : Codec OpsRequestPhase := .choice all name

end OpsRequestPhase

structure OpsRequestStatus where
  phase : Option OpsRequestPhase := none
  observedGeneration : Option Int := none
  conditions : List Condition := []
deriving DecidableEq, Repr

namespace OpsRequestStatus

def layout : Layout OpsRequestStatus OpsRequestStatus :=
  Layout.start OpsRequestStatus.mk
    |>.member (.optional "phase" OpsRequestPhase.codec) phase
    |>.member (.optional "observedGeneration" .int64) observedGeneration
    |>.member (.listed "conditions" Condition.codec) conditions

def codec : Codec OpsRequestStatus := layout.record

end OpsRequestStatus

/-! ## Requests -/

structure OpsRequest where
  metadata : Metadata := {}
  spec : OpsRequestSpec
  status : Option OpsRequestStatus := none
deriving DecidableEq, Repr

namespace OpsRequest

def layout : Layout OpsRequest OpsRequest :=
  Layout.start OpsRequest.mk
    |>.member Metadata.field metadata
    |>.member (.required "spec" OpsRequestSpec.codec) spec
    |>.member (.optional "status" OpsRequestStatus.codec) status

def codec : Codec OpsRequest := layout.record

/-- Until a phase past pending is recorded, nobody has acted on the request. -/
def isPending (request : OpsRequest) : Bool :=
  match request.status.bind OpsRequestStatus.phase with
  | none | some .pending => true
  | some _ => false

end OpsRequest
end AdmissionGate
