import AdmissionGate.Metrics
import AdmissionGate.OpsRequest.Admission
import AdmissionGate.Review
import AdmissionGate.SchemaRequest.Admission

/-!
# Verdicts

What a review of an operation request or a schema request comes to, and the
response that reports it.
-/

namespace AdmissionGate

/-! ## Objects of a request -/

namespace ReviewRequest

/-- The object in place: what it lacks of name and namespace is taken from the
request. -/
def placed (request : ReviewRequest) (object : Object) : Object :=
  { object with
    metadata := { object.metadata with
      namespaceName := object.metadata.namespaceName.or request.namespaceName
      name := object.metadata.name.or
        (if request.name.isEmpty then none else some request.name) } }

def decode {Model : Type} (request : ReviewRequest) (codec : Codec Model)
    (object : Option Object) : Except AdmissionError Model :=
  match object with
  | none => .error .missingObject
  | some object =>
    match codec.decode? (request.placed object).toJson.canonical with
    | some model => .ok model
    | none => .error .undecodable

/-! ## Verdicts -/

def admitOps (request : ReviewRequest) (store : ObjectStore) : Verdict :=
  match Engine.ofOpsKind? request.kind.kind with
  | none => .error (.unknownKind request.kind.kind)
  | some engine =>
    match request.operation with
    | .create => do
      let new ← request.decode OpsRequest.codec request.object
      new.validateCreate store engine
    | .update => do
      let old ← request.decode OpsRequest.codec request.oldObject
      let new ← request.decode OpsRequest.codec request.object
      old.validateUpdate new store engine
    | .delete => do
      let old ← request.decode OpsRequest.codec request.oldObject
      old.validateDelete engine
    | .connect => .ok []

def admitSchema (request : ReviewRequest) (store : ObjectStore) : Verdict :=
  match SchemaKind.ofKind? request.kind.kind with
  | none => .error (.unknownKind request.kind.kind)
  | some kind =>
    match request.operation with
    | .create => do
      let new ← request.decode SchemaRequest.codec request.object
      new.validateCreate store kind
    | .update => do
      let old ← request.decode SchemaRequest.codec request.oldObject
      let new ← request.decode SchemaRequest.codec request.object
      old.validateUpdate new kind
    | .delete => do
      let old ← request.decode SchemaRequest.codec request.oldObject
      old.validateDelete kind
    | .connect => .ok []

end ReviewRequest

/-! ## Responses -/

/-- What a review is answered with.  A denied one has a status that says why. -/
structure ReviewResponse where
  uid : String
  warnings : Warnings
  denial : Option Status
deriving DecidableEq, Repr

def denied (code : Nat) (reason message : String)
    (details : Option StatusDetails) : Status where
  summary := some .failure
  code := code
  message := message
  reason := reason
  details := details

def AdmissionError.denial (error : AdmissionError) : Status :=
  match error with
  | .invalid rejection =>
    denied 422 "Invalid" error.message (some rejection.details)
  | .unknownKind _ => denied 400 "UnsupportedKind" error.message none
  | .missingObject | .undecodable => denied 400 "BadRequest" error.message none
  | .store _ | .cluster _ => denied 500 "InternalError" error.message none

/-- What may succeed later, or failed in the cluster, counts as an error of the
service. -/
def AdmissionError.callResult : AdmissionError → CallResult
  | .cluster _ => .error
  | error => if error.isRetryable then .error else .denied

def callResult : Verdict → CallResult
  | .ok _ => .allowed
  | .error error => error.callResult

namespace ReviewResponse

def ofVerdict (uid : String) : Verdict → ReviewResponse
  | .ok warnings => ⟨uid, warnings, none⟩
  | .error error => ⟨uid, [], some error.denial⟩

def allowed (response : ReviewResponse) : Bool := response.denial.isNone

def status (response : ReviewResponse) : Status := response.denial.getD {}

def toJson (response : ReviewResponse) : Json :=
  .object ([("uid", .string response.uid), ("allowed", .bool response.allowed),
    ("status", Status.codec.encode response.status)] ++
    if response.warnings.isEmpty then []
    else [("warnings", .array (response.warnings.map .string))])

end ReviewResponse

def answeredReview (type : ObjectType) (response : Json) : Json :=
  .object [("apiVersion", .string type.apiVersion), ("kind", .string type.kind),
    ("response", response)]

def emptyReviewAnswer : Json :=
  let status := denied 0 "InvalidRequest"
    "Invalid AdmissionReview: failed to convert AdmissionReview into AdmissionRequest" none
  answeredReview ⟨"admission.k8s.io/v1beta1", "AdmissionReview"⟩
    (ReviewResponse.toJson ⟨"", [], some status⟩)

end AdmissionGate
