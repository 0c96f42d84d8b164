import AdmissionGate.Duration.Positive
import AdmissionGate.OpsRequest
import AdmissionGate.Profile
import AdmissionGate.Rule.Context

/-!
# Requirements of operation requests

What a request must satisfy before anything is looked up: a database, an
operation of the engine, the section of that operation and no other, and a
positive timeout.
-/

namespace AdmissionGate.OpsRequestSpec

/-! ## Parts -/

def databaseErrors (spec : OpsRequestSpec) : List FieldError :=
  if spec.database.name.isEmpty then
    [.required "spec.databaseRef.name" "database reference name must be set"]
  else []

def operation? (spec : OpsRequestSpec) (profile : Profile) : Option Operation :=
  (Operation.ofText? spec.type).filter profile.supports

def unsupported (profile : Profile) (type : String) : FieldError :=
  { FieldError.notSupported "spec.type" (.string type) profile.allowedTypes with
    category := .unsupportedType }

def typeErrors (spec : OpsRequestSpec) (profile : Profile) : List FieldError :=
  if spec.type.isEmpty then [.required "spec.type" "operation type must be set"]
  else
    match spec.operation? profile with
    | some _ => []
    | none => [unsupported profile spec.type]

/-- A restart may do without a section. -/
def missingSectionErrors (spec : OpsRequestSpec) (operation : Operation) :
    List FieldError :=
  if operation = .restart ∨ spec.hasSection operation then []
  else [missingSection operation]

def foreignSectionErrors (spec : OpsRequestSpec) (operation : Operation) :
    List FieldError :=
  (spec.populated.filter (· != operation)).map fun other =>
    .forbidden other.path ("must not be set for type " ++ operation.name)

def sectionErrors (spec : OpsRequestSpec) (operation : Operation) :
    List FieldError :=
  spec.missingSectionErrors operation ++ spec.foreignSectionErrors operation

def timeoutErrors [Duration.Reader] (spec : OpsRequestSpec) : List FieldError :=
  match spec.timeout with
  | none => []
  | some timeout => Duration.positiveErrors "spec.timeout" timeout "5m or 1h30m"

/-! ## All requirements -/

def requirementErrors [Duration.Reader] (spec : OpsRequestSpec)
    (profile : Profile) : List FieldError :=
  spec.databaseErrors ++ spec.typeErrors profile ++
    ((spec.operation? profile).map spec.sectionErrors).getD [] ++
    spec.timeoutErrors

end AdmissionGate.OpsRequestSpec
