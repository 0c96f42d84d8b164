import AdmissionGate.Duration.Positive
import AdmissionGate.SchemaRequest

/-!
# The structure of schema requests

What the specification of a schema request must satisfy by itself.
-/

namespace AdmissionGate.SchemaSpec

/-! ## References and settings -/

def databaseErrors (spec : SchemaSpec) : List FieldError :=
  if spec.database.name.isEmpty then
    [.required "spec.databaseRef.name" "database reference must be set"]
  else []

def vaultErrors (spec : SchemaSpec) : List FieldError :=
  if spec.vault.name.isEmpty then
    [.required "spec.vaultRef.name" "vault reference must be set"]
  else []

def nameErrors (kind : SchemaKind) (spec : SchemaSpec) : List FieldError :=
  let name := spec.config.name
  if name.isEmpty then
    [.required "spec.databaseConfig.name" "database name must be set"]
  else if kind.isReserved name then
    [.invalid "spec.databaseConfig.name" (.string name)
      (name ++ " is a reserved " ++ kind.engine.kind ++ " database name")]
  else []

def readOnlyErrors (kind : SchemaKind) (spec : SchemaSpec) : List FieldError :=
  match spec.config.readOnly with
  | none => []
  | some readOnly =>
    if !kind.supportsReadOnly then
      [.forbidden "spec.databaseConfig.readOnly"
        ("readOnly is not supported for " ++ kind.kind)]
    else if 0 ≤ readOnly ∧ readOnly ≤ 1 then []
    else
      [.notSupported "spec.databaseConfig.readOnly" (.integer readOnly)
        ["0", "1"]]

def initErrors (spec : SchemaSpec) : List FieldError :=
  match spec.init with
  | none => []
  | some init =>
    match init.script, init.snapshot with
    | some _, some _ =>
      [.forbidden "spec.init" "script and snapshot can not be set together"]
    | none, none =>
      [.required "spec.init" "one of script or snapshot must be set"]
    | _, _ => []

/-! ## Access -/

def subjectPath (index : Nat) (member : String) : String :=
  "spec.accessPolicy.subjects[" ++ toString index ++ "]." ++ member

def subjectErrors (index : Nat) (subject : Subject) : List FieldError :=
  (if subject.kind.isEmpty then
    [.required (subjectPath index "kind") "subject kind must be set"]
    else []) ++
  (if subject.name.isEmpty then
    [.required (subjectPath index "name") "subject name must be set"] else [])

def subjectsErrors : (index : Nat) → List Subject → List FieldError
  | _, [] => []
  | index, subject :: rest =>
    subjectErrors index subject ++ subjectsErrors (index + 1) rest

def missingSubjectErrors (spec : SchemaSpec) : List FieldError :=
  if spec.access.subjects.isEmpty then
    [.required "spec.accessPolicy.subjects" "at least one subject must be set"]
  else []

def positiveTtl? [Duration.Reader] (text : Option String) : Option Duration :=
  text.bind Duration.positive?

def ttlErrors [Duration.Reader] (path : String) (text : Option String) :
    List FieldError :=
  match text with
  | none => []
  | some text => Duration.positiveErrors path text "1h or 24h"

/-- Two times to live that are both positive must be in order. -/
def ttlOrderErrors [Duration.Reader] (access : AccessPolicy) :
    List FieldError :=
  match positiveTtl? access.defaultTtl, positiveTtl? access.maxTtl with
  | some default, some greatest =>
    if greatest.nanos < default.nanos then
      [.invalid "spec.accessPolicy.defaultTTL"
        (.string (access.defaultTtl.getD ""))
        ("must not exceed maxTTL " ++ access.maxTtl.getD "")]
    else []
  | _, _ => []

/-! ## All parts -/

def structureErrors [Duration.Reader] (kind : SchemaKind) (spec : SchemaSpec) :
    List FieldError :=
  spec.databaseErrors ++ spec.vaultErrors ++ nameErrors kind spec ++
    readOnlyErrors kind spec ++ spec.initErrors ++ spec.missingSubjectErrors ++
    subjectsErrors 0 spec.access.subjects ++
    ttlErrors "spec.accessPolicy.defaultTTL" spec.access.defaultTtl ++
    ttlErrors "spec.accessPolicy.maxTTL" spec.access.maxTtl ++
    ttlOrderErrors spec.access

end AdmissionGate.SchemaSpec
