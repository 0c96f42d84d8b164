import AdmissionGate.FieldError
import AdmissionGate.SchemaRequest.Phase

/-!
# Frozen parts of schema requests

What an update of a schema request must leave as it is once somebody acts on the
request, and what stands against its deletion.
-/

namespace AdmissionGate.SchemaRequest

/-! ## Updates -/

def frozenErrors {Part : Type} [DecidableEq Part] (path detail : String)
    (old new : Part) : List FieldError :=
  if old = new then [] else [.immutable path detail]

def fieldIsImmutable : String := "field is immutable"

def initSourceErrors (old new : Option InitSpec) : List FieldError :=
  match old, new with
  | none, _ => []
  | some old, some new =>
    if old.sameSource new then []
    else [.immutable "spec.init" "can not be changed once set"]
  | some _, none => [.immutable "spec.init" "can not be changed once set"]

/-- Only the operator says that an initialization is done. -/
def initializedErrors (old new : Option InitSpec) : List FieldError :=
  match old, new with
  | some old, some new =>
    if !old.initialized && new.initialized then
      [.immutable "spec.init.initialized" "can only be set by the operator"]
    else []
  | _, _ => []

def nameChangeErrors (old new : SchemaRequest) : List FieldError :=
  if old.meets .databaseCreated then
    frozenErrors "spec.databaseConfig.name"
      "can not be changed after the database is created" old.spec.config.name
      new.spec.config.name
  else []

/-- Nothing is frozen while the request has no finalizers. -/
def updateErrors (old new : SchemaRequest) : List FieldError :=
  if old.metadata.hasFinalizers then
    frozenErrors "spec.databaseRef" fieldIsImmutable old.spec.database
        new.spec.database ++
      frozenErrors "spec.vaultRef" fieldIsImmutable old.spec.vault
        new.spec.vault ++
      frozenErrors "spec.accessPolicy" fieldIsImmutable old.spec.access
        new.spec.access ++
      initSourceErrors old.spec.init new.spec.init ++
      initializedErrors old.spec.init new.spec.init ++ nameChangeErrors old new
  else []

/-! ## Deletions -/

def deletionErrors (kind : SchemaKind) (request : SchemaRequest) :
    List FieldError :=
  (if request.spec.deletionPolicy = .doNotDelete then
    [.forbidden "spec.deletionPolicy"
      "can not delete while deletionPolicy is DoNotDelete"]
    else []) ++
  (if kind.supportsReadOnly && request.spec.config.isReadOnly then
    [.forbidden "spec.databaseConfig.readOnly"
      "can not delete a read-only database, set readOnly to 0 first"]
    else [])

end AdmissionGate.SchemaRequest
