import AdmissionGate.Admission
import AdmissionGate.SchemaRequest.Frozen
import AdmissionGate.SchemaRequest.Structure
import AdmissionGate.Store

/-!
# Admission of schema requests

A request is created if it is well formed and its database exists.  An update
must leave the frozen parts alone and be well formed.
-/

namespace AdmissionGate.SchemaRequest

/-! ## Reads -/

/-- The namespace of the database: the one given with it, or else that of the
request. -/
def databaseNamespace (request : SchemaRequest) : String :=
  (request.spec.database.namespaceName.or
    request.metadata.namespaceName).getD ""

def database? (request : SchemaRequest) (store : ObjectStore)
    (kind : SchemaKind) : Except StoreError (Option Database) :=
  if request.spec.database.name.isEmpty then .ok none
  else
    store.database? kind.engine request.databaseNamespace
      request.spec.database.name

/-! ## Outcomes -/

def missingDatabase (request : SchemaRequest) (kind : SchemaKind) :
    FieldError :=
  let name := request.spec.database.name
  .notFound "spec.databaseRef" (.string name)
    (kind.engine.kind ++ " " ++ request.databaseNamespace ++ "/" ++ name ++
      " does not exist")

def rejection (request : SchemaRequest) (kind : SchemaKind)
    (errors : List FieldError) : Rejection where
  group := SchemaKind.group
  kind := kind.kind
  name := request.metadata.nameText
  errors := errors

def conclude (request : SchemaRequest) (kind : SchemaKind)
    (errors : List FieldError) : Verdict :=
  if errors.isEmpty then .ok []
  else .error (.invalid (request.rejection kind errors))

/-! ## Admission -/

def creationErrors [Duration.Reader] (request : SchemaRequest)
    (kind : SchemaKind) (database : Option Database) : List FieldError :=
  SchemaSpec.structureErrors kind request.spec ++
    if database.isNone && !request.spec.database.name.isEmpty then
      [request.missingDatabase kind]
    else []

def validateCreate [Duration.Reader] (request : SchemaRequest)
    (store : ObjectStore) (kind : SchemaKind) : Verdict := do
  let database ← fromStore (request.database? store kind)
  request.conclude kind (request.creationErrors kind database)

def validateUpdate [Duration.Reader] (old new : SchemaRequest)
    (kind : SchemaKind) : Verdict :=
  match updateErrors old new with
  | [] => new.conclude kind (SchemaSpec.structureErrors kind new.spec)
  | errors => .error (.invalid (new.rejection kind errors))

def validateDelete (request : SchemaRequest) (kind : SchemaKind) : Verdict :=
  request.conclude kind (deletionErrors kind request)

end AdmissionGate.SchemaRequest
