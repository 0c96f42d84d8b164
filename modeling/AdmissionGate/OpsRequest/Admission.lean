import AdmissionGate.Admission
import AdmissionGate.OpsRequest.Changes
import AdmissionGate.OpsRequest.Requirements
import AdmissionGate.Rule
import AdmissionGate.Store

/-!
# Admission of operation requests

A request is created if it meets the requirements, its database exists and the
rule of its operation finds nothing wrong.  Its specification never changes
afterwards, and while nobody has acted on it an update is checked like a
creation.  Deletions are free.
-/

namespace AdmissionGate.OpsRequest

/-! ## Reads -/

def database? (request : OpsRequest) (store : ObjectStore) (engine : Engine) :
    Except StoreError (Option Database) :=
  if request.spec.database.name.isEmpty then .ok none
  else
    store.database? engine request.metadata.namespaceText
      request.spec.database.name

def catalogVersion? (store : ObjectStore) (engine : Engine) (name : String) :
    Except StoreError (Option CatalogVersion) :=
  if name.isEmpty then .ok none else store.version? engine name

/-- Whether the secret of a name exists, by its name; nothing for the empty
name. -/
def secretEntry (store : ObjectStore) (namespaceName : String)
    (secret : Option LocalReference) : Except StoreError (Dict Bool) :=
  match secret with
  | none => .ok .empty
  | some secret =>
    if secret.name.isEmpty then .ok .empty
    else
      (store.hasSecret namespaceName secret.name).map
        (Dict.singleton secret.name)

def collaborators (request : OpsRequest) (store : ObjectStore) (engine : Engine)
    (operation : Operation) (database : Database) :
    Except StoreError Collaborators :=
  let spec := request.spec
  match operation with
  | .updateVersion => do
    let target ← catalogVersion? store engine
      ((spec.updateVersion.map UpdateVersionSpec.targetVersion).getD "")
    let current ← catalogVersion? store engine database.spec.version
    return { target, current }
  | .reconfigure => do
    let secrets ← secretEntry store request.metadata.namespaceText
      (spec.configuration.bind ReconfigureSpec.configSecret)
    return { secrets }
  | .rotateAuth => do
    let secrets ← secretEntry store request.metadata.namespaceText
      (spec.authentication.bind RotateAuthSpec.secret)
    return { secrets }
  | .horizontalScaling | .verticalScaling | .volumeExpansion | .restart
  | .reconfigureTls =>
    .ok {}

/-! ## Errors -/

def missingDatabase (request : OpsRequest) (engine : Engine) : FieldError :=
  let name := request.spec.database.name
  .notFound "spec.databaseRef" (.string name)
    (engine.kind ++ " " ++ request.metadata.namespaceText ++ "/" ++ name ++
      " does not exist")

def earlyErrors [Duration.Reader] (request : OpsRequest) (engine : Engine)
    (database : Option Database) : List FieldError :=
  request.spec.requirementErrors engine.profile ++
    if database.isNone && !request.spec.database.name.isEmpty then
      [request.missingDatabase engine]
    else []

def rejection (request : OpsRequest) (engine : Engine)
    (errors : List FieldError) : Rejection where
  group := Engine.opsGroup
  kind := engine.opsKind
  name := request.metadata.nameText
  errors := errors

/-! ## Creation -/

def warnings (request : OpsRequest) (engine : Engine) : Warnings :=
  if request.spec.apply = some .always then
    ["apply is Always: the operation may run while " ++ engine.kind ++ " " ++
      request.spec.database.name ++ " is not Ready"]
  else []

def conclude (request : OpsRequest) (engine : Engine)
    (errors : List FieldError) : Verdict :=
  if errors.isEmpty then .ok (request.warnings engine)
  else .error (.invalid (request.rejection engine errors))

/-- The errors of the rule of the operation, which is run on a request without
other errors. -/
def lateErrors [Duration.Reader] [Version.RangeReader] (request : OpsRequest)
    (store : ObjectStore) (engine : Engine) (database : Option Database) :
    Except AdmissionError (List FieldError) :=
  match request.spec.operation? engine.profile, database,
    request.earlyErrors engine database with
  | some operation, some database, [] => do
    let collaborators ← fromStore
      (request.collaborators store engine operation database)
    return operation.ruleErrors {
      request, database, profile := engine.profile, collaborators }
  | _, _, _ => .ok []

def validateCreate [Duration.Reader] [Version.RangeReader]
    (request : OpsRequest) (store : ObjectStore) (engine : Engine) :
    Verdict := do
  let database ← fromStore (request.database? store engine)
  let late ← request.lateErrors store engine database
  request.conclude engine (request.earlyErrors engine database ++ late)

/-! ## Updates and deletions -/

def validateUpdate [Duration.Reader] [Version.RangeReader]
    (old new : OpsRequest) (store : ObjectStore) (engine : Engine) : Verdict :=
  match OpsRequestSpec.changeErrors old.spec new.spec with
  | [] => if old.isPending then new.validateCreate store engine else .ok []
  | errors => .error (.invalid (new.rejection engine errors))

def validateDelete (_request : OpsRequest) (_engine : Engine) : Verdict :=
  .ok []

end AdmissionGate.OpsRequest
