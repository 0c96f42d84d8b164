import AdmissionGate.SchemaRequest

/-!
# The phase of a schema request

The phase follows from the metadata, the stored phase and the conditions.  The
rules stand in order of precedence and the first that applies decides.
-/

namespace AdmissionGate

/-! ## Conditions -/

inductive SchemaCondition where
  | vaultNotReady
  | secretAccessRequestCreated
  | secretAccessRequestApproved
  | secretAccessRequestDenied
  | secretAccessRequestExpired
  | databaseCreated
  | scriptApplied
  | failedInitializing
  | restoredFromRepository
  | failedRestoring
  | schemaIgnored
deriving DecidableEq, Repr

namespace SchemaCondition

def type : SchemaCondition → String
  | .vaultNotReady => "VaultNotReady"
  | .secretAccessRequestCreated => "SecretAccessRequestCreated"
  | .secretAccessRequestApproved => "SecretAccessRequestApproved"
  | .secretAccessRequestDenied => "SecretAccessRequestDenied"
  | .secretAccessRequestExpired => "SecretAccessRequestExpired"
  | .databaseCreated => "DatabaseCreated"
  | .scriptApplied => "ScriptApplied"
  | .failedInitializing => "FailedInitializing"
  | .restoredFromRepository => "RestoredFromRepository"
  | .failedRestoring => "FailedRestoring"
  | .schemaIgnored => "SchemaIgnored"

end SchemaCondition

namespace SchemaRequest

def meets (request : SchemaRequest) (condition : SchemaCondition) : Bool :=
  Condition.isTrue request.conditions condition.type

def restoresSnapshot (request : SchemaRequest) : Bool :=
  request.spec.init.any fun init => init.snapshot.isSome

/-! ## Phases -/

def createdPhase (request : SchemaRequest) : SchemaPhase :=
  if request.spec.init.isSome && request.meets .failedInitializing then .failed
  else if request.spec.init.isSome && !request.meets .scriptApplied then
    .running
  else if request.restoresSnapshot && request.meets .failedRestoring then
    .failed
  else if request.restoresSnapshot &&
      !request.meets .restoredFromRepository then
    .running
  else .success

def phase (request : SchemaRequest) (kind : SchemaKind) : SchemaPhase :=
  if request.metadata.deletionTimestamp.isSome then .terminating
  else if request.meets .secretAccessRequestExpired then .expired
  else if request.storedPhase? = some .success then .success
  else if request.meets .schemaIgnored then .failed
  else if Condition.isTrue request.conditions kind.notReadyCondition then
    .waiting
  else if request.meets .vaultNotReady then .waiting
  else if request.meets .secretAccessRequestCreated &&
      !request.meets .secretAccessRequestApproved then
    if request.meets .secretAccessRequestDenied then .failed else .waiting
  else if request.meets .databaseCreated then request.createdPhase
  else .waiting

end SchemaRequest
end AdmissionGate
