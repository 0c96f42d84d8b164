import AdmissionGate.Rule.Context
import AdmissionGate.Version

/-!
# The rule of credentials

A secret with new credentials must exist, and later versions of some engines
need certificates before their credentials can change.
-/

namespace AdmissionGate.RotateAuthRule

def path : String := Operation.rotateAuth.path

def secretErrors (context : RuleContext) (secret : LocalReference) :
    List FieldError :=
  let path := path ++ ".secretRef.name"
  if secret.name.isEmpty then [.required path "secret name must be set"]
  else if context.collaborators.hasSecret secret.name then []
  else [.notFound path (.string secret.name) ""]

def tlsErrors (context : RuleContext) (greatest : Nat) : List FieldError :=
  let running := Version.ofText? context.databaseVersion
  if running.any (greatest < ·.major) && !context.database.hasTls then
    [.forbidden path ("rotating auth of " ++ context.engineKind ++ " " ++
      context.databaseVersion ++ " requires TLS for versions above " ++
      toString greatest)]
  else []

def sectionErrors (context : RuleContext) (spec : RotateAuthSpec) :
    List FieldError :=
  (spec.secret.map (secretErrors context)).getD [] ++
    (context.profile.rotateAuthTlsAbove.map (tlsErrors context)).getD []

def errors (context : RuleContext) : List FieldError :=
  match context.spec.authentication with
  | none => [missingSection .rotateAuth]
  | some spec => sectionErrors context spec

end AdmissionGate.RotateAuthRule
