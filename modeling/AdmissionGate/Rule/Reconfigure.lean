import AdmissionGate.Rule.Context

/-!
# The rule of reconfiguration

Exactly one mechanism must be given.  A removal needs a custom configuration to
remove, and a secret must exist.
-/

namespace AdmissionGate.ReconfigureRule

def path : String := Operation.reconfigure.path

def removalErrors (context : RuleContext) (spec : ReconfigureSpec) :
    List FieldError :=
  if spec.removes && !context.database.hasCustomConfig then
    [.invalid (path ++ ".removeCustomConfig") (.bool true)
      (context.engineKind ++ " " ++ context.database.metadata.nameText ++
        " has no custom config to remove")]
  else []

def secretErrors (context : RuleContext) (secret : LocalReference) :
    List FieldError :=
  let path := path ++ ".configSecret.name"
  if secret.name.isEmpty then [.required path "config secret name must be set"]
  else if context.collaborators.hasSecret secret.name then []
  else [.notFound path (.string secret.name) ""]

def sectionErrors (context : RuleContext) (spec : ReconfigureSpec) :
    List FieldError :=
  match spec.mechanisms with
  | [] =>
    [.required path
      "one of removeCustomConfig, applyConfig or configSecret must be set"]
  | [_] =>
    removalErrors context spec ++
      (spec.configSecret.map (secretErrors context)).getD []
  | mechanisms =>
    [.forbidden path
      ("more than one operation requested (" ++ ", ".intercalate mechanisms ++
        "); only one of removeCustomConfig, applyConfig or configSecret can be set")]

def errors (context : RuleContext) : List FieldError :=
  match context.spec.configuration with
  | none => [missingSection .reconfigure]
  | some spec => sectionErrors context spec

end AdmissionGate.ReconfigureRule
