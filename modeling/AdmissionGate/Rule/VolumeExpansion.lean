import AdmissionGate.Rule.Context

/-!
# The rule of volume expansion

Volumes only grow: every size must exceed the current one, which must be known.
-/

namespace AdmissionGate.VolumeExpansionRule

def path : String := Operation.volumeExpansion.path

def sizeErrors (database : Database) (name : String) (desired : Quantity) :
    List FieldError :=
  let refuse := fun detail =>
    [FieldError.invalid (path ++ "." ++ name) (.string desired.text) detail]
  if desired.isValid then
    match database.storage? name with
    | none => refuse ("current storage size of " ++ name ++ " is unknown")
    | some current =>
      match desired.compare? current with
      | some .gt => []
      | some _ =>
        refuse ("must be greater than current storage size " ++ current.text)
      | none =>
        refuse ("current storage size " ++ current.text ++
          " is not a valid quantity")
  else refuse "must be a valid storage quantity"

def sectionErrors (context : RuleContext) (spec : VolumeExpansionSpec) :
    List FieldError :=
  match context.profile.volume with
  | none =>
    [.forbidden path
      (context.engineKind ++ " has no persistent storage to expand")]
  | some shape =>
    shape.errors path context.isClustered spec.sizes.keys ++
      if context.database.isEphemeral then
        [.forbidden path
          "can not expand volume of a database with Ephemeral storage"]
      else
        spec.sizes.entries.flatMap fun (name, desired) =>
          sizeErrors context.database name desired

def errors (context : RuleContext) : List FieldError :=
  match context.spec.volumeExpansion with
  | none => [missingSection .volumeExpansion]
  | some spec => sectionErrors context spec

end AdmissionGate.VolumeExpansionRule
