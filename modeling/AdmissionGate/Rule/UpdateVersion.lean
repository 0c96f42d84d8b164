import AdmissionGate.Rule.Context
import AdmissionGate.Version.Range

/-!
# The rule of version updates

The target must be in the catalog and not be deprecated, the current version
must be in the catalog, and its entry must permit the transition for the
database's topology.
-/

namespace AdmissionGate.UpdateVersionRule

def path : String := Operation.updateVersion.path ++ ".targetVersion"

def topologyName (clustered : Bool) : String :=
  if clustered then "cluster" else "standalone"

/-! ## Transitions -/

/-- An allowlist with entries for the topology must have one that the target
satisfies. -/
def allowlistErrors [Version.RangeReader] (clustered : Bool)
    (requested : String) (current target : CatalogVersion)
    (allowlist : TopologyConstraints) : List FieldError :=
  let allowed := allowlist.forTopology clustered
  if allowed.isEmpty ||
      allowed.any (Version.satisfies target.softwareVersion) then []
  else
    [.invalid path (.string requested)
      ("update from " ++ current.metadata.nameText ++ " to " ++
        target.softwareVersion ++ " is not in the " ++ topologyName clustered ++
        " allowlist [" ++ ", ".intercalate allowed ++ "]")]

/-- No entry of a denylist for the topology may be one that the target
satisfies. -/
def denylistErrors [Version.RangeReader] (clustered : Bool) (requested : String)
    (current target : CatalogVersion) (denylist : TopologyConstraints) :
    List FieldError :=
  match (denylist.forTopology clustered).find?
      (Version.satisfies target.softwareVersion) with
  | none => []
  | some denied =>
    [.invalid path (.string requested)
      ("update from " ++ current.metadata.nameText ++ " to " ++
        target.softwareVersion ++ " is denied by the " ++
        topologyName clustered ++ " denylist entry \"" ++ denied ++ "\"")]

def transitionErrors [Version.RangeReader] (clustered : Bool)
    (requested : String) (current target : CatalogVersion) : List FieldError :=
  match current.spec.updateConstraints with
  | none => []
  | some constraints =>
    (constraints.allowlist.map
      (allowlistErrors clustered requested current target)).getD [] ++
    (constraints.denylist.map
      (denylistErrors clustered requested current target)).getD []

/-! ## The rule -/

def deprecationErrors (context : RuleContext) (requested : String)
    (target : CatalogVersion) : List FieldError :=
  if target.spec.deprecated then
    [.invalid path (.string requested)
      (context.engineKind ++ "Version " ++ requested ++ " is deprecated")]
  else []

def missingVersion (context : RuleContext) (field name : String) : FieldError :=
  .notFound field (.string name) (context.engineKind ++ "Version \"" ++ name ++
    "\" does not exist")

def currentErrors [Version.RangeReader] (context : RuleContext)
    (requested : String) (target : CatalogVersion) : List FieldError :=
  match context.collaborators.current with
  | some current =>
    transitionErrors context.isClustered requested current target
  | none => [missingVersion context "spec.databaseRef" context.databaseVersion]

def sectionErrors [Version.RangeReader] (context : RuleContext)
    (spec : UpdateVersionSpec) : List FieldError :=
  let requested := spec.targetVersion
  if requested.isEmpty then [.required path "target version must be set"]
  else
    match context.collaborators.target with
    | none => [missingVersion context path requested]
    | some target =>
      deprecationErrors context requested target ++
        currentErrors context requested target

def errors [Version.RangeReader] (context : RuleContext) : List FieldError :=
  match context.spec.updateVersion with
  | none => [missingSection .updateVersion]
  | some spec => sectionErrors context spec

end AdmissionGate.UpdateVersionRule
