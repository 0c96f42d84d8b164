import AdmissionGate.Rule.Context

/-!
# The rule of vertical scaling

Every node must have requests or limits, all of them valid, and no request for
processors or memory may exceed its limit.
-/

namespace AdmissionGate.VerticalScalingRule

def path : String := Operation.verticalScaling.path

/-! ## Resources -/

def quantityErrors (path : String) (quantities : Option (Dict Quantity)) :
    List FieldError :=
  (quantities.getD .empty).entries.flatMap fun (name, quantity) =>
    if quantity.isValid then []
    else
      [.invalid (path ++ "." ++ name) (.string quantity.text)
        "must be a valid resource quantity"]

def boundedResources : List String := ["cpu", "memory"]

def excessErrors (path : String) (requests limits : Dict Quantity)
    (name : String) : List FieldError :=
  match requests.find? name, limits.find? name with
  | some request, some limit =>
    if request.compare? limit = some .gt then
      [.invalid (path ++ ".requests." ++ name) (.string request.text)
        ("must be less than or equal to " ++ name ++ " limit " ++ limit.text)]
    else []
  | _, _ => []

def resourceErrors (path : String) (resources : ComputeResources) :
    List FieldError :=
  quantityErrors (path ++ ".requests") resources.requests ++
    quantityErrors (path ++ ".limits") resources.limits ++
    match resources.requests, resources.limits with
    | some requests, some limits =>
      boundedResources.flatMap (excessErrors path requests limits)
    | _, _ => []

/-! ## The rule -/

def nodeErrors (name : String) (pod : PodResources) : List FieldError :=
  let path := path ++ "." ++ name ++ ".resources"
  match pod.resources with
  | some resources =>
    if resources.isSet then resourceErrors path resources
    else [.required path "resource requests or limits must be set"]
  | none => [.required path "resource requests or limits must be set"]

def sectionErrors (context : RuleContext) (spec : VerticalScalingSpec) :
    List FieldError :=
  context.profile.vertical.errors path context.isClustered spec.nodes.keys ++
    spec.nodes.entries.flatMap fun (name, pod) => nodeErrors name pod

def errors (context : RuleContext) : List FieldError :=
  match context.spec.verticalScaling with
  | none => [missingSection .verticalScaling]
  | some spec => sectionErrors context spec

end AdmissionGate.VerticalScalingRule
