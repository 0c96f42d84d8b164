import AdmissionGate.Rule.Context

/-!
# The rule of horizontal scaling

Counts must be positive and keep the quorum, and the database must be one that
can be resized.
-/

namespace AdmissionGate.HorizontalScalingRule

def path : String := Operation.horizontalScaling.path

def countErrors (rules : HorizontalRules) (name : String) (count : Int) :
    List FieldError :=
  if count ≤ 0 then
    [.invalid (path ++ "." ++ name) (.integer count)
      "must be greater than zero"]
  else
    match rules.quorum with
    | none => []
    | some quorum =>
      if quorum.field = name ∧ ¬ quorum.contains count then
        [.invalid (path ++ "." ++ name) (.integer count) quorum.message]
      else []

/-- The database must have a resizable topology, or be a cluster where that is
required. -/
def topologyErrors (context : RuleContext) : List FieldError :=
  let rules := context.profile.horizontal
  if rules.resizableModes.isEmpty then
    if rules.requiresClustered && !context.isClustered then
      [.forbidden path ("horizontal scaling requires a clustered " ++
        context.engineKind ++ " database")]
    else []
  else if context.database.topologyMode?.any
      rules.resizableModes.contains then []
  else
    [.forbidden path ("horizontal scaling requires " ++ context.engineKind ++
      " topology mode " ++ " or ".intercalate rules.resizableModes)]

def sectionErrors (context : RuleContext) (spec : HorizontalScalingSpec) :
    List FieldError :=
  let rules := context.profile.horizontal
  rules.shape.errors path context.isClustered spec.counts.keys ++
    spec.counts.entries.flatMap
      (fun (name, count) => countErrors rules name count) ++
    topologyErrors context

def errors (context : RuleContext) : List FieldError :=
  match context.spec.horizontalScaling with
  | none => [missingSection .horizontalScaling]
  | some spec => sectionErrors context spec

end AdmissionGate.HorizontalScalingRule
