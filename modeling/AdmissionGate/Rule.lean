import AdmissionGate.Rule.HorizontalScaling
import AdmissionGate.Rule.Reconfigure
import AdmissionGate.Rule.ReconfigureTls
import AdmissionGate.Rule.RotateAuth
import AdmissionGate.Rule.UpdateVersion
import AdmissionGate.Rule.VerticalScaling
import AdmissionGate.Rule.VolumeExpansion

/-!
# The rules

One rule for each operation.  A rule reports every error that it finds.
-/

namespace AdmissionGate

/-- A restart needs nothing but its database. -/
def Operation.ruleErrors [Version.RangeReader] (operation : Operation)
    (context : RuleContext) : List FieldError :=
  match operation with
  | .updateVersion => UpdateVersionRule.errors context
  | .horizontalScaling => HorizontalScalingRule.errors context
  | .verticalScaling => VerticalScalingRule.errors context
  | .volumeExpansion => VolumeExpansionRule.errors context
  | .restart => []
  | .reconfigure => ReconfigureRule.errors context
  | .reconfigureTls => ReconfigureTlsRule.errors context
  | .rotateAuth => RotateAuthRule.errors context

end AdmissionGate
