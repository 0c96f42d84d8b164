import AdmissionGate.FieldError
import AdmissionGate.Json.Changes
import AdmissionGate.OpsRequest

/-!
# Changes of operation requests

The specification of a request is frozen once it is created.  Every place where
the written forms of two specifications differ is an error.
-/

namespace AdmissionGate.OpsRequestSpec

def written (spec : OpsRequestSpec) : Json := (codec.encode spec).canonical

def changedPaths (old new : OpsRequestSpec) : List String :=
  Json.changes "spec" old.written new.written

def changeErrors (old new : OpsRequestSpec) : List FieldError :=
  (changedPaths old new).map fun path => .immutable path "field is immutable"

end AdmissionGate.OpsRequestSpec
