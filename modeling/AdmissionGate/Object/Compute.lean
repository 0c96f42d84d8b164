import AdmissionGate.Quantity

/-!
# Compute resources

Requests and limits on the resources of a workload.  They are read from objects
only; every member may be absent or null.
-/

namespace AdmissionGate

structure ResourceClaim where
  name : String
  request : Option String
deriving DecidableEq, Repr

namespace ResourceClaim

def layout : Layout ResourceClaim ResourceClaim :=
  Layout.start ResourceClaim.mk
    |>.member (.lenientString "name") name
    |>.member (.optional "request" .string) request

def codec : Codec ResourceClaim := layout.object

end ResourceClaim

structure ComputeResources where
  claims : Option (List ResourceClaim) := none
  limits : Option (Dict Quantity) := none
  requests : Option (Dict Quantity) := none
deriving DecidableEq, Repr

namespace ComputeResources

def layout : Layout ComputeResources ComputeResources :=
  Layout.start ComputeResources.mk
    |>.member (.optional "claims" (.list ResourceClaim.codec)) claims
    |>.member (.optional "limits" (.dict Quantity.codec)) limits
    |>.member (.optional "requests" (.dict Quantity.codec)) requests

def codec : Codec ComputeResources := layout.object

def isSet (resources : ComputeResources) : Bool :=
  resources.requests.any (!·.isEmpty) || resources.limits.any (!·.isEmpty)

end ComputeResources
end AdmissionGate
