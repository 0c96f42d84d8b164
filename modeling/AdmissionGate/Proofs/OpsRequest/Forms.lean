import AdmissionGate.OpsRequest
import AdmissionGate.Proofs.Object.Forms

/-!
# Forms of operation requests

The form of every part of a request's specification.  All parts but the
specification itself lose the members that they do not name; the form of what
is written shows this, the form of the whole value does not.
-/

namespace AdmissionGate

variable {likeness : Likeness}

/-! ## References -/

namespace LocalReference

def forms : List MemberForm := [.defaulted "name" id (.string "")]

def form (extent : Extent) : Json → Json :=
  Form.record forms extent.undeclared

theorem faithful : codec.Faithful likeness (form .written) id :=
  (Layout.Faithful.start _
    |>.member (.defaulted _ .string rfl rfl rfl) _).recordFrom
      (fun _ => rfl) (by decide) 0

end LocalReference

/-! ## Versions and scaling -/

namespace UpdateVersionSpec

def forms : List MemberForm := [.defaulted "targetVersion" id (.string "")]

def form (extent : Extent) : Json → Json :=
  Form.record forms extent.undeclared

theorem faithful : codec.Faithful likeness (form .written) id :=
  (Layout.Faithful.start _
    |>.member (.defaulted _ .string rfl rfl rfl) _).recordFrom
      (fun _ => rfl) (by decide) 0

end UpdateVersionSpec

namespace HorizontalScalingSpec

def form : Json → Json := Form.object [] (Form.entries id)

theorem faithful : codec.Faithful likeness form id :=
  (Layout.Faithful.start _).objectWith (.signed _)
    (fun _ _ => rfl) (fun _ _ => rfl) (by decide)

end HorizontalScalingSpec

namespace ResourceClaim

def forms : List MemberForm := [.lenientString "name", .optional "request" id]

def form (extent : Extent) : Json → Json :=
  Form.object forms extent.undeclared

theorem faithful : codec.Faithful likeness (form .written) id :=
  (Layout.Faithful.start _
    |>.member (.lenientString _) _
    |>.member (.optional _ .string) _).object
      (fun _ => rfl) (by decide)

end ResourceClaim

namespace ComputeResources

def forms (extent : Extent) : List MemberForm :=
  [.optional "claims" (Form.list (ResourceClaim.form extent)),
    .optional "limits" (Form.dict Form.quantity),
    .optional "requests" (Form.dict Form.quantity)]

def form (extent : Extent) : Json → Json :=
  Form.object (forms extent) extent.undeclared

theorem faithful : codec.Faithful likeness (form .written) id :=
  (Layout.Faithful.start _
    |>.member (.optional _ ResourceClaim.faithful.list) _
    |>.member (.optional _ Codec.Faithful.quantity.dict) _
    |>.member (.optional _ Codec.Faithful.quantity.dict) _).object
      (fun _ => rfl) (by decide)

end ComputeResources

namespace PodResources

def forms (extent : Extent) : List MemberForm :=
  [.optional "resources" (ComputeResources.form extent),
    .optional "nodeSelectionPolicy" id,
    .sparse "nodeSelector" (Form.dict id) (.object [])]

def form (extent : Extent) : Json → Json :=
  Form.record (forms extent) extent.undeclared

theorem faithful : codec.Faithful likeness (form .written) id :=
  (Layout.Faithful.start _
    |>.member (.optional _ ComputeResources.faithful) _
    |>.member (.optional _ .string) _
    |>.member (.mapped _ .string) _).recordFrom
      (fun _ => rfl) (by decide) 0

end PodResources

namespace VerticalScalingSpec

def form (extent : Extent) : Json → Json :=
  Form.object [] (Form.entries (PodResources.form extent))

theorem faithful : codec.Faithful likeness (form .written) id :=
  (Layout.Faithful.start _).objectWith PodResources.faithful
    (fun _ _ => rfl) (fun _ _ => rfl) (by decide)

end VerticalScalingSpec

/-! ## Volumes -/

namespace VolumeExpansionSpec

def forms : List MemberForm := [.optional "mode" Form.choice]

def form : Json → Json := Form.object forms (Form.entries Form.quantity)

theorem faithful : codec.Faithful likeness form id :=
  (Layout.Faithful.start _
    |>.member (.optional _ (.choice _ _)) _).objectWith .quantity
      (fun _ _ => rfl) (fun _ _ => rfl) (by decide)

end VolumeExpansionSpec

/-! ## Configuration -/

namespace ReconfigureSpec

def forms (extent : Extent) : List MemberForm :=
  [.optional "configSecret" (LocalReference.form extent),
    .optional "applyConfig" (Form.dict id),
    .optional "removeCustomConfig" id]

def form (extent : Extent) : Json → Json :=
  Form.record (forms extent) extent.undeclared

theorem faithful : codec.Faithful likeness (form .written) id :=
  (Layout.Faithful.start _
    |>.member (.optional _ LocalReference.faithful) _
    |>.member (.optional _ Codec.Faithful.string.dict) _
    |>.member (.optional _ .bool) _).recordFrom
      (fun _ => rfl) (by decide) 0

end ReconfigureSpec

/-! ## Transport security -/

namespace IssuerReference

def forms : List MemberForm :=
  [.required "name" id, .optional "kind" id, .optional "apiGroup" id]

def form (extent : Extent) : Json → Json :=
  Form.record forms extent.undeclared

theorem faithful : codec.Faithful likeness (form .written) id :=
  (Layout.Faithful.start _
    |>.member (.required _ .string) _
    |>.member (.optional _ .string) _
    |>.member (.optional _ .string) _).recordFrom
      (fun _ => rfl) (by decide) 0

end IssuerReference

namespace CertificateSpec

def forms : List MemberForm :=
  [.required "alias" id, .optional "secretName" id,
    .sparse "dnsNames" (Form.list id) (.array []),
    .sparse "ipAddresses" (Form.list id) (.array []),
    .optional "duration" id, .optional "renewBefore" id]

def form (extent : Extent) : Json → Json :=
  Form.record forms extent.undeclared

theorem faithful : codec.Faithful likeness (form .written) id :=
  (Layout.Faithful.start _
    |>.member (.required _ .string) _
    |>.member (.optional _ .string) _
    |>.member (.listed _ .string) _
    |>.member (.listed _ .string) _
    |>.member (.optional _ .string) _
    |>.member (.optional _ .string) _).recordFrom
      (fun _ => rfl) (by decide) 0

end CertificateSpec

namespace TlsConfig

def forms (extent : Extent) : List MemberForm :=
  [.optional "issuerRef" (IssuerReference.form extent),
    .sparse "certificates" (Form.list (CertificateSpec.form extent))
      (.array [])]

end TlsConfig

namespace ReconfigureTlsSpec

def forms (extent : Extent) : List MemberForm :=
  TlsConfig.forms extent ++
    [.optional "rotateCertificates" id, .optional "remove" id,
      .optional "requireSSL" id]

def form (extent : Extent) : Json → Json :=
  Form.object (forms extent) extent.undeclared

theorem faithful : codec.Faithful likeness (form .written) id :=
  (Layout.Faithful.start _
    |>.inline
      (Layout.Faithful.start _
        |>.member (.optional _ IssuerReference.faithful) _
        |>.member (.listed _ CertificateSpec.faithful) _) _
    |>.member (.optional _ .bool) _
    |>.member (.optional _ .bool) _
    |>.member (.optional _ .bool) _).object
      (fun _ => rfl) (by decide)

end ReconfigureTlsSpec

/-! ## Credentials and restarts -/

namespace RotateAuthSpec

def forms (extent : Extent) : List MemberForm :=
  [.optional "secretRef" (LocalReference.form extent)]

def form (extent : Extent) : Json → Json :=
  Form.record (forms extent) extent.undeclared

theorem faithful : codec.Faithful likeness (form .written) id :=
  (Layout.Faithful.start _
    |>.member (.optional _ LocalReference.faithful) _).recordFrom
      (fun _ => rfl) (by decide) 0

end RotateAuthSpec

namespace RestartSpec

def form (extent : Extent) : Json → Json := Form.record [] extent.undeclared

theorem faithful : codec.Faithful likeness (form .written) id :=
  (Layout.Faithful.start _).recordFrom
    (fun _ => rfl) (by decide) 0

end RestartSpec

/-! ## Specifications -/

/-- What the specification keeps of the members that it does not name. -/
def Extent.kept : Extent → Members → Members
  | .whole, members => Json.membersWithoutNulls members
  | .written, members => members

namespace OpsRequestSpec

def forms (extent : Extent) : List MemberForm :=
  [.defaulted "databaseRef" (LocalReference.form extent)
      (.object [("name", .string "")]),
    .defaulted "type" id (.string ""),
    .optional "updateVersion" (UpdateVersionSpec.form extent),
    .optional "horizontalScaling" HorizontalScalingSpec.form,
    .optional "verticalScaling" (VerticalScalingSpec.form extent),
    .optional "volumeExpansion" VolumeExpansionSpec.form,
    .optional "configuration" (ReconfigureSpec.form extent),
    .optional "tls" (ReconfigureTlsSpec.form extent),
    .optional "authentication" (RotateAuthSpec.form extent),
    .optional "restart" (RestartSpec.form extent),
    .optional "timeout" id,
    .optional "apply" Form.choice]

def form (extent : Extent) : Json → Json :=
  Form.object (forms extent) extent.kept

/-- Two specifications agree if they are equal as values, the two zeros that a
member without a name may hold counting as one number. -/
def Agrees (left right : OpsRequestSpec) : Prop :=
  { left with extra := .empty } = { right with extra := .empty } ∧
    Json.sameMembers left.extra.entries right.extra.entries = true

theorem faithful : codec.FaithfulUpTo (form .written) Agrees := by
  refine Codec.FaithfulUpTo.of_agree_iff (Layout.Faithful.objectKeeping extra
    (fun likeness => Layout.Faithful.start OpsRequestSpec.mk
      |>.member (.defaulted _ LocalReference.faithful rfl rfl rfl) database
      |>.member (.defaulted _ .string rfl rfl rfl) type
      |>.member (.optional _ UpdateVersionSpec.faithful) updateVersion
      |>.member (.optional _ HorizontalScalingSpec.faithful) horizontalScaling
      |>.member (.optional _ VerticalScalingSpec.faithful) verticalScaling
      |>.member (.optional _ VolumeExpansionSpec.faithful) volumeExpansion
      |>.member (.optional _ ReconfigureSpec.faithful) configuration
      |>.member (.optional _ ReconfigureTlsSpec.faithful) tls
      |>.member (.optional _ RotateAuthSpec.faithful) authentication
      |>.member (.optional _ RestartSpec.faithful) restart
      |>.member (.optional _ .string) timeout
      |>.member (.optional _ (.choice _ _)) apply)
    (fun _ _ => rfl) (fun _ _ => rfl) (fun _ => rfl) (by decide)) ?_
  intro left right
  rw [Agrees, Json.sameMembers_iff]
  refine and_congr_left fun _ => ?_
  simp only [OpsRequestSpec.mk.injEq, Prod.mk.injEq, and_assoc, true_and,
    and_true]

end OpsRequestSpec

/-! ## Requests -/

namespace OpsRequestStatus

def forms : List MemberForm :=
  [.optional "phase" Form.choice, .optional "observedGeneration" id,
    .sparse "conditions" (Form.list Condition.form) (.array [])]

def form : Json → Json := Form.record forms Extent.written.undeclared

theorem faithful : codec.Faithful likeness form id :=
  (Layout.Faithful.start _
    |>.member (.optional _ (.choice _ _)) _
    |>.member (.optional _ (.signed _)) _
    |>.member (.listed _ Condition.faithful) _).recordFrom
      (fun _ => rfl) (by decide) 0

end OpsRequestStatus

namespace OpsRequest

def wholeSeconds (request : OpsRequest) : OpsRequest :=
  { request with metadata := request.metadata.wholeSeconds }

def forms : List MemberForm :=
  [Metadata.fieldForm, .required "spec" (OpsRequestSpec.form .written),
    .optional "status" OpsRequestStatus.form]

def form : Json → Json := Form.record forms Extent.written.undeclared

theorem faithful : codec.Faithful .exact form wholeSeconds :=
  (Layout.Faithful.start _
    |>.member Metadata.faithful_field _
    |>.member (.required _ (OpsRequestSpec.faithful.exact rfl)) _
    |>.member (.optional _ OpsRequestStatus.faithful) _).recordFrom
      (fun _ => rfl) (by decide) 0

end OpsRequest
end AdmissionGate
