import AdmissionGate.Catalog
import AdmissionGate.Database
import AdmissionGate.Proofs.Object.Forms
import AdmissionGate.Proofs.OpsRequest.Forms

/-!
# Forms of databases and of the version catalog

The form of every part of a database and of a catalog entry.  The roles of a
topology keep their names beside its mode.
-/

namespace AdmissionGate

variable {likeness : Likeness}

/-! ## Topology -/

namespace RoleSpec

def forms : List MemberForm :=
  [.optional "replicas" id, .optional "storage" VolumeClaim.form]

def form : Json → Json := Form.record forms Extent.written.undeclared

theorem faithful : codec.Faithful likeness form id :=
  (Layout.Faithful.start _
    |>.member (.optional _ (.signed _)) _
    |>.member (.optional _ VolumeClaim.faithful) _).recordFrom
      (fun _ => rfl) (by decide) 0

end RoleSpec

namespace Topology

def forms : List MemberForm := [.optional "mode" id]

def form : Json → Json := Form.object forms (Form.entries RoleSpec.form)

theorem faithful : codec.Faithful likeness form id :=
  (Layout.Faithful.start _
    |>.member (.optional _ .string) _).objectWith RoleSpec.faithful
      (fun _ _ => rfl) (fun _ _ => rfl) (by decide)

end Topology

/-! ## Databases -/

namespace TlsConfig

def form : Json → Json :=
  Form.record (forms .written) Extent.written.undeclared

theorem faithful : codec.Faithful likeness form id :=
  (Layout.Faithful.start _
    |>.member (.optional _ IssuerReference.faithful) _
    |>.member (.listed _ CertificateSpec.faithful) _).recordFrom
      (fun _ => rfl) (by decide) 0

end TlsConfig

namespace DatabaseSpec

def forms : List MemberForm :=
  [.defaulted "version" id (.string ""), .optional "replicas" id,
    .optional "mode" id, .optional "topology" Topology.form,
    .optional "storageType" Form.choice,
    .optional "storage" VolumeClaim.form,
    .optional "configSecret" (LocalReference.form .written),
    .optional "tls" TlsConfig.form,
    .optional "authSecret" (LocalReference.form .written),
    .optional "requireSSL" id]

def form : Json → Json := Form.record forms Extent.written.undeclared

theorem faithful : codec.Faithful likeness form id :=
  (Layout.Faithful.start _
    |>.member (.defaulted _ .string rfl rfl rfl) _
    |>.member (.optional _ (.signed _)) _
    |>.member (.optional _ .string) _
    |>.member (.optional _ Topology.faithful) _
    |>.member (.optional _ (.choice _ _)) _
    |>.member (.optional _ VolumeClaim.faithful) _
    |>.member (.optional _ LocalReference.faithful) _
    |>.member (.optional _ TlsConfig.faithful) _
    |>.member (.optional _ LocalReference.faithful) _
    |>.member (.optional _ .bool) _).recordFrom
      (fun _ => rfl) (by decide) 0

end DatabaseSpec

namespace DatabaseStatus

def forms : List MemberForm :=
  [.optional "phase" id, .optional "observedGeneration" id,
    .sparse "conditions" (Form.list Condition.form) (.array [])]

def form : Json → Json := Form.record forms Extent.written.undeclared

theorem faithful : codec.Faithful likeness form id :=
  (Layout.Faithful.start _
    |>.member (.optional _ .string) _
    |>.member (.optional _ (.signed _)) _
    |>.member (.listed _ Condition.faithful) _).recordFrom
      (fun _ => rfl) (by decide) 0

end DatabaseStatus

namespace Database

def wholeSeconds (database : Database) : Database :=
  { database with metadata := database.metadata.wholeSeconds }

def forms : List MemberForm :=
  [Metadata.fieldForm,
    .defaulted "spec" DatabaseSpec.form (.object [("version", .string "")]),
    .optional "status" DatabaseStatus.form]

def form : Json → Json := Form.record forms Extent.written.undeclared

theorem faithful : codec.Faithful .exact form wholeSeconds :=
  (Layout.Faithful.start _
    |>.member Metadata.faithful_field _
    |>.member (.defaulted _ DatabaseSpec.faithful rfl rfl rfl) _
    |>.member (.optional _ DatabaseStatus.faithful) _).recordFrom
      (fun _ => rfl) (by decide) 0

end Database

/-! ## The version catalog -/

namespace TopologyConstraints

def forms : List MemberForm :=
  [.sparse "standalone" (Form.list id) (.array []),
    .sparse "cluster" (Form.list id) (.array [])]

def form : Json → Json := Form.record forms Extent.written.undeclared

theorem faithful : codec.Faithful likeness form id :=
  (Layout.Faithful.start _
    |>.member (.listed _ .string) _
    |>.member (.listed _ .string) _).recordFrom
      (fun _ => rfl) (by decide) 0

end TopologyConstraints

namespace UpdateConstraints

def forms : List MemberForm :=
  [.optional "allowlist" TopologyConstraints.form,
    .optional "denylist" TopologyConstraints.form]

def form : Json → Json := Form.record forms Extent.written.undeclared

theorem faithful : codec.Faithful likeness form id :=
  (Layout.Faithful.start _
    |>.member (.optional _ TopologyConstraints.faithful) _
    |>.member (.optional _ TopologyConstraints.faithful) _).recordFrom
      (fun _ => rfl) (by decide) 0

end UpdateConstraints

namespace CatalogVersionSpec

def forms : List MemberForm :=
  [.defaulted "version" id (.string ""),
    .defaulted "deprecated" id (.bool false),
    .optional "updateConstraints" UpdateConstraints.form]

def form : Json → Json := Form.record forms Extent.written.undeclared

theorem faithful : codec.Faithful likeness form id :=
  (Layout.Faithful.start _
    |>.member (.defaulted _ .string rfl rfl rfl) _
    |>.member (.defaulted _ .bool rfl rfl rfl) _
    |>.member (.optional _ UpdateConstraints.faithful) _).recordFrom
      (fun _ => rfl) (by decide) 0

end CatalogVersionSpec

namespace CatalogVersion

def wholeSeconds (entry : CatalogVersion) : CatalogVersion :=
  { entry with metadata := entry.metadata.wholeSeconds }

def forms : List MemberForm :=
  [Metadata.fieldForm,
    .defaulted "spec" CatalogVersionSpec.form
      (.object [("deprecated", .bool false), ("version", .string "")])]

def form : Json → Json := Form.record forms Extent.written.undeclared

theorem faithful : codec.Faithful .exact form wholeSeconds :=
  (Layout.Faithful.start _
    |>.member Metadata.faithful_field _
    |>.member (.defaulted _ CatalogVersionSpec.faithful rfl rfl rfl) _).recordFrom
      (fun _ => rfl) (by decide) 0

end CatalogVersion
end AdmissionGate
