import AdmissionGate.Proofs.Object.Forms
import AdmissionGate.Proofs.OpsRequest.Forms
import AdmissionGate.SchemaRequest

/-!
# Forms of schema requests

The form of every part of a schema request.
-/

namespace AdmissionGate

variable {likeness : Likeness}

/-! ## References and settings -/

namespace AppReference

def forms : List MemberForm :=
  [.defaulted "name" id (.string ""), .optional "namespace" id]

def form : Json → Json := Form.record forms Extent.written.undeclared

theorem faithful : codec.Faithful likeness form id :=
  (Layout.Faithful.start _
    |>.member (.defaulted _ .string rfl rfl rfl) _
    |>.member (.optional _ .string) _).recordFrom
      (fun _ => rfl) (by decide) 0

def absent : Json := .object [("name", .string "")]

end AppReference

namespace ConfigParam

def forms : List MemberForm :=
  [.required "configParameter" id, .optional "value" id]

def form : Json → Json := Form.record forms Extent.written.undeclared

theorem faithful : codec.Faithful likeness form id :=
  (Layout.Faithful.start _
    |>.member (.required _ .string) _
    |>.member (.optional _ .string) _).recordFrom
      (fun _ => rfl) (by decide) 0

end ConfigParam

namespace DatabaseConfig

def forms : List MemberForm :=
  [.defaulted "name" id (.string ""), .optional "characterSet" id,
    .optional "encryption" id, .optional "readOnly" id,
    .sparse "params" (Form.list ConfigParam.form) (.array [])]

def form : Json → Json := Form.record forms Extent.written.undeclared

theorem faithful : codec.Faithful likeness form id :=
  (Layout.Faithful.start _
    |>.member (.defaulted _ .string rfl rfl rfl) _
    |>.member (.optional _ .string) _
    |>.member (.optional _ .string) _
    |>.member (.optional _ (.signed _)) _
    |>.member (.listed _ ConfigParam.faithful) _).recordFrom
      (fun _ => rfl) (by decide) 0

end DatabaseConfig

/-! ## Access -/

namespace Subject

def forms : List MemberForm :=
  [.defaulted "kind" id (.string ""), .defaulted "name" id (.string ""),
    .optional "namespace" id, .optional "apiGroup" id]

def form : Json → Json := Form.record forms Extent.written.undeclared

theorem faithful : codec.Faithful likeness form id :=
  (Layout.Faithful.start _
    |>.member (.defaulted _ .string rfl rfl rfl) _
    |>.member (.defaulted _ .string rfl rfl rfl) _
    |>.member (.optional _ .string) _
    |>.member (.optional _ .string) _).recordFrom
      (fun _ => rfl) (by decide) 0

end Subject

namespace AccessPolicy

def forms : List MemberForm :=
  [.defaulted "subjects" (Form.list Subject.form) (.array []),
    .optional "defaultTTL" id, .optional "maxTTL" id]

def form : Json → Json := Form.record forms Extent.written.undeclared

theorem faithful : codec.Faithful likeness form id :=
  (Layout.Faithful.start _
    |>.member (.defaulted _ Subject.faithful.list rfl rfl rfl) _
    |>.member (.optional _ .string) _
    |>.member (.optional _ .string) _).recordFrom
      (fun _ => rfl) (by decide) 0

end AccessPolicy

/-! ## Initialization -/

namespace ScriptSource

def forms : List MemberForm :=
  [.optional "scriptPath" id,
    .optional "configMap" (LocalReference.form .written)]

def form : Json → Json := Form.record forms Extent.written.undeclared

theorem faithful : codec.Faithful likeness form id :=
  (Layout.Faithful.start _
    |>.member (.optional _ .string) _
    |>.member (.optional _ LocalReference.faithful) _).recordFrom
      (fun _ => rfl) (by decide) 0

end ScriptSource

namespace SnapshotSource

def forms : List MemberForm :=
  [.defaulted "repository" AppReference.form AppReference.absent,
    .optional "snapshotId" id]

def form : Json → Json := Form.record forms Extent.written.undeclared

theorem faithful : codec.Faithful likeness form id :=
  (Layout.Faithful.start _
    |>.member (.defaulted _ AppReference.faithful rfl rfl rfl) _
    |>.member (.optional _ .string) _).recordFrom
      (fun _ => rfl) (by decide) 0

end SnapshotSource

namespace InitSpec

def forms : List MemberForm :=
  [.defaulted "initialized" id (.bool false),
    .optional "script" ScriptSource.form,
    .optional "snapshot" SnapshotSource.form]

def form : Json → Json := Form.record forms Extent.written.undeclared

theorem faithful : codec.Faithful likeness form id :=
  (Layout.Faithful.start _
    |>.member (.defaulted _ .bool rfl rfl rfl) _
    |>.member (.optional _ ScriptSource.faithful) _
    |>.member (.optional _ SnapshotSource.faithful) _).recordFrom
      (fun _ => rfl) (by decide) 0

end InitSpec

/-! ## Requests -/

namespace SchemaSpec

def forms : List MemberForm :=
  [.defaulted "databaseRef" AppReference.form AppReference.absent,
    .defaulted "vaultRef" AppReference.form AppReference.absent,
    .defaulted "databaseConfig" DatabaseConfig.form
      (.object [("name", .string "")]),
    .defaulted "accessPolicy" AccessPolicy.form
      (.object [("subjects", .array [])]),
    .optional "init" InitSpec.form,
    .defaulted "deletionPolicy" Form.choice (.string "Delete")]

def form : Json → Json := Form.record forms Extent.written.undeclared

theorem faithful : codec.Faithful likeness form id :=
  (Layout.Faithful.start _
    |>.member (.defaulted _ AppReference.faithful rfl rfl rfl) _
    |>.member (.defaulted _ AppReference.faithful rfl rfl rfl) _
    |>.member (.defaulted _ DatabaseConfig.faithful rfl rfl rfl) _
    |>.member (.defaulted _ AccessPolicy.faithful rfl rfl rfl) _
    |>.member (.optional _ InitSpec.faithful) _
    |>.member (.defaulted _ (.choice _ _) rfl rfl rfl) _).recordFrom
      (fun _ => rfl) (by decide) 0

end SchemaSpec

namespace SchemaStatus

def forms : List MemberForm :=
  [.optional "phase" Form.choice, .optional "observedGeneration" id,
    .sparse "conditions" (Form.list Condition.form) (.array [])]

def form : Json → Json := Form.record forms Extent.written.undeclared

theorem faithful : codec.Faithful likeness form id :=
  (Layout.Faithful.start _
    |>.member (.optional _ (.choice _ _)) _
    |>.member (.optional _ (.signed _)) _
    |>.member (.listed _ Condition.faithful) _).recordFrom
      (fun _ => rfl) (by decide) 0

end SchemaStatus

namespace SchemaRequest

def wholeSeconds (request : SchemaRequest) : SchemaRequest :=
  { request with metadata := request.metadata.wholeSeconds }

def forms : List MemberForm :=
  [Metadata.fieldForm, .required "spec" SchemaSpec.form,
    .optional "status" SchemaStatus.form]

def form : Json → Json := Form.record forms Extent.written.undeclared

theorem faithful : codec.Faithful .exact form wholeSeconds :=
  (Layout.Faithful.start _
    |>.member Metadata.faithful_field _
    |>.member (.required _ SchemaSpec.faithful) _
    |>.member (.optional _ SchemaStatus.faithful) _).recordFrom
      (fun _ => rfl) (by decide) 0

end SchemaRequest
end AdmissionGate
