import AdmissionGate.Condition
import AdmissionGate.Object.Metadata
import AdmissionGate.Object.Storage
import AdmissionGate.Proofs.Codec.Record
import AdmissionGate.Proofs.Timestamp

/-!
# Forms of metadata, conditions and volume claims

The forms of what objects of several kinds have.  Times are written in Universal
Time and to the second, so that metadata are settled when all their times are
whole seconds.
-/

namespace AdmissionGate

variable {likeness : Likeness}

/-! ## Times -/

namespace Timestamp

def form : Json → Json
  | .string text => .string (((ofText? text).map toText).getD text)
  | json => json

theorem decode?_string (text : String) :
    codec.decode? (.string text) = ofText? text := by
  simp only [codec, Json.string?, Option.bind_some]

theorem faithful : codec.Faithful likeness form wholeSecond where
  refusesNull := rfl
  written {json timestamp} _ read := by
    cases json with
    | string text =>
        rw [decode?_string] at read
        simp [form, read, codec, Json.canonical]
    | _ => cases read
  restored {json other timestamp} _ read same := by
    cases json with
    | string text =>
        rw [decode?_string] at read
        rw [form, read] at same
        rw [likeness.string same, decode?_string]
        exact ofText?_toText (valid_of_ofText? read)
    | _ => cases read
  settled _ := rfl

end Timestamp

/-! ## Metadata -/

namespace OwnerReference

def forms : List MemberForm :=
  [.lenientString "apiVersion", .optional "blockOwnerDeletion" id,
    .optional "controller" id, .lenientString "kind", .lenientString "name",
    .lenientString "uid"]

def form : Json → Json := Form.object forms Extent.written.undeclared

theorem faithful : codec.Faithful likeness form id :=
  (Layout.Faithful.start _
    |>.member (.lenientString _) _
    |>.member (.optional _ .bool) _
    |>.member (.optional _ .bool) _
    |>.member (.lenientString _) _
    |>.member (.lenientString _) _
    |>.member (.lenientString _) _).object
      (fun _ => rfl) (by decide)

end OwnerReference

namespace ManagedFields

def wholeSeconds (fields : ManagedFields) : ManagedFields :=
  { fields with time := fields.time.map Timestamp.wholeSecond }

def forms : List MemberForm :=
  [.optional "apiVersion" id, .optional "fieldsType" id,
    .optional "fieldsV1" id, .optional "manager" id, .optional "operation" id,
    .optional "subresource" id, .optional "time" Timestamp.form]

def form : Json → Json := Form.object forms Extent.written.undeclared

theorem faithful : codec.Faithful .exact form wholeSeconds :=
  (Layout.Faithful.start _
    |>.member (.optional _ .string) _
    |>.member (.optional _ .string) _
    |>.member (.optionalJson _) _
    |>.member (.optional _ .string) _
    |>.member (.optional _ .string) _
    |>.member (.optional _ .string) _
    |>.member (.settlingOptional _ Timestamp.faithful) _).object
      (fun _ => rfl) (by decide)

end ManagedFields

namespace Metadata

def wholeSeconds (metadata : Metadata) : Metadata :=
  { metadata with
    creationTimestamp := metadata.creationTimestamp.map Timestamp.wholeSecond
    deletionTimestamp := metadata.deletionTimestamp.map Timestamp.wholeSecond
    managedFields :=
      metadata.managedFields.map (List.map ManagedFields.wholeSeconds) }

def forms : List MemberForm :=
  [.optional "annotations" (Form.dict id),
    .optional "creationTimestamp" Timestamp.form,
    .optional "deletionGracePeriodSeconds" id,
    .optional "deletionTimestamp" Timestamp.form,
    .optional "finalizers" (Form.list id), .optional "generateName" id,
    .optional "generation" id, .optional "labels" (Form.dict id),
    .optional "managedFields" (Form.list ManagedFields.form),
    .optional "name" id, .optional "namespace" id,
    .optional "ownerReferences" (Form.list OwnerReference.form),
    .optional "resourceVersion" id, .optional "selfLink" id,
    .optional "uid" id]

def form : Json → Json := Form.object forms Extent.written.undeclared

theorem faithful : codec.Faithful .exact form wholeSeconds :=
  (Layout.Faithful.start _
    |>.member (.optional _ Codec.Faithful.string.dict) _
    |>.member (.settlingOptional _ Timestamp.faithful) _
    |>.member (.optional _ (.signed _)) _
    |>.member (.settlingOptional _ Timestamp.faithful) _
    |>.member (.optional _ Codec.Faithful.string.list) _
    |>.member (.optional _ .string) _
    |>.member (.optional _ (.signed _)) _
    |>.member (.optional _ Codec.Faithful.string.dict) _
    |>.member (.settlingOptional _ ManagedFields.faithful.settlingList) _
    |>.member (.optional _ .string) _
    |>.member (.optional _ .string) _
    |>.member (.optional _ OwnerReference.faithful.list) _
    |>.member (.optional _ .string) _
    |>.member (.optional _ .string) _
    |>.member (.optional _ .string) _).object
      (fun _ => rfl) (by decide)

def fieldForm : MemberForm := .defaulted "metadata" form (.object [])

theorem faithful_field : field.Faithful .exact fieldForm wholeSeconds :=
  .defaulted _ faithful rfl rfl rfl

end Metadata

/-! ## Conditions -/

namespace Condition

def forms : List MemberForm :=
  [.required "type" id, .required "status" id,
    .defaulted "reason" id (.string ""), .defaulted "message" id (.string ""),
    .defaulted "lastTransitionTime" id (.string ""),
    .optional "observedGeneration" id]

def form : Json → Json := Form.record forms Extent.written.undeclared

theorem faithful : codec.Faithful likeness form id :=
  (Layout.Faithful.start _
    |>.member (.required _ .string) _
    |>.member (.required _ .string) _
    |>.member (.defaulted _ .string rfl rfl rfl) _
    |>.member (.defaulted _ .string rfl rfl rfl) _
    |>.member (.defaulted _ .string rfl rfl rfl) _
    |>.member (.optional _ (.signed _)) _).recordFrom
      (fun _ => rfl) (by decide) 6

end Condition

/-! ## Volume claims -/

namespace DataSource

def forms : List MemberForm :=
  [.optional "apiGroup" id, .lenientString "kind", .lenientString "name"]

def form : Json → Json := Form.object forms Extent.written.undeclared

theorem faithful : codec.Faithful likeness form id :=
  (Layout.Faithful.start _
    |>.member (.optional _ .string) _
    |>.member (.lenientString _) _
    |>.member (.lenientString _) _).object
      (fun _ => rfl) (by decide)

end DataSource

namespace DataSourceReference

def forms : List MemberForm :=
  [.optional "apiGroup" id, .lenientString "kind", .lenientString "name",
    .optional "namespace" id]

def form : Json → Json := Form.object forms Extent.written.undeclared

theorem faithful : codec.Faithful likeness form id :=
  (Layout.Faithful.start _
    |>.member (.optional _ .string) _
    |>.member (.lenientString _) _
    |>.member (.lenientString _) _
    |>.member (.optional _ .string) _).object
      (fun _ => rfl) (by decide)

end DataSourceReference

namespace VolumeResources

def forms : List MemberForm :=
  [.optional "limits" (Form.dict Form.quantity),
    .optional "requests" (Form.dict Form.quantity)]

def form : Json → Json := Form.object forms Extent.written.undeclared

theorem faithful : codec.Faithful likeness form id :=
  (Layout.Faithful.start _
    |>.member (.optional _ Codec.Faithful.quantity.dict) _
    |>.member (.optional _ Codec.Faithful.quantity.dict) _).object
      (fun _ => rfl) (by decide)

end VolumeResources

namespace LabelRequirement

def forms : List MemberForm :=
  [.lenientString "key", .lenientString "operator",
    .optional "values" (Form.list id)]

def form : Json → Json := Form.object forms Extent.written.undeclared

theorem faithful : codec.Faithful likeness form id :=
  (Layout.Faithful.start _
    |>.member (.lenientString _) _
    |>.member (.lenientString _) _
    |>.member (.optional _ Codec.Faithful.string.list) _).object
      (fun _ => rfl) (by decide)

end LabelRequirement

namespace LabelSelector

def forms : List MemberForm :=
  [.optional "matchExpressions" (Form.list LabelRequirement.form),
    .optional "matchLabels" (Form.dict id)]

def form : Json → Json := Form.object forms Extent.written.undeclared

theorem faithful : codec.Faithful likeness form id :=
  (Layout.Faithful.start _
    |>.member (.optional _ LabelRequirement.faithful.list) _
    |>.member (.optional _ Codec.Faithful.string.dict) _).object
      (fun _ => rfl) (by decide)

end LabelSelector

namespace VolumeClaim

def forms : List MemberForm :=
  [.optional "accessModes" (Form.list id),
    .optional "dataSource" DataSource.form,
    .optional "dataSourceRef" DataSourceReference.form,
    .optional "resources" VolumeResources.form,
    .optional "selector" LabelSelector.form, .optional "storageClassName" id,
    .optional "volumeAttributesClassName" id, .optional "volumeMode" id,
    .optional "volumeName" id]

def form : Json → Json := Form.object forms Extent.written.undeclared

theorem faithful : codec.Faithful likeness form id :=
  (Layout.Faithful.start _
    |>.member (.optional _ Codec.Faithful.string.list) _
    |>.member (.optional _ DataSource.faithful) _
    |>.member (.optional _ DataSourceReference.faithful) _
    |>.member (.optional _ VolumeResources.faithful) _
    |>.member (.optional _ LabelSelector.faithful) _
    |>.member (.optional _ .string) _
    |>.member (.optional _ .string) _
    |>.member (.optional _ .string) _
    |>.member (.optional _ .string) _).object
      (fun _ => rfl) (by decide)

end VolumeClaim
end AdmissionGate
