import AdmissionGate.Quantity

/-!
# Volume claims

Claims on persistent storage.  They are read from objects only; every member may
be absent or null.
-/

namespace AdmissionGate

/-! ## Parts of a claim -/

/-- An object whose contents a volume starts with. -/
structure DataSource where
  apiGroup : Option String
  kind : String
  name : String
deriving DecidableEq, Repr

namespace DataSource

def layout : Layout DataSource DataSource :=
  Layout.start DataSource.mk
    |>.member (.optional "apiGroup" .string) apiGroup
    |>.member (.lenientString "kind") kind
    |>.member (.lenientString "name") name

def codec : Codec DataSource := layout.object

end DataSource

/-- Such an object in any namespace. -/
structure DataSourceReference where
  apiGroup : Option String
  kind : String
  name : String
  namespaceName : Option String
deriving DecidableEq, Repr

namespace DataSourceReference

def layout : Layout DataSourceReference DataSourceReference :=
  Layout.start DataSourceReference.mk
    |>.member (.optional "apiGroup" .string) apiGroup
    |>.member (.lenientString "kind") kind
    |>.member (.lenientString "name") name
    |>.member (.optional "namespace" .string) namespaceName

def codec : Codec DataSourceReference := layout.object

end DataSourceReference

structure VolumeResources where
  limits : Option (Dict Quantity)
  requests : Option (Dict Quantity)
deriving DecidableEq, Repr

namespace VolumeResources

def layout : Layout VolumeResources VolumeResources :=
  Layout.start VolumeResources.mk
    |>.member (.optional "limits" (.dict Quantity.codec)) limits
    |>.member (.optional "requests" (.dict Quantity.codec)) requests

def codec : Codec VolumeResources := layout.object

end VolumeResources

structure LabelRequirement where
  key : String
  operator : String
  values : Option (List String)
deriving DecidableEq, Repr

namespace LabelRequirement

def layout : Layout LabelRequirement LabelRequirement :=
  Layout.start LabelRequirement.mk
    |>.member (.lenientString "key") key
    |>.member (.lenientString "operator") operator
    |>.member (.optional "values" (.list .string)) values

def codec : Codec LabelRequirement := layout.object

end LabelRequirement

structure LabelSelector where
  matchExpressions : Option (List LabelRequirement)
  matchLabels : Option (Dict String)
deriving DecidableEq, Repr

namespace LabelSelector

def layout : Layout LabelSelector LabelSelector :=
  Layout.start LabelSelector.mk
    |>.member (.optional "matchExpressions" (.list LabelRequirement.codec))
      matchExpressions
    |>.member (.optional "matchLabels" (.dict .string)) matchLabels

def codec : Codec LabelSelector := layout.object

end LabelSelector

/-! ## Claims -/

structure VolumeClaim where
  accessModes : Option (List String) := none
  dataSource : Option DataSource := none
  dataSourceReference : Option DataSourceReference := none
  resources : Option VolumeResources := none
  selector : Option LabelSelector := none
  storageClassName : Option String := none
  volumeAttributesClassName : Option String := none
  volumeMode : Option String := none
  volumeName : Option String := none
deriving DecidableEq, Repr

namespace VolumeClaim

def layout : Layout VolumeClaim VolumeClaim :=
  Layout.start VolumeClaim.mk
    |>.member (.optional "accessModes" (.list .string)) accessModes
    |>.member (.optional "dataSource" DataSource.codec) dataSource
    |>.member (.optional "dataSourceRef" DataSourceReference.codec)
      dataSourceReference
    |>.member (.optional "resources" VolumeResources.codec) resources
    |>.member (.optional "selector" LabelSelector.codec) selector
    |>.member (.optional "storageClassName" .string) storageClassName
    |>.member (.optional "volumeAttributesClassName" .string)
      volumeAttributesClassName
    |>.member (.optional "volumeMode" .string) volumeMode
    |>.member (.optional "volumeName" .string) volumeName

def codec : Codec VolumeClaim := layout.object

def requestedStorage? (claim : VolumeClaim) : Option Quantity := do
  (← (← claim.resources).requests).find? "storage"

end VolumeClaim
end AdmissionGate
