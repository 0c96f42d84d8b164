import AdmissionGate.Timestamp

/-!
# Object metadata

The metadata that every object of the cluster carries.  It is read from objects
only; every member may be absent or null.
-/

namespace AdmissionGate

/-! ## Owners -/

structure OwnerReference where
  apiVersion : String
  blockOwnerDeletion : Option Bool
  controller : Option Bool
  kind : String
  name : String
  uid : String
deriving DecidableEq, Repr

namespace OwnerReference

def layout : Layout OwnerReference OwnerReference :=
  Layout.start OwnerReference.mk
    |>.member (.lenientString "apiVersion") apiVersion
    |>.member (.optional "blockOwnerDeletion" .bool) blockOwnerDeletion
    |>.member (.optional "controller" .bool) controller
    |>.member (.lenientString "kind") kind
    |>.member (.lenientString "name") name
    |>.member (.lenientString "uid") uid

def codec : Codec OwnerReference := layout.object

end OwnerReference

/-! ## Managed fields -/

structure ManagedFields where
  apiVersion : Option String
  fieldsType : Option String
  fields : Option Json
  manager : Option String
  operation : Option String
  subresource : Option String
  time : Option Timestamp
deriving DecidableEq, Repr

namespace ManagedFields

def layout : Layout ManagedFields ManagedFields :=
  Layout.start ManagedFields.mk
    |>.member (.optional "apiVersion" .string) apiVersion
    |>.member (.optional "fieldsType" .string) fieldsType
    |>.member (.optional "fieldsV1" .json) fields
    |>.member (.optional "manager" .string) manager
    |>.member (.optional "operation" .string) operation
    |>.member (.optional "subresource" .string) subresource
    |>.member (.optional "time" Timestamp.codec) time

def codec : Codec ManagedFields := layout.object

end ManagedFields

/-! ## Metadata -/

structure Metadata where
  annotations : Option (Dict String) := none
  creationTimestamp : Option Timestamp := none
  deletionGracePeriodSeconds : Option Int := none
  deletionTimestamp : Option Timestamp := none
  finalizers : Option (List String) := none
  generateName : Option String := none
  generation : Option Int := none
  labels : Option (Dict String) := none
  managedFields : Option (List ManagedFields) := none
  name : Option String := none
  namespaceName : Option String := none
  ownerReferences : Option (List OwnerReference) := none
  resourceVersion : Option String := none
  selfLink : Option String := none
  uid : Option String := none
deriving DecidableEq, Repr

namespace Metadata

def layout : Layout Metadata Metadata :=
  Layout.start Metadata.mk
    |>.member (.optional "annotations" (.dict .string)) annotations
    |>.member (.optional "creationTimestamp" Timestamp.codec) creationTimestamp
    |>.member (.optional "deletionGracePeriodSeconds" .int64)
      deletionGracePeriodSeconds
    |>.member (.optional "deletionTimestamp" Timestamp.codec) deletionTimestamp
    |>.member (.optional "finalizers" (.list .string)) finalizers
    |>.member (.optional "generateName" .string) generateName
    |>.member (.optional "generation" .int64) generation
    |>.member (.optional "labels" (.dict .string)) labels
    |>.member (.optional "managedFields" (.list ManagedFields.codec))
      managedFields
    |>.member (.optional "name" .string) name
    |>.member (.optional "namespace" .string) namespaceName
    |>.member (.optional "ownerReferences" (.list OwnerReference.codec))
      ownerReferences
    |>.member (.optional "resourceVersion" .string) resourceVersion
    |>.member (.optional "selfLink" .string) selfLink
    |>.member (.optional "uid" .string) uid

def codec : Codec Metadata := layout.object

def field : Field Metadata := .defaulted "metadata" codec {}

def nameText (metadata : Metadata) : String := metadata.name.getD ""

def namespaceText (metadata : Metadata) : String :=
  metadata.namespaceName.getD ""

def hasFinalizers (metadata : Metadata) : Bool :=
  metadata.finalizers.any fun finalizers => !finalizers.isEmpty

end Metadata
end AdmissionGate
