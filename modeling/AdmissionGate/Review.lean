import AdmissionGate.Object
import AdmissionGate.Status

/-!
# Admission reviews

A review asks whether an operation on an object may go ahead.  It may hold a
response already.
-/

namespace AdmissionGate

/-! ## Operations -/

inductive ReviewOperation where
  | create
  | update
  | delete
  | connect
deriving DecidableEq, Repr

namespace ReviewOperation

def all : List ReviewOperation := [.create, .update, .delete, .connect]

def name : ReviewOperation → String
  | .create => "CREATE"
  | .update => "UPDATE"
  | .delete => "DELETE"
  | .connect => "CONNECT"

def codec : Codec ReviewOperation := .choice all name

end ReviewOperation

/-! ## Kinds and users -/

structure GroupVersionKind where
  group : String
  version : String
  kind : String
deriving DecidableEq, Repr

namespace GroupVersionKind

def layout : Layout GroupVersionKind GroupVersionKind :=
  Layout.start GroupVersionKind.mk
    |>.member (.required "group" .string) group
    |>.member (.required "version" .string) version
    |>.member (.required "kind" .string) kind

def codec : Codec GroupVersionKind := layout.record

end GroupVersionKind

structure GroupVersionResource where
  group : String
  version : String
  resource : String
deriving DecidableEq, Repr

namespace GroupVersionResource

def layout : Layout GroupVersionResource GroupVersionResource :=
  Layout.start GroupVersionResource.mk
    |>.member (.required "group" .string) group
    |>.member (.required "version" .string) version
    |>.member (.required "resource" .string) resource

def codec : Codec GroupVersionResource := layout.record

end GroupVersionResource

structure UserInfo where
  extra : Option (Dict (List String))
  groups : Option (List String)
  uid : Option String
  username : Option String
deriving DecidableEq, Repr

namespace UserInfo

def layout : Layout UserInfo UserInfo :=
  Layout.start UserInfo.mk
    |>.member (.optional "extra" (.dict (.list .string))) extra
    |>.member (.optional "groups" (.list .string)) groups
    |>.member (.optional "uid" .string) uid
    |>.member (.optional "username" .string) username

def codec : Codec UserInfo := layout.object

end UserInfo

/-! ## Requests -/

structure ReviewRequest where
  uid : String
  kind : GroupVersionKind
  resource : GroupVersionResource
  subResource : Option String := none
  requestKind : Option GroupVersionKind := none
  requestResource : Option GroupVersionResource := none
  requestSubResource : Option String := none
  name : String := ""
  namespaceName : Option String := none
  operation : ReviewOperation
  user : UserInfo
  object : Option Object := none
  oldObject : Option Object := none
  dryRun : Bool := false
  options : Option Json := none
deriving DecidableEq, Repr

namespace ReviewRequest

def layout : Layout ReviewRequest ReviewRequest :=
  Layout.start ReviewRequest.mk
    |>.member (.required "uid" .string) uid
    |>.member (.required "kind" GroupVersionKind.codec) kind
    |>.member (.required "resource" GroupVersionResource.codec) resource
    |>.member (.optional "subResource" .string) subResource
    |>.member (.optional "requestKind" GroupVersionKind.codec) requestKind
    |>.member (.optional "requestResource" GroupVersionResource.codec)
      requestResource
    |>.member (.optional "requestSubResource" .string) requestSubResource
    |>.member (.defaulted "name" .string "") name
    |>.member (.optional "namespace" .string) namespaceName
    |>.member (.required "operation" ReviewOperation.codec) operation
    |>.member (.required "userInfo" UserInfo.codec) user
    |>.member (.optional "object" Object.codec) object
    |>.member (.optional "oldObject" Object.codec) oldObject
    |>.member (.defaulted "dryRun" .bool false) dryRun
    |>.member (.optional "options" .json) options

/-- An array must go as far as the old object. -/
def codec : Codec ReviewRequest := layout.recordFrom 13

end ReviewRequest

/-! ## Reviews -/

inductive PatchType where
  | jsonPatch
deriving DecidableEq, Repr

namespace PatchType

def all : List PatchType := [.jsonPatch]

def name : PatchType → String
  | .jsonPatch => "JSONPatch"

def codec : Codec PatchType := .choice all name

end PatchType

/-- What a review that is already answered holds. -/
structure GivenResponse where
  uid : String
  allowed : Bool
  status : Status
  patch : Option (List Nat) := none
  patchType : Option PatchType := none
  auditAnnotations : Dict String := Dict.empty
  warnings : Option (List String) := none
deriving DecidableEq, Repr

namespace GivenResponse

def layout : Layout GivenResponse GivenResponse :=
  Layout.start GivenResponse.mk
    |>.member (.required "uid" .string) uid
    |>.member (.required "allowed" .bool) allowed
    |>.member (.required "status" Status.codec) status
    |>.member (.optional "patch" (.list (.unsigned Text.maxUInt8))) patch
    |>.member (.optional "patchType" PatchType.codec) patchType
    |>.member (.mapped "auditAnnotations" .string) auditAnnotations
    |>.member (.optional "warnings" (.list .string)) warnings

/-- An array must list all seven members. -/
def codec : Codec GivenResponse := layout.recordFrom 7

end GivenResponse

structure Review where
  type : ObjectType
  request : Option ReviewRequest
  response : Option GivenResponse
deriving DecidableEq, Repr

namespace Review

def typeLayout : Layout ObjectType ObjectType :=
  Layout.start ObjectType.mk
    |>.member (.required "apiVersion" .string) ObjectType.apiVersion
    |>.member (.required "kind" .string) ObjectType.kind

def layout : Layout Review Review :=
  Layout.start Review.mk
    |>.inline typeLayout type
    |>.member (.optional "request" ReviewRequest.codec) request
    |>.member (.optional "response" GivenResponse.codec) response

/-- A review is read from objects only, and its type stands in them once. -/
def ofJson? (json : Json) : Option Review := do
  let members ← json.object?
  if Members.distinct typeLayout.names members then layout.read? members
  else none

/-- The type is judged at the end of the review, the request and the response as
they come. -/
def codec : Codec Review where
  encode review := .object (layout.write review)
  decode? := ofJson?
  scan := (layout.plan false).object fun json => (ofJson? json).isSome

end Review
end AdmissionGate
