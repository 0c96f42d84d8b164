import AdmissionGate.Http.Target
import AdmissionGate.Store

/-!
# The cluster as a store

A store that asks the interface of the cluster for each object by its path.
-/

namespace AdmissionGate

/-! ## Paths -/

namespace ObjectKey

def groupPath (resource : ResourceKind) : String :=
  if resource.group.isEmpty then "/api/" ++ resource.version
  else "/apis/" ++ resource.group ++ "/" ++ resource.version

def namespacePath (key : ObjectKey) : String :=
  match key.namespaceName with
  | some namespaceName =>
    if key.resource.namespaced then "/namespaces/" ++ namespaceName else ""
  | none => ""

def path (key : ObjectKey) : String :=
  groupPath key.resource ++ key.namespacePath ++ "/" ++ key.resource.plural ++
    "/" ++ key.name

/-- The path that is asked for, without a query or fragment.  An object without
a name is not asked for, nor is one whose path can not be sent. -/
def requestPath? (key : ObjectKey) : Option String :=
  if key.name.isEmpty then none else Target.path? key.path

end ObjectKey

/-! ## Answers -/

structure ApiAnswer where
  status : Nat
  body : String
deriving DecidableEq, Repr

/-- What the cluster answers to each path; none is a connection that fails. -/
abbrev ApiServer := String → Option ApiAnswer

/-- The account of a failure that the cluster gives. -/
structure ApiFailure where
  status : String
  message : String
  reason : String
  code : Nat
deriving DecidableEq, Repr

namespace ApiFailure

def layout : Layout ApiFailure ApiFailure :=
  Layout.start ApiFailure.mk
    |>.member (.required "status" .string) status
    |>.member (.defaulted "message" .string "") message
    |>.member (.defaulted "reason" .string "") reason
    |>.member (.required "code" (.unsigned Text.maxUInt16)) code

def codec : Codec ApiFailure := layout.record

end ApiFailure

/-- The code of a failed answer is the one its account gives, or else its
status. -/
def ApiAnswer.failureCode (answer : ApiAnswer) : Nat :=
  match ApiFailure.codec.ofText answer.body with
  | .ok failure => failure.code
  | .error _ => answer.status

def ApiAnswer.object (answer : ApiAnswer) : Except ClusterError Object :=
  if 400 ≤ answer.status && answer.status < 600 then
    .error (.answer answer.failureCode)
  else
    match Object.codec.ofText answer.body with
    | .ok object => .ok object
    | .error _ => .error .other

namespace ApiServer

def fetch (server : ApiServer) (key : ObjectKey) : Except ClusterError Object :=
  match key.requestPath? with
  | none => .error .other
  | some path =>
    match server path with
    | none => .error .connection
    | some answer => answer.object

/-- Only the code 404 says that an object does not exist. -/
def read (server : ApiServer) : ObjectStore := fun key =>
  match server.fetch key with
  | .ok object => .ok object
  | .error (.answer 404) => .error key.notFound
  | .error error => .error (.unavailable error.message)

end ApiServer
end AdmissionGate
