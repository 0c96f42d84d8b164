/-!
# Resource kinds

The API coordinates of a kind of object in the cluster.
-/

namespace AdmissionGate

structure ResourceKind where
  group : String
  version : String
  kind : String
  plural : String
  namespaced : Bool
deriving DecidableEq, Repr

namespace ResourceKind

/-- Objects that hold credentials and configuration, of the core group. -/
def secret : ResourceKind where
  group := ""
  version := "v1"
  kind := "Secret"
  plural := "secrets"
  namespaced := true

/-- The core group has an empty name and is left out. -/
def apiVersion (resource : ResourceKind) : String :=
  if resource.group.isEmpty then resource.version
  else resource.group ++ "/" ++ resource.version

def qualifiedName (resource : ResourceKind) : String :=
  if resource.group.isEmpty then resource.kind
  else resource.kind ++ "." ++ resource.group

end ResourceKind
end AdmissionGate
