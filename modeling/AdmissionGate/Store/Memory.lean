import AdmissionGate.Store

/-!
# Stores in memory

A store that holds what was inserted, by kind, namespace and name, and that can
be made unavailable.
-/

namespace AdmissionGate

structure MemoryKey where
  kind : String
  namespaceName : Option String
  name : String
deriving DecidableEq, Repr

def ObjectKey.memoryKey (key : ObjectKey) : MemoryKey where
  kind := key.resource.qualifiedName
  namespaceName := if key.resource.namespaced then key.namespaceName else none
  name := key.name

/-- The objects with the latest first, and whether reads are answered. -/
structure MemoryStore where
  objects : List (MemoryKey × Object) := []
  unavailable : Bool := false
deriving DecidableEq, Repr

namespace MemoryStore

/-! ## Writing -/

/-- The object of a value.  It takes the type of the kind that it is stored
under. -/
def object? (resource : ResourceKind) (value : Json) : Option Object := do
  let members ← value.object?
  Object.ofMembers? <|
    insertEntry "kind" (.string resource.kind) <|
      insertEntry "apiVersion" (.string resource.apiVersion) members

def insert (store : MemoryStore) (key : ObjectKey) (value : Json) :
    Except StoreError MemoryStore :=
  match object? key.resource value with
  | some object =>
    .ok { store with objects := (key.memoryKey, object) :: store.objects }
  | none => .error key.undecodable

def setUnavailable (store : MemoryStore) (unavailable : Bool) : MemoryStore :=
  { store with unavailable := unavailable }

/-! ## Reading -/

def outage : StoreError := .unavailable "in-memory store marked unavailable"

def read (store : MemoryStore) : ObjectStore := fun key =>
  if store.unavailable then .error outage
  else
    match store.objects.lookup key.memoryKey with
    | some object => .ok object
    | none => .error key.notFound

end MemoryStore
end AdmissionGate
