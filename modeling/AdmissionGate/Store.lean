import AdmissionGate.AdmissionError
import AdmissionGate.Catalog
import AdmissionGate.Database
import AdmissionGate.Engine
import AdmissionGate.Object

/-!
# Object stores

A store answers point reads, each with an object or a failure.  That an object
does not exist is an answer for those who look it up; every other failure is
passed on.
-/

namespace AdmissionGate

/-! ## Reads -/

/-- Where an object is looked for.  Kinds of the whole cluster ignore the
namespace. -/
structure ObjectKey where
  resource : ResourceKind
  namespaceName : Option String
  name : String
deriving DecidableEq, Repr

abbrev ObjectStore := ObjectKey → Except StoreError Object

namespace ObjectKey

def database (engine : Engine) (namespaceName name : String) : ObjectKey :=
  ⟨engine.databaseResource, some namespaceName, name⟩

def version (engine : Engine) (name : String) : ObjectKey :=
  ⟨engine.versionResource, none, name⟩

def secret (namespaceName name : String) : ObjectKey :=
  ⟨.secret, some namespaceName, name⟩

def notFound (key : ObjectKey) : StoreError :=
  .notFound key.resource.kind key.name

def undecodable (key : ObjectKey) : StoreError :=
  .decode key.resource.kind key.name decodeFailure

end ObjectKey

/-! ## Looking up -/

namespace ObjectStore

def find? (store : ObjectStore) (key : ObjectKey) :
    Except StoreError (Option Object) :=
  match store key with
  | .ok object => .ok (some object)
  | .error (.notFound _ _) => .ok none
  | .error error => .error error

def resolve {Model : Type} (store : ObjectStore) (codec : Codec Model)
    (key : ObjectKey) : Except StoreError (Option Model) :=
  match store.find? key with
  | .error error => .error error
  | .ok none => .ok none
  | .ok (some object) =>
    match codec.decode? object.toJson.canonical with
    | some model => .ok (some model)
    | none => .error key.undecodable

def database? (store : ObjectStore) (engine : Engine)
    (namespaceName name : String) : Except StoreError (Option Database) :=
  store.resolve Database.codec (.database engine namespaceName name)

def version? (store : ObjectStore) (engine : Engine) (name : String) :
    Except StoreError (Option CatalogVersion) :=
  store.resolve CatalogVersion.codec (.version engine name)

def hasSecret (store : ObjectStore) (namespaceName name : String) :
    Except StoreError Bool :=
  (store.find? (.secret namespaceName name)).map Option.isSome

end ObjectStore
end AdmissionGate
