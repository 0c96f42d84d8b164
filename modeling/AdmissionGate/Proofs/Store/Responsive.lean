import AdmissionGate.Store

/-!
# Responsive stores

A store that answers every read with an object that can be decoded, or with
there being none.  What is looked up in it is then a plain function of the place.
-/

namespace AdmissionGate.ObjectStore

/-! ## What a store holds -/

/-- The model of the object at a place.  The empty name is the name of
nothing. -/
def held? {Model : Type} (store : ObjectStore) (codec : Codec Model)
    (key : ObjectKey) : Option Model :=
  if key.name.isEmpty then none
  else
    match store key with
    | .ok object => codec.decode? object.toJson.canonical
    | .error _ => none

def holdsSecret (store : ObjectStore) (namespaceName name : String) : Bool :=
  !name.isEmpty && (store (.secret namespaceName name)).isOk

section

variable {store : ObjectStore}

theorem held?_of_empty {Model : Type} {codec : Codec Model} {key : ObjectKey}
    (hname : key.name = "") : store.held? codec key = none := by
  simp [held?, hname]

theorem resolve_of_held? {Model : Type} {codec : Codec Model} {key : ObjectKey}
    {model : Model} (held : store.held? codec key = some model) :
    store.resolve codec key = .ok (some model) := by
  unfold held? at held
  split at held
  · cases held
  · split at held
    · rename_i object found
      simp [resolve, find?, found, held]
    · cases held

theorem hasSecret_of_holdsSecret {namespaceName name : String}
    (held : store.holdsSecret namespaceName name = true) :
    store.hasSecret namespaceName name = .ok true := by
  rw [holdsSecret, Bool.and_eq_true] at held
  cases found : store (.secret namespaceName name) with
  | ok object => simp [hasSecret, find?, found, Except.map]
  | error error =>
      rw [found] at held
      cases held.2

end

/-! ## Stores that answer -/

structure Responsive (store : ObjectStore) : Prop where
  answers (key : ObjectKey) : (∃ object, store key = .ok object) ∨
    ∃ kind name, store key = .error (.notFound kind name)
  databases {engine : Engine} {namespaceName name : String} {object : Object}
    (found : store (.database engine namespaceName name) = .ok object) :
    (Database.codec.decode? object.toJson.canonical).isSome
  versions {engine : Engine} {name : String} {object : Object}
    (found : store (.version engine name) = .ok object) :
    (CatalogVersion.codec.decode? object.toJson.canonical).isSome

section

variable {store : ObjectStore}

theorem resolve_eq_held? {Model : Type} {codec : Codec Model} {key : ObjectKey}
    (responsive : store.Responsive) (hname : key.name ≠ "")
    (decodes : ∀ object, store key = .ok object →
      (codec.decode? object.toJson.canonical).isSome) :
    store.resolve codec key = .ok (store.held? codec key) := by
  rcases responsive.answers key with ⟨object, found⟩ | ⟨kind, name, missing⟩
  · obtain ⟨model, hmodel⟩ := Option.isSome_iff_exists.1 (decodes object found)
    simp [resolve, find?, held?, found, hmodel, hname]
  · simp [resolve, find?, held?, missing, hname]

theorem Responsive.database? (responsive : store.Responsive) (engine : Engine)
    (namespaceName : String) {name : String} (hname : name ≠ "") :
    store.database? engine namespaceName name =
      .ok (store.held? Database.codec (.database engine namespaceName name)) :=
  resolve_eq_held? responsive hname fun _ => responsive.databases

theorem Responsive.version? (responsive : store.Responsive) (engine : Engine)
    {name : String} (hname : name ≠ "") :
    store.version? engine name =
      .ok (store.held? CatalogVersion.codec (.version engine name)) :=
  resolve_eq_held? responsive hname fun _ => responsive.versions

theorem Responsive.hasSecret (responsive : store.Responsive)
    (namespaceName : String) {name : String} (hname : name ≠ "") :
    store.hasSecret namespaceName name =
      .ok (store.holdsSecret namespaceName name) := by
  rcases responsive.answers (.secret namespaceName name) with
    ⟨object, found⟩ | ⟨kind, missing, hmissing⟩
  · simp [ObjectStore.hasSecret, find?, holdsSecret, found, hname, Except.map,
      Except.isOk, Except.toBool]
  · simp [ObjectStore.hasSecret, find?, holdsSecret, hmissing, Except.map,
      Except.isOk, Except.toBool]

end
end AdmissionGate.ObjectStore
