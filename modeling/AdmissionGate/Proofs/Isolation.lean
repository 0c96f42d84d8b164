import AdmissionGate.Proofs.OpsRequest.Creation
import AdmissionGate.Proofs.Rule.Questions
import AdmissionGate.Proofs.Store.Inquiry
import AdmissionGate.Proofs.Store.Memory
import AdmissionGate.Review.Verdict

/-!
# Isolation

An admission depends on no more of a store than the request refers to: objects
in other namespaces, of other engines or of other names make no difference.
-/

namespace AdmissionGate

/-! ## Operation requests -/

namespace OpsRequest

/-- The places that a request refers to, by itself or through its database. -/
inductive Refers (request : OpsRequest) (store : ObjectStore) (engine : Engine) :
    ObjectKey → Prop where
  | database : Refers request store engine
      (.database engine request.metadata.namespaceText
        request.spec.database.name)
  | target {spec : UpdateVersionSpec}
      (given : request.spec.updateVersion = some spec) :
      Refers request store engine (.version engine spec.targetVersion)
  | current {database : Database}
      (found : request.database? store engine = .ok (some database)) :
      Refers request store engine (.version engine database.spec.version)
  | secret (operation : Operation) {secret : LocalReference}
      (named : operation.secret? request.spec = some secret) :
      Refers request store engine
        (.secret request.metadata.namespaceText secret.name)

section

variable {request : OpsRequest} {left right : ObjectStore} {engine : Engine}

theorem database?_congr (agree : ∀ key, request.Refers left engine key →
      left key = right key) :
    request.database? left engine = request.database? right engine := by
  unfold database? ObjectStore.database?
  rw [ObjectStore.resolve_congr (agree _ .database)]

theorem catalogVersion?_congr {name : String}
    (agree : name ≠ "" → left (.version engine name) =
      right (.version engine name)) :
    catalogVersion? left engine name = catalogVersion? right engine name := by
  unfold catalogVersion?
  by_cases hname : name = ""
  · simp [hname]
  · simp only [ObjectStore.version?, ObjectStore.resolve_congr (agree hname)]

theorem secretEntry_congr (agree : ∀ key, request.Refers left engine key →
      left key = right key) (operation : Operation) :
    secretEntry left request.metadata.namespaceText
        (operation.secret? request.spec) =
      secretEntry right request.metadata.namespaceText
        (operation.secret? request.spec) := by
  cases named : operation.secret? request.spec with
  | none => rfl
  | some secret =>
      have hsecret := agree _ (.secret operation named)
      simp only [secretEntry, ObjectStore.hasSecret_congr hsecret]

theorem collaborators_congr (agree : ∀ key, request.Refers left engine key →
      left key = right key) (operation : Operation) {database : Database}
    (found : request.database? left engine = .ok (some database)) :
    request.collaborators left engine operation database =
      request.collaborators right engine operation database := by
  cases operation with
  | updateVersion =>
      have hcurrent : catalogVersion? left engine database.spec.version =
          catalogVersion? right engine database.spec.version :=
        catalogVersion?_congr fun _ => agree _ (.current found)
      cases hspec : request.spec.updateVersion with
      | none =>
          simp only [collaborators, hspec, hcurrent]
          rfl
      | some spec =>
          have htarget : catalogVersion? left engine spec.targetVersion =
              catalogVersion? right engine spec.targetVersion :=
            catalogVersion?_congr fun _ => agree _ (.target hspec)
          simp only [collaborators, hspec, Option.map_some, Option.getD_some,
            htarget, hcurrent]
  | reconfigure =>
      have hsecret := secretEntry_congr agree .reconfigure
      simp only [Operation.secret?] at hsecret
      simp only [collaborators, hsecret]
  | rotateAuth =>
      have hsecret := secretEntry_congr agree .rotateAuth
      simp only [Operation.secret?] at hsecret
      simp only [collaborators, hsecret]
  | _ => rfl

theorem lateErrors_congr (agree : ∀ key, request.Refers left engine key →
      left key = right key) {database : Option Database}
    (found : request.database? left engine = .ok database) :
    request.lateErrors left engine database =
      request.lateErrors right engine database := by
  unfold lateErrors
  split
  · rw [collaborators_congr agree _ found]
  · rfl

theorem validateCreate_congr (agree : ∀ key, request.Refers left engine key →
      left key = right key) :
    request.validateCreate left engine =
      request.validateCreate right engine := by
  unfold validateCreate
  rw [← database?_congr agree]
  cases found : request.database? left engine with
  | error error => rfl
  | ok database =>
      simp only [fromStore_ok, bind, Except.bind]
      rw [lateErrors_congr agree found]

theorem Refers.known {store : ObjectStore} {key : ObjectKey}
    (h : request.Refers store engine key) :
    key.resource ∈ ResourceKind.known := by
  cases h with
  | database => exact engine.databaseResource_mem_known
  | target _ | current _ => exact engine.versionResource_mem_known
  | secret _ _ => exact List.mem_cons_self

end
end OpsRequest

/-! ## Schema requests -/

namespace SchemaRequest

def databaseKey (request : SchemaRequest) (kind : SchemaKind) : ObjectKey :=
  .database kind.engine request.databaseNamespace request.spec.database.name

variable {request : SchemaRequest} {kind : SchemaKind}

theorem validateCreate_congr {left right : ObjectStore}
    (agree : left (request.databaseKey kind) =
      right (request.databaseKey kind)) :
    request.validateCreate left kind = request.validateCreate right kind := by
  have hdatabase : request.database? left kind = request.database? right kind := by
    unfold database? ObjectStore.database?
    rw [← databaseKey, ObjectStore.resolve_congr agree]
  simp only [validateCreate, hdatabase]

theorem databaseKey_known : (request.databaseKey kind).resource ∈
    ResourceKind.known :=
  kind.engine.databaseResource_mem_known

end SchemaRequest

/-! ## Reviews -/

namespace ReviewRequest

variable {review : ReviewRequest}

theorem admitSchema_update (h : review.operation = .update)
    (left right : ObjectStore) :
    review.admitSchema left = review.admitSchema right := by
  simp only [admitSchema, h]

theorem admitSchema_delete (h : review.operation = .delete)
    (left right : ObjectStore) :
    review.admitSchema left = review.admitSchema right := by
  simp only [admitSchema, h]

theorem admitOps_delete (h : review.operation = .delete)
    (left right : ObjectStore) :
    review.admitOps left = review.admitOps right := by
  simp only [admitOps, h]

end ReviewRequest

/-! ## Stores in memory -/

namespace MemoryStore

def ofWrites (writes : List (ObjectKey × Json)) : MemoryStore :=
  ({} : MemoryStore).insertAll writes

theorem read_ofWrites_congr {key : ObjectKey}
    (hkey : key.resource ∈ ResourceKind.known)
    {writes others : List (ObjectKey × Json)}
    (hwrites : ∀ write ∈ writes, write.1.resource ∈ ResourceKind.known)
    (hothers : ∀ write ∈ others, write.1.resource ∈ ResourceKind.known)
    (agree : lastWritten? key writes = lastWritten? key others) :
    (ofWrites writes).read key = (ofWrites others).read key := by
  refine read_congr (unavailable_insertAll _ writes)
    (unavailable_insertAll _ others) ?_
  rw [ofWrites, ofWrites, find?_insertAll hkey _ hwrites,
    find?_insertAll hkey _ hothers, agree]

end MemoryStore

/-- Admission is isolated to what a request refers to.  Two stores that hold the
same there, or that were last written the same there, admit the same; updates of
schema requests and deletions come out the same with any two stores. -/
theorem admission_isolated :
    (∀ (engine : Engine) (request : OpsRequest) (left right : MemoryStore),
      left.unavailable = false → right.unavailable = false →
      (∀ key, request.Refers left.read engine key →
        left.find? key = right.find? key) →
      request.validateCreate left.read engine =
        request.validateCreate right.read engine) ∧
    (∀ (engine : Engine) (request : OpsRequest)
      (writes others : List (ObjectKey × Json)),
      (∀ write ∈ writes ++ others, write.1.resource ∈ ResourceKind.known) →
      (∀ key, request.Refers (MemoryStore.ofWrites writes).read engine key →
        MemoryStore.lastWritten? key writes =
          MemoryStore.lastWritten? key others) →
      request.validateCreate (MemoryStore.ofWrites writes).read engine =
        request.validateCreate (MemoryStore.ofWrites others).read engine) ∧
    (∀ (kind : SchemaKind) (request : SchemaRequest) (left right : MemoryStore),
      left.unavailable = false → right.unavailable = false →
      left.find? (request.databaseKey kind) =
        right.find? (request.databaseKey kind) →
      request.validateCreate left.read kind =
        request.validateCreate right.read kind) ∧
    (∀ (kind : SchemaKind) (request : SchemaRequest)
      (writes others : List (ObjectKey × Json)),
      (∀ write ∈ writes ++ others, write.1.resource ∈ ResourceKind.known) →
      MemoryStore.lastWritten? (request.databaseKey kind) writes =
        MemoryStore.lastWritten? (request.databaseKey kind) others →
      request.validateCreate (MemoryStore.ofWrites writes).read kind =
        request.validateCreate (MemoryStore.ofWrites others).read kind) ∧
    ∀ (review : ReviewRequest) (left right : ObjectStore),
      (review.operation = .update →
        review.admitSchema left = review.admitSchema right) ∧
      (review.operation = .delete →
        review.admitSchema left = review.admitSchema right ∧
        review.admitOps left = review.admitOps right) := by
  refine ⟨?_, ?_, ?_, ?_, ?_⟩
  · intro engine request left right hleft hright agree
    exact OpsRequest.validateCreate_congr fun key hkey =>
      MemoryStore.read_congr hleft hright (agree key hkey)
  · intro engine request writes others hknown agree
    rw [List.forall_mem_append] at hknown
    exact OpsRequest.validateCreate_congr fun key hkey =>
      MemoryStore.read_ofWrites_congr hkey.known hknown.1 hknown.2
        (agree key hkey)
  · intro kind request left right hleft hright agree
    exact SchemaRequest.validateCreate_congr
      (MemoryStore.read_congr hleft hright agree)
  · intro kind request writes others hknown agree
    rw [List.forall_mem_append] at hknown
    exact SchemaRequest.validateCreate_congr
      (MemoryStore.read_ofWrites_congr SchemaRequest.databaseKey_known hknown.1
        hknown.2 agree)
  · intro review left right
    exact ⟨fun h => review.admitSchema_update h left right, fun h =>
      ⟨review.admitSchema_delete h left right,
        review.admitOps_delete h left right⟩⟩

/-! ### New credentials -/

def rotation : OpsRequest where
  metadata := { namespaceName := some "here" }
  spec := {
    database := ⟨"db"⟩
    type := "RotateAuth"
    authentication := some { secret := some ⟨"credentials"⟩ } }

def referredWrites : List (ObjectKey × Json) :=
  [(.database .mySQL "here" "db", .object []),
    (.secret "here" "credentials", .object [])]

/-- Objects of the same names in another namespace and of other engines. -/
def otherWrites : List (ObjectKey × Json) :=
  [(.database .mySQL "there" "db", .null), (.secret "there" "credentials", .null),
    (.database .mariaDB "here" "db", .object [("spec", .null)]),
    (⟨Engine.mySQL.opsResource, some "here", "db"⟩, .object [])]

theorem rotation_isolated :
    rotation.validateCreate (MemoryStore.ofWrites referredWrites).read .mySQL =
      rotation.validateCreate
        (MemoryStore.ofWrites (referredWrites ++ otherWrites)).read .mySQL := by
  refine admission_isolated.2.1 .mySQL rotation _ _ (by decide +kernel) ?_
  intro key hkey
  cases hkey with
  | database => decide +kernel
  | target given => cases given
  | current found =>
      have hdatabase : rotation.database?
          (MemoryStore.ofWrites referredWrites).read .mySQL =
            .ok (some {}) := rfl
      rw [hdatabase] at found
      cases found
      decide +kernel
  | @secret operation secret named =>
      have hname : secret = ⟨"credentials"⟩ := by
        cases operation with
        | rotateAuth =>
            cases named
            rfl
        | _ => cases named
      rw [hname]
      decide +kernel

end AdmissionGate
