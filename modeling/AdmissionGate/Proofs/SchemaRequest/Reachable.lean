import AdmissionGate.Proofs.Isolation
import AdmissionGate.Proofs.SchemaRequest.Frozen

/-!
# Reachable schema requests

A request that was created and then updated is well formed at every moment, and
for that reason an update that leaves its specification alone is never refused.
-/

namespace AdmissionGate

/-! ## Looking up -/

theorem ObjectStore.resolve_eq_some_iff {Model : Type} {store : ObjectStore}
    {codec : Codec Model} {key : ObjectKey} {model : Model} :
    store.resolve codec key = .ok (some model) ↔
      ∃ object, store key = .ok object ∧
        codec.decode? object.toJson.canonical = some model := by
  constructor
  · intro h
    unfold resolve find? at h
    cases hread : store key with
    | error error => cases error <;> simp [hread] at h
    | ok object =>
        simp only [hread] at h
        cases hdecoded : codec.decode? object.toJson.canonical with
        | none => simp [hdecoded] at h
        | some decoded =>
            simp only [hdecoded, Except.ok.injEq, Option.some.injEq] at h
            exact ⟨object, rfl, hdecoded.trans (congrArg some h)⟩
  · rintro ⟨object, hread, hdecoded⟩
    simp only [resolve, find?, hread, hdecoded]

namespace SchemaRequest

/-! ## Creation -/

section

variable {request : SchemaRequest} {store : ObjectStore} {kind : SchemaKind}

def DatabaseExists (request : SchemaRequest) (store : ObjectStore)
    (kind : SchemaKind) : Prop :=
  ∃ object database, store (request.databaseKey kind) = .ok object ∧
    Database.codec.decode? object.toJson.canonical = some database

theorem databaseExists_iff (named : request.spec.database.name ≠ "") :
    request.DatabaseExists store kind ↔
      ∃ database, request.database? store kind = .ok (some database) := by
  have hread : request.database? store kind =
      store.resolve Database.codec (request.databaseKey kind) :=
    if_neg (by simpa using named)
  simp only [hread, ObjectStore.resolve_eq_some_iff, DatabaseExists]
  exact exists_comm

theorem creationErrors_eq_nil_iff [Duration.Reader]
    (named : request.spec.database.name ≠ "") (database : Option Database) :
    request.creationErrors kind database = [] ↔
      SchemaSpec.structureErrors kind request.spec = [] ∧
        ∃ found, database = some found := by
  rw [creationErrors, List.append_eq_nil_iff, ← Option.isSome_iff_exists]
  cases database <;> simp [named]

theorem validateCreate_eq_ok [Duration.Reader] (lower : Text.LowerCase)
    {warnings : Warnings} :
    request.validateCreate store kind = .ok warnings ↔
      request.spec.WellFormed lower kind ∧
        request.DatabaseExists store kind ∧ warnings = [] := by
  unfold validateCreate
  rw [fromStore_bind_eq_ok]
  constructor
  · rintro ⟨database, hdatabase, hconcluded⟩
    obtain ⟨herrors, hwarnings⟩ := conclude_eq_ok.1 hconcluded
    have hstructure := (List.append_eq_nil_iff.1 herrors).1
    have wellFormed :=
      (SchemaSpec.structureErrors_eq_nil_iff _ _ lower).1 hstructure
    have named := wellFormed.database
    obtain ⟨-, found, rfl⟩ := (creationErrors_eq_nil_iff named database).1 herrors
    exact ⟨wellFormed, (databaseExists_iff named).2 ⟨found, hdatabase⟩, hwarnings⟩
  · rintro ⟨wellFormed, exist, hwarnings⟩
    have named := wellFormed.database
    obtain ⟨database, hdatabase⟩ := (databaseExists_iff named).1 exist
    have hstructure :=
      (SchemaSpec.structureErrors_eq_nil_iff _ _ lower).2 wellFormed
    refine ⟨some database, hdatabase, conclude_eq_ok.2 ⟨?_, hwarnings⟩⟩
    exact (creationErrors_eq_nil_iff named _).2 ⟨hstructure, database, rfl⟩

end

/-! ## Requests that were created -/

structure Reached [Duration.Reader] (kind : SchemaKind) (store : ObjectStore)
    (created current : SchemaRequest) : Prop where
  admitted : ∃ warnings, created.validateCreate store kind = .ok warnings
  updates : Updates kind (fun _ => True) created current

section

variable {kind : SchemaKind} {store : ObjectStore}
  {created current : SchemaRequest}

theorem Reached.wellFormed [Duration.Reader] (lower : Text.LowerCase)
    (reached : Reached kind store created current) :
    current.spec.WellFormed lower kind := by
  obtain ⟨warnings, admitted⟩ := reached.admitted
  refine Updates.invariant (·.WellFormed lower kind)
    ((validateCreate_eq_ok lower).1 admitted).1 ?_ reached.updates
  intro old new _ _ hstructure _
  exact (SchemaSpec.structureErrors_eq_nil_iff kind new.spec lower).1 hstructure

end

/-- However durations are read, a request is well formed from its creation on, and
its database existed then.  A request that is well formed and whose database exists
is created. -/
theorem reached_wellFormed [Duration.Reader] (lower : Text.LowerCase)
    (kind : SchemaKind) (store : ObjectStore) :
    (∀ created current : SchemaRequest, Reached kind store created current →
      current.spec.WellFormed lower kind ∧
        created.DatabaseExists store kind) ∧
    ∀ request : SchemaRequest, request.spec.WellFormed lower kind →
      request.DatabaseExists store kind →
      request.validateCreate store kind = .ok [] := by
  constructor
  · intro created current reached
    obtain ⟨warnings, admitted⟩ := reached.admitted
    have exist := ((validateCreate_eq_ok lower).1 admitted).2.1
    exact ⟨reached.wellFormed lower, exist⟩
  · intro request wellFormed exist
    exact (validateCreate_eq_ok lower).2 ⟨wellFormed, exist, rfl⟩

/-! ### The creation of a schema -/

def applicationStore : MemoryStore :=
  .ofWrites [(.database .mySQL "" "db", .object [])]

def unattended (vault : String) (policy : DeletionPolicy) : SchemaRequest :=
  { application vault policy with metadata := {}, status := none }

theorem application_reached :
    Reached .mySQL applicationStore.read (application "vault" .delete)
      (application "other" .doNotDelete) := by
  have wellFormed : (application "vault" .delete).spec.WellFormed .ofAscii
      .mySQL := by
    decide +kernel
  have hcreated : (application "vault" .delete).validateCreate
      applicationStore.read .mySQL = .ok [] :=
    (validateCreate_eq_ok .ofAscii).2 ⟨wellFormed, ⟨_, {}, rfl, rfl⟩, rfl⟩
  have hmoved : (unattended "vault" .delete).validateUpdate
      (application "other" .doNotDelete) .mySQL = .ok [] :=
    validateUpdate_eq_ok.2 ⟨rfl, by decide +kernel, rfl⟩
  exact ⟨⟨[], hcreated⟩, .updated (.touched .start {} none) trivial hmoved⟩

theorem application_wellFormed :
    Reached .mySQL applicationStore.read (application "vault" .delete)
        (application "other" .doNotDelete) ∧
      (application "other" .doNotDelete).spec.WellFormed .ofAscii .mySQL ∧
      (application "vault" .delete).DatabaseExists applicationStore.read .mySQL ∧
      (application "other" .doNotDelete).validateCreate applicationStore.read
        .mySQL = .ok [] := by
  obtain ⟨hreached, hcreated⟩ :=
    reached_wellFormed .ofAscii .mySQL applicationStore.read
  obtain ⟨wellFormed, exist⟩ := hreached _ _ application_reached
  -- The other schema refers to the same database.
  exact ⟨application_reached, wellFormed, exist, hcreated _ wellFormed exist⟩

/-! ## Updates that change nothing -/

theorem updateErrors_of_spec_eq {old new : SchemaRequest}
    (unchanged : new.spec = old.spec) : updateErrors old new = [] := by
  rw [updateErrors_eq_nil_iff, unchanged]
  exact fun _ => ⟨.refl _, fun _ => rfl⟩

theorem admitSchema_of_update {review : ReviewRequest} {kind : SchemaKind}
    {old new : SchemaRequest}
    (hkind : SchemaKind.ofKind? review.kind.kind = some kind)
    (hoperation : review.operation = .update)
    (hold : review.decode codec review.oldObject = .ok old)
    (hnew : review.decode codec review.object = .ok new) (store : ObjectStore) :
    review.admitSchema store = old.validateUpdate new kind := by
  simp only [ReviewRequest.admitSchema, hkind, hoperation, hold, hnew, bind,
    Except.bind]

/-- No request gets stuck: whatever else is changed about it, and whatever has
become of the store, an update that leaves the specification alone is admitted. -/
theorem unchanged_spec_admitted (kind : SchemaKind) (store : ObjectStore)
    {created current next : SchemaRequest}
    (reached : Reached kind store created current)
    (unchanged : next.spec = current.spec) :
    current.validateUpdate next kind = .ok [] ∧
      ∀ (review : ReviewRequest) (now : ObjectStore),
        SchemaKind.ofKind? review.kind.kind = some kind →
        review.operation = .update →
        review.decode codec review.oldObject = .ok current →
        review.decode codec review.object = .ok next →
        review.admitSchema now = .ok [] := by
  have wellFormed := reached.wellFormed .ofAscii
  rw [← unchanged] at wellFormed
  have hstructure :=
    (SchemaSpec.structureErrors_eq_nil_iff _ _ .ofAscii).2 wellFormed
  have admitted : current.validateUpdate next kind = .ok [] :=
    validateUpdate_eq_ok.2
      ⟨updateErrors_of_spec_eq unchanged, hstructure, rfl⟩
  refine ⟨admitted, ?_⟩
  intro review now hkind hoperation hold hnew
  rw [admitSchema_of_update hkind hoperation hold hnew, admitted]

/-! ### The release of a schema -/

def objectOf (request : SchemaRequest) : Object where
  type := none
  metadata := request.metadata
  data := [("spec", SchemaSpec.codec.encode request.spec)]

def attended : SchemaRequest :=
  { application "other" .doNotDelete with status := none }

def releaseReview : ReviewRequest where
  uid := "1"
  kind := ⟨SchemaKind.group, "v1alpha1", "MySQLDatabase"⟩
  resource := ⟨SchemaKind.group, "v1alpha1", "mysqldatabases"⟩
  operation := .update
  user := ⟨none, none, none, none⟩
  oldObject := some (objectOf attended)
  object := some (objectOf (unattended "other" .doNotDelete))

/-- The finalizer can be taken away while the store is out. -/
theorem release_admitted :
    attended.validateUpdate (unattended "other" .doNotDelete) .mySQL = .ok [] ∧
      releaseReview.admitSchema
        ({ unavailable := true } : MemoryStore).read = .ok [] := by
  have hreached : Reached .mySQL applicationStore.read
      (application "vault" .delete) attended :=
    ⟨application_reached.admitted,
      application_reached.updates.touched _ none⟩
  obtain ⟨admitted, hreviewed⟩ :=
    unchanged_spec_admitted .mySQL applicationStore.read hreached
      (rfl : (unattended "other" .doNotDelete).spec = attended.spec)
  exact ⟨admitted, hreviewed releaseReview _ rfl rfl rfl rfl⟩

end SchemaRequest
end AdmissionGate
