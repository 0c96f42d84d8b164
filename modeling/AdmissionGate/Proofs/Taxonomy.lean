import AdmissionGate.Proofs.Failures
import AdmissionGate.Proofs.OpsRequest.Creation
import AdmissionGate.Proofs.SchemaRequest.Frozen

/-!
# Categories of rejections

Every error of a rejection is ordinary, or tells of an operation that the engine
does not have, or of a frozen field.  The last kind of error is found in updates
only, and then nothing else is reported.
-/

namespace AdmissionGate

open FieldError

/-! ## Errors -/

namespace FieldError

def Unsupported (error : FieldError) : Prop :=
  error.category = .unsupportedType ∧ error.field = "spec.type" ∧
    error.fault = .notSupported

def Frozen (error : FieldError) : Prop :=
  error.category = .immutability ∧ error.fault = .invalid

theorem Ordinary.referential_iff {error : FieldError} (h : error.Ordinary) :
    error.category = .referential ↔ error.fault = .notFound := by
  unfold Ordinary at h
  rw [h]
  split <;> simp [*]

def AllFrozen (errors : List FieldError) : Prop :=
  ∀ error ∈ errors, error.Frozen

@[simp] theorem allFrozen_nil : AllFrozen [] := by
  simp [AllFrozen]

@[simp] theorem allFrozen_append {front back : List FieldError} :
    AllFrozen (front ++ back) ↔ AllFrozen front ∧ AllFrozen back :=
  List.forall_mem_append

@[simp] theorem allFrozen_immutable (path detail : String) :
    AllFrozen [immutable path detail] := by
  simp [AllFrozen, Frozen, immutable]

end FieldError

theorem OpsRequestSpec.allFrozen_changeErrors (old new : OpsRequestSpec) :
    AllFrozen (changeErrors old new) := by
  intro error herror
  obtain ⟨path, -, rfl⟩ := List.mem_map.1 herror
  exact ⟨rfl, rfl⟩

/-! ## Schema requests -/

namespace SchemaSpec

theorem allOrdinary_subjectsErrors (index : Nat) (subjects : List Subject) :
    AllOrdinary (subjectsErrors index subjects) := by
  induction subjects generalizing index with
  | nil => exact allOrdinary_nil
  | cons subject rest ih => simp [subjectsErrors, subjectErrors, ih]

theorem allOrdinary_ttlErrors (path : String) (text : Option String) :
    AllOrdinary (ttlErrors path text) := by
  cases text with
  | none => exact allOrdinary_nil
  | some text => exact Duration.allOrdinary_positiveErrors path text _

variable (kind : SchemaKind) (spec : SchemaSpec)

theorem allOrdinary_readOnlyErrors : AllOrdinary (readOnlyErrors kind spec) := by
  unfold readOnlyErrors
  split <;> simp

theorem allOrdinary_initErrors : AllOrdinary spec.initErrors := by
  unfold initErrors
  split
  · simp
  · split <;> simp

theorem allOrdinary_ttlOrderErrors (access : AccessPolicy) :
    AllOrdinary (ttlOrderErrors access) := by
  unfold ttlOrderErrors
  split <;> simp

theorem allOrdinary_structureErrors :
    AllOrdinary (structureErrors kind spec) := by
  have hdatabase : AllOrdinary spec.databaseErrors := by simp [databaseErrors]
  have hvault : AllOrdinary spec.vaultErrors := by simp [vaultErrors]
  have hname : AllOrdinary (nameErrors kind spec) := by simp [nameErrors]
  have hmissing : AllOrdinary spec.missingSubjectErrors := by
    simp [missingSubjectErrors]
  simp only [structureErrors, allOrdinary_append, hdatabase, hvault, hname,
    hmissing, allOrdinary_readOnlyErrors, allOrdinary_initErrors,
    allOrdinary_subjectsErrors, allOrdinary_ttlErrors,
    allOrdinary_ttlOrderErrors, and_self]

end SchemaSpec

namespace SchemaRequest

variable {old new request : SchemaRequest} {kind : SchemaKind}

theorem allOrdinary_creationErrors (database : Option Database) :
    AllOrdinary (request.creationErrors kind database) := by
  rw [creationErrors, allOrdinary_append]
  exact ⟨SchemaSpec.allOrdinary_structureErrors _ _, by simp [missingDatabase]⟩

theorem allOrdinary_deletionErrors :
    AllOrdinary (deletionErrors kind request) := by
  simp [deletionErrors]

theorem allFrozen_frozenErrors {Part : Type} [DecidableEq Part]
    (path detail : String) (earlier later : Part) :
    AllFrozen (frozenErrors path detail earlier later) := by
  unfold frozenErrors
  split <;> simp

theorem allFrozen_initSourceErrors (earlier later : Option InitSpec) :
    AllFrozen (initSourceErrors earlier later) := by
  unfold initSourceErrors
  split
  · simp
  · split <;> simp
  · simp

theorem allFrozen_initializedErrors (earlier later : Option InitSpec) :
    AllFrozen (initializedErrors earlier later) := by
  unfold initializedErrors
  split
  · split <;> simp
  · simp

theorem allFrozen_nameChangeErrors : AllFrozen (nameChangeErrors old new) := by
  unfold nameChangeErrors
  split
  · exact allFrozen_frozenErrors _ _ _ _
  · simp

theorem allFrozen_updateErrors : AllFrozen (updateErrors old new) := by
  unfold updateErrors
  split
  · simp only [allFrozen_append, allFrozen_frozenErrors, true_and]
    exact ⟨⟨allFrozen_initSourceErrors _ _, allFrozen_initializedErrors _ _⟩,
      allFrozen_nameChangeErrors⟩
  · simp

@[simp] theorem rejection_errors (errors : List FieldError) :
    (request.rejection kind errors).errors = errors := rfl

theorem conclude_eq_invalid {errors : List FieldError} {rejection : Rejection} :
    request.conclude kind errors = .error (.invalid rejection) ↔
      errors ≠ [] ∧ rejection = request.rejection kind errors := by
  unfold conclude
  cases errors <;> simp [eq_comm]

end SchemaRequest

/-! ## Calls -/

namespace AdmissionCall

/-- The operation of a request is looked for among those of the engine when the
request is created, and when it is updated before anybody acts on it. -/
def ChecksOperation : AdmissionCall → Prop
  | .ops _ (.create _) => True
  | .ops _ (.update old _) => old.isPending = true
  | .ops _ (.delete _) | .schema _ _ => False

def IsUpdate : AdmissionCall → Prop
  | .ops _ (.update _ _) | .schema _ (.update _ _) => True
  | .ops _ _ | .schema _ _ => False

structure WellFormed (call : AdmissionCall) (rejection : Rejection) : Prop where
  nonempty : rejection.errors ≠ []
  referential : ∀ error ∈ rejection.errors,
    error.category = .referential ↔ error.fault = .notFound
  unsupportedType : ∀ error ∈ rejection.errors,
    error.category = .unsupportedType →
      error.field = "spec.type" ∧ error.fault = .notSupported ∧
        call.ChecksOperation
  immutability : ∀ error ∈ rejection.errors, error.category = .immutability →
    call.IsUpdate ∧ error.fault = .invalid ∧
      ∀ other ∈ rejection.errors, other.category = .immutability

variable {call : AdmissionCall} {rejection : Rejection}

theorem WellFormed.of_frozen (update : call.IsUpdate)
    (nonempty : rejection.errors ≠ []) (frozen : AllFrozen rejection.errors) :
    call.WellFormed rejection where
  nonempty := nonempty
  referential error herror := by simp [(frozen error herror).1,
    (frozen error herror).2]
  unsupportedType error herror h := by
    rw [(frozen error herror).1] at h
    cases h
  immutability error herror _ :=
    ⟨update, (frozen error herror).2, fun other hother => (frozen other hother).1⟩

theorem WellFormed.of_kinds (nonempty : rejection.errors ≠ [])
    (kinds : ∀ error ∈ rejection.errors,
      error.Ordinary ∨ error.Unsupported ∧ call.ChecksOperation) :
    call.WellFormed rejection where
  nonempty := nonempty
  referential error herror := by
    rcases kinds error herror with hordinary | ⟨hunsupported, -⟩
    · exact hordinary.referential_iff
    · simp [hunsupported.1, hunsupported.2.2]
  unsupportedType error herror h := by
    rcases kinds error herror with hordinary | ⟨hunsupported, hchecks⟩
    · rcases hordinary.category_eq with hcategory | hcategory <;>
        cases hcategory.symm.trans h
    · exact ⟨hunsupported.2.1, hunsupported.2.2, hchecks⟩
  immutability error herror h := by
    rcases kinds error herror with hordinary | ⟨hunsupported, -⟩
    · exact absurd h hordinary.ne_immutability
    · cases hunsupported.1.symm.trans h

theorem WellFormed.of_ordinary (nonempty : rejection.errors ≠ [])
    (ordinary : AllOrdinary rejection.errors) : call.WellFormed rejection :=
  .of_kinds nonempty fun error herror => .inl (ordinary error herror)

/-! ### Operation requests -/

theorem wellFormed_of_checked {request : OpsRequest} {store : ObjectStore}
    {engine : Engine} (checks : call.ChecksOperation)
    (h : request.validateCreate store engine = .error (.invalid rejection)) :
    call.WellFormed rejection := by
  have hkinds := OpsRequest.ordinary_or_unsupported_of_validateCreate h
  obtain ⟨_, _, -, -, hnonempty, rfl⟩ := OpsRequest.validateCreate_eq_invalid h
  refine .of_kinds hnonempty fun error herror => ?_
  rcases hkinds error herror with hordinary | rfl
  · exact .inl hordinary
  · exact .inr ⟨⟨rfl, rfl, rfl⟩, checks⟩

theorem wellFormed_opsUpdate {old new : OpsRequest} {store : ObjectStore}
    {engine : Engine}
    (h : old.validateUpdate new store engine = .error (.invalid rejection)) :
    (ops engine (.update old new)).WellFormed rejection := by
  unfold OpsRequest.validateUpdate at h
  split at h
  · split at h
    · rename_i hpending
      exact wellFormed_of_checked hpending h
    · cases h
  · rename_i hchanged
    cases h
    refine .of_frozen trivial ?_ ?_ <;> rw [OpsRequest.rejection_errors]
    · exact hchanged
    · exact OpsRequestSpec.allFrozen_changeErrors _ _

/-! ### Schema requests -/

section

variable {request old new : SchemaRequest} {kind : SchemaKind}

theorem wellFormed_conclude {errors : List FieldError}
    (ordinary : AllOrdinary errors)
    (h : request.conclude kind errors = .error (.invalid rejection)) :
    call.WellFormed rejection := by
  obtain ⟨hnonempty, rfl⟩ := SchemaRequest.conclude_eq_invalid.1 h
  exact .of_ordinary hnonempty ordinary

theorem wellFormed_schemaCreate {store : ObjectStore}
    (h : request.validateCreate store kind = .error (.invalid rejection)) :
    call.WellFormed rejection := by
  obtain ⟨database, -, hconclude⟩ := fromStore_bind_eq_invalid.1 h
  exact wellFormed_conclude (SchemaRequest.allOrdinary_creationErrors _) hconclude

theorem wellFormed_schemaUpdate
    (h : old.validateUpdate new kind = .error (.invalid rejection)) :
    (schema kind (.update old new)).WellFormed rejection := by
  unfold SchemaRequest.validateUpdate at h
  split at h
  · exact wellFormed_conclude (SchemaSpec.allOrdinary_structureErrors _ _) h
  · rename_i hchanged
    cases h
    refine .of_frozen trivial ?_ ?_ <;> rw [SchemaRequest.rejection_errors]
    · exact hchanged
    · exact SchemaRequest.allFrozen_updateErrors

end

/-- Every rejection is well formed. -/
theorem rejections_wellFormed (call : AdmissionCall) (store : ObjectStore)
    (rejection : Rejection)
    (h : call.verdict store = .error (.invalid rejection)) :
    call.WellFormed rejection := by
  rcases call with ⟨engine, change⟩ | ⟨kind, change⟩
  · cases change with
    | create new =>
        rw [verdict] at h
        exact wellFormed_of_checked trivial h
    | update old new =>
        rw [verdict] at h
        exact wellFormed_opsUpdate h
    | delete old => cases h
  · cases change with
    | create new =>
        rw [verdict] at h
        exact wellFormed_schemaCreate h
    | update old new =>
        rw [verdict] at h
        exact wellFormed_schemaUpdate h
    | delete old =>
        rw [verdict, SchemaRequest.validateDelete] at h
        exact wellFormed_conclude SchemaRequest.allOrdinary_deletionErrors h

/-! ### A pending request without an operation -/

def defragmentation : AdmissionCall :=
  let request : OpsRequest := {
    spec := { database := ⟨"db"⟩, type := "Defragment" } }
  .ops .mySQL (.update request request)

/-- Both that the operation is not supported and that the database does not exist
are reported. -/
theorem defragmentation_rejected :
    ∃ rejection,
      defragmentation.verdict (fun key => .error key.notFound) =
          .error (.invalid rejection) ∧
        rejection.errors.map FieldError.category =
          [.unsupportedType, .referential] ∧
        defragmentation.WellFormed rejection := by
  have hverdict : defragmentation.verdict (fun key => .error key.notFound) =
      .error (.invalid (OpsRequest.rejection _ .mySQL _)) := rfl
  exact ⟨_, hverdict, by decide +kernel, rejections_wellFormed _ _ _ hverdict⟩

end AdmissionCall
end AdmissionGate
