import AdmissionGate.OpsRequest.Admission
import AdmissionGate.Proofs.Rule.Sections

/-!
# Creation of operation requests

What a creation comes to, step by step, and the errors that it can end with.
-/

namespace AdmissionGate

open FieldError

/-! ## Steps that ask a store -/

theorem fromStore_bind_eq_ok {Value Result : Type}
    {answer : Except StoreError Value}
    {next : Value → Except AdmissionError Result} {result : Result} :
    (fromStore answer >>= next) = .ok result ↔
      ∃ value, answer = .ok value ∧ next value = .ok result := by
  cases answer with
  | error error => exact ⟨nofun, nofun⟩
  | ok value => simp [bind, Except.bind]

theorem fromStore_bind_eq_invalid {Value Result : Type}
    {answer : Except StoreError Value}
    {next : Value → Except AdmissionError Result} {rejection : Rejection} :
    (fromStore answer >>= next) = .error (.invalid rejection) ↔
      ∃ value, answer = .ok value ∧ next value = .error (.invalid rejection) := by
  cases answer with
  | error error => exact ⟨nofun, nofun⟩
  | ok value => simp [bind, Except.bind]

/-! ## Requirements -/

theorem Duration.allOrdinary_positiveErrors [Reader] (path text examples : String) :
    AllOrdinary (Duration.positiveErrors path text examples) := by
  unfold Duration.positiveErrors
  split <;> simp

namespace OpsRequestSpec

variable (spec : OpsRequestSpec) (profile : Profile)

theorem allOrdinary_sectionErrors (operation : Operation) :
    AllOrdinary (spec.sectionErrors operation) := by
  rw [sectionErrors, allOrdinary_append]
  refine ⟨by simp [missingSectionErrors, missingSection], ?_⟩
  intro error herror
  obtain ⟨other, -, rfl⟩ := List.mem_map.1 herror
  rfl

/-- A requirement that is not met is an ordinary error, unless the engine does
not have the operation. -/
theorem ordinary_or_unsupported_of_mem_requirementErrors [Duration.Reader]
    {error : FieldError} (herror : error ∈ spec.requirementErrors profile) :
    error.Ordinary ∨ error = unsupported profile spec.type := by
  simp only [requirementErrors, List.mem_append] at herror
  rcases herror with ((hdatabase | htype) | hsection) | htimeout
  · have hall : AllOrdinary spec.databaseErrors := by simp [databaseErrors]
    exact .inl (hall error hdatabase)
  · unfold typeErrors at htype
    split at htype
    · rw [List.mem_singleton.1 htype]
      exact .inl rfl
    · split at htype
      · cases htype
      · exact .inr (List.mem_singleton.1 htype)
  · exact .inl (allOrdinary_getD_map spec.allOrdinary_sectionErrors _ error
      hsection)
  · unfold timeoutErrors at htimeout
    split at htimeout
    · cases htimeout
    · exact .inl (Duration.allOrdinary_positiveErrors _ _ _ error htimeout)

end OpsRequestSpec

namespace OpsRequest

variable {request : OpsRequest} {store : ObjectStore} {engine : Engine}

/-! ## Outcomes -/

@[simp] theorem rejection_errors (errors : List FieldError) :
    (request.rejection engine errors).errors = errors := rfl

theorem conclude_eq_ok {errors : List FieldError} {warnings : Warnings} :
    request.conclude engine errors = .ok warnings ↔
      errors = [] ∧ warnings = request.warnings engine := by
  unfold conclude
  cases errors <;> simp [eq_comm]

theorem conclude_eq_invalid {errors : List FieldError} {rejection : Rejection} :
    request.conclude engine errors = .error (.invalid rejection) ↔
      errors ≠ [] ∧ rejection = request.rejection engine errors := by
  unfold conclude
  cases errors <;> simp [eq_comm]

theorem database_of_earlyErrors_eq_nil [Duration.Reader]
    {database : Option Database}
    (h : request.earlyErrors engine database = []) :
    request.spec.database.name ≠ "" ∧ ∃ found, database = some found := by
  simp only [earlyErrors, OpsRequestSpec.requirementErrors,
    List.append_eq_nil_iff, OpsRequestSpec.databaseErrors] at h
  obtain ⟨⟨⟨⟨hdatabase, -⟩, -⟩, -⟩, hmissing⟩ := h
  have hname : request.spec.database.name ≠ "" := by
    rintro hname
    simp [hname] at hdatabase
  refine ⟨hname, ?_⟩
  cases database with
  | none => simp [hname] at hmissing
  | some found => exact ⟨found, rfl⟩

variable [Duration.Reader] [Version.RangeReader]

theorem lateErrors_cases {database : Option Database} {late : List FieldError}
    (h : request.lateErrors store engine database = .ok late) :
    late = [] ∨ ∃ operation found collaborators,
      request.spec.operation? engine.profile = some operation ∧
        database = some found ∧ request.earlyErrors engine database = [] ∧
        request.collaborators store engine operation found =
          .ok collaborators ∧
        late = operation.ruleErrors {
          request, database := found, profile := engine.profile,
          collaborators } := by
  unfold lateErrors at h
  split at h
  · rename_i operation found hoperation hearly
    obtain ⟨collaborators, hcollaborators, hlate⟩ := fromStore_bind_eq_ok.1 h
    cases hlate
    exact .inr ⟨operation, found, collaborators, hoperation, rfl, hearly,
      hcollaborators, rfl⟩
  · cases h
    exact .inl rfl

theorem lateErrors_ne_invalid {database : Option Database}
    {rejection : Rejection} :
    request.lateErrors store engine database ≠ .error (.invalid rejection) := by
  intro h
  unfold lateErrors at h
  split at h
  · obtain ⟨_, _, hlate⟩ := fromStore_bind_eq_invalid.1 h
    cases hlate
  · cases h

theorem validateCreate_eq_invalid {rejection : Rejection}
    (h : request.validateCreate store engine = .error (.invalid rejection)) :
    ∃ database late, request.database? store engine = .ok database ∧
      request.lateErrors store engine database = .ok late ∧
      request.earlyErrors engine database ++ late ≠ [] ∧
      rejection = request.rejection engine
        (request.earlyErrors engine database ++ late) := by
  obtain ⟨database, hdatabase, hrest⟩ := fromStore_bind_eq_invalid.1 h
  cases hlate : request.lateErrors store engine database with
  | error error =>
      rw [hlate] at hrest
      cases hrest
      exact absurd hlate lateErrors_ne_invalid
  | ok late =>
      rw [hlate] at hrest
      exact ⟨database, late, hdatabase, hlate, conclude_eq_invalid.1 hrest⟩

theorem validateCreate_eq_ok {warnings : Warnings}
    (h : request.validateCreate store engine = .ok warnings) :
    ∃ database, request.database? store engine = .ok database ∧
      request.earlyErrors engine database = [] ∧
      request.lateErrors store engine database = .ok [] ∧
      warnings = request.warnings engine := by
  obtain ⟨database, hdatabase, hrest⟩ := fromStore_bind_eq_ok.1 h
  cases hlate : request.lateErrors store engine database with
  | error error =>
      rw [hlate] at hrest
      cases hrest
  | ok late =>
      rw [hlate] at hrest
      obtain ⟨hnone, hwarnings⟩ := conclude_eq_ok.1 hrest
      obtain ⟨hearly, rfl⟩ := List.append_eq_nil_iff.1 hnone
      exact ⟨database, hdatabase, hearly, hlate, hwarnings⟩

/-! ## Categories -/

theorem ordinary_or_unsupported_of_validateCreate {rejection : Rejection}
    (h : request.validateCreate store engine = .error (.invalid rejection)) :
    ∀ error ∈ rejection.errors, error.Ordinary ∨
      error = OpsRequestSpec.unsupported engine.profile request.spec.type := by
  obtain ⟨database, late, -, hlate, -, rfl⟩ := validateCreate_eq_invalid h
  intro error herror
  simp only [rejection_errors, earlyErrors, List.mem_append] at herror
  rcases herror with (hrequirement | hmissing) | hrule
  · exact OpsRequestSpec.ordinary_or_unsupported_of_mem_requirementErrors _ _
      hrequirement
  · have hall : AllOrdinary
        (if database.isNone && !request.spec.database.name.isEmpty then
          [request.missingDatabase engine] else []) := by
      simp [missingDatabase]
    exact .inl (hall error hmissing)
  · rcases lateErrors_cases hlate with rfl | ⟨_, _, _, -, -, -, -, rfl⟩
    · cases hrule
    · exact .inl (Operation.allOrdinary_ruleErrors _ _ error hrule)

theorem ne_immutability_of_validateCreate {rejection : Rejection}
    (h : request.validateCreate store engine = .error (.invalid rejection)) :
    ∀ error ∈ rejection.errors, error.category ≠ .immutability := by
  intro error herror
  rcases ordinary_or_unsupported_of_validateCreate h error herror with
    hordinary | rfl
  · exact hordinary.ne_immutability
  · simp [OpsRequestSpec.unsupported]

end OpsRequest
end AdmissionGate
