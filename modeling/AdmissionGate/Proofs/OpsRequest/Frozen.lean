import AdmissionGate.Proofs.OpsRequest.Creation
import AdmissionGate.Proofs.OpsRequest.Forms
import AdmissionGate.Store.Memory

/-!
# Frozen specifications

The written forms of two specifications that were read are the same exactly
when the specifications agree.  An update that is admitted therefore leaves the
specification as it was created, for all the life of a request.
-/

namespace AdmissionGate

/-! ## Requests that were read -/

namespace OpsRequest

/-- Requests reach the gate as JSON, in which the order of members and repeated
members no longer show. -/
def Decoded (request : OpsRequest) : Prop :=
  ∃ json : Json, codec.decode? json.canonical = some request

theorem spec_of_read {members : Members} {request : OpsRequest}
    (read : layout.read? members = some request) :
    ∃ json, lookUp? "spec" members = some json ∧
      OpsRequestSpec.codec.decode? json = some request.spec := by
  simp only [layout, Layout.member, Layout.start, Field.get?, Field.required,
    Option.bind_eq_bind, Option.bind_eq_some_iff, Option.pure_def,
    Option.some.injEq] at read
  obtain ⟨_, ⟨_, ⟨_, rfl, _, -, rfl⟩, spec, hspec, rfl⟩, status, -, rfl⟩ := read
  split at hspec
  · cases hspec
  · rename_i json found
    exact ⟨json, found, hspec⟩

end OpsRequest

namespace OpsRequestSpec

def Decoded (spec : OpsRequestSpec) : Prop :=
  ∃ json : Json, json.isCanonical = true ∧ codec.decode? json = some spec

theorem Decoded.of_request {request : OpsRequest} (h : request.Decoded) :
    request.spec.Decoded := by
  obtain ⟨json, read⟩ := h
  have hjson := Json.isCanonical_canonical json
  cases hshape : json.canonical with
  | object members =>
      rw [hshape] at read hjson
      obtain ⟨spec, hfound, hspec⟩ := OpsRequest.spec_of_read read
      rw [Json.isCanonical_object] at hjson
      exact ⟨spec, Json.isCanonical_of_lookUp? hjson.2 hfound, hspec⟩
  | array items =>
      rw [hshape] at read hjson
      obtain ⟨members, hlisted, hread⟩ := Option.bind_eq_some_iff.1 read
      obtain ⟨spec, hfound, hspec⟩ := OpsRequest.spec_of_read hread
      rw [Json.isCanonical_array] at hjson
      refine ⟨spec, ?_, hspec⟩
      rw [Layout.listed?] at hlisted
      split at hlisted <;> cases hlisted
      exact hjson spec (List.of_mem_zip (mem_of_lookUp?_eq_some hfound)).2
  | _ => rw [hshape] at read; cases read

/-! ## Agreement -/

instance (left right : OpsRequestSpec) : Decidable (left.Agrees right) :=
  inferInstanceAs (Decidable (_ ∧ _))

theorem agrees_iff {left right : OpsRequestSpec} :
    left.Agrees right ↔
      { left with extra := .empty } = { right with extra := .empty } ∧
        Json.plainMembers left.extra.entries =
          Json.plainMembers right.extra.entries := by
  rw [Agrees, Json.sameMembers_iff]

@[refl] theorem Agrees.refl (spec : OpsRequestSpec) : spec.Agrees spec :=
  agrees_iff.2 ⟨rfl, rfl⟩

theorem Agrees.trans {first second third : OpsRequestSpec}
    (h : first.Agrees second) (h' : second.Agrees third) :
    first.Agrees third := by
  rw [agrees_iff] at h h' ⊢
  exact ⟨h.1.trans h'.1, h.2.trans h'.2⟩

/-! ## Changes -/

theorem changeErrors_eq_nil_iff {old new : OpsRequestSpec} (hold : old.Decoded)
    (hnew : new.Decoded) : changeErrors old new = [] ↔ old.Agrees new := by
  obtain ⟨json, hjson, readOld⟩ := hold
  obtain ⟨other, hother, readNew⟩ := hnew
  have hwritten : old.written = form .written json :=
    faithful.written hjson readOld
  have hwritten' : new.written = form .written other :=
    faithful.written hother readNew
  rw [changeErrors, List.map_eq_nil_iff, changedPaths, Json.changes_eq_nil_iff,
    Json.same_iff, faithful.agree_iff hjson hother readOld readNew, hwritten,
    hwritten']

theorem immutability_of_mem_changeErrors {old new : OpsRequestSpec}
    {error : FieldError} (h : error ∈ changeErrors old new) :
    error.category = .immutability := by
  obtain ⟨path, -, rfl⟩ := List.mem_map.1 h
  rfl

end OpsRequestSpec

namespace OpsRequest

/-! ## One update -/

section Update

variable {old new : OpsRequest} {store : ObjectStore} {engine : Engine}

def RefusesChange (verdict : Verdict) : Prop :=
  ∃ rejection, verdict = .error (.invalid rejection) ∧ rejection.errors ≠ [] ∧
    ∀ error ∈ rejection.errors, error.category = .immutability

theorem not_refusesChange_validateCreate :
    ¬ RefusesChange (new.validateCreate store engine) := by
  rintro ⟨rejection, h, hnonempty, hall⟩
  obtain ⟨error, herror⟩ := List.exists_mem_of_ne_nil _ hnonempty
  exact ne_immutability_of_validateCreate h error herror (hall error herror)

theorem validateUpdate_of_agrees (hold : old.spec.Decoded)
    (hnew : new.spec.Decoded) (h : old.spec.Agrees new.spec) :
    old.validateUpdate new store engine =
      if old.isPending then new.validateCreate store engine else .ok [] := by
  rw [validateUpdate,
    (OpsRequestSpec.changeErrors_eq_nil_iff hold hnew).2 h]

theorem validateUpdate_of_not_agrees (hold : old.spec.Decoded)
    (hnew : new.spec.Decoded) (h : ¬ old.spec.Agrees new.spec) :
    old.validateUpdate new store engine = .error (.invalid
      (new.rejection engine
        (OpsRequestSpec.changeErrors old.spec new.spec))) := by
  have hchanged := mt (OpsRequestSpec.changeErrors_eq_nil_iff hold hnew).1 h
  unfold validateUpdate
  split
  · contradiction
  · rfl

theorem errors_of_not_agrees (hold : old.spec.Decoded)
    (hnew : new.spec.Decoded) (h : ¬ old.spec.Agrees new.spec) :
    (new.rejection engine (OpsRequestSpec.changeErrors old.spec
        new.spec)).errors ≠ [] ∧
      ∀ error ∈ (new.rejection engine (OpsRequestSpec.changeErrors old.spec
        new.spec)).errors, error.category = .immutability := by
  rw [rejection_errors]
  refine ⟨mt (OpsRequestSpec.changeErrors_eq_nil_iff hold hnew).1 h, ?_⟩
  intro error herror
  exact OpsRequestSpec.immutability_of_mem_changeErrors herror

theorem refusesChange_iff (hold : old.spec.Decoded) (hnew : new.spec.Decoded) :
    RefusesChange (old.validateUpdate new store engine) ↔
      ¬ old.spec.Agrees new.spec := by
  constructor
  · intro hrefused hagrees
    rw [validateUpdate_of_agrees hold hnew hagrees] at hrefused
    split at hrefused
    · exact not_refusesChange_validateCreate hrefused
    · obtain ⟨_, h, -⟩ := hrefused
      cases h
  · intro h
    exact ⟨_, validateUpdate_of_not_agrees hold hnew h,
      errors_of_not_agrees hold hnew h⟩

theorem agrees_of_validateUpdate {warnings : Warnings} (hold : old.spec.Decoded)
    (hnew : new.spec.Decoded)
    (h : old.validateUpdate new store engine = .ok warnings) :
    old.spec.Agrees new.spec := by
  refine Decidable.byContradiction fun hdiffer => ?_
  rw [validateUpdate_of_not_agrees hold hnew hdiffer] at h
  cases h

end Update

/-! ## The life of a request -/

/-- What a request may become after its creation.  Every step may meet another
store. -/
inductive Life (engine : Engine) (created : OpsRequest) : OpsRequest → Prop where
  | created (store : ObjectStore) {warnings : Warnings}
      (decoded : created.Decoded)
      (admitted : created.validateCreate store engine = .ok warnings) :
      Life engine created created
  | touched {current : OpsRequest} (life : Life engine created current)
      (metadata : Metadata) (status : Option OpsRequestStatus) :
      Life engine created { current with metadata, status }
  | updated {current next : OpsRequest} (store : ObjectStore)
      {warnings : Warnings} (life : Life engine created current)
      (decoded : next.Decoded)
      (admitted : current.validateUpdate next store engine = .ok warnings) :
      Life engine created next

theorem Life.spec_agrees {engine : Engine} {created current : OpsRequest}
    (life : Life engine created current) :
    current.spec.Decoded ∧ created.spec.Agrees current.spec := by
  induction life with
  | created _ decoded _ => exact ⟨.of_request decoded, .refl _⟩
  | touched _ metadata status ih => exact ih
  | updated _ _ decoded admitted ih =>
      obtain ⟨hcurrent, hagrees⟩ := ih
      have hnext := OpsRequestSpec.Decoded.of_request decoded
      exact ⟨hnext,
        hagrees.trans (agrees_of_validateUpdate hcurrent hnext admitted)⟩

/-- A specification is frozen for life.  An update is rejected for frozen
fields, whatever the store holds, exactly when the specifications differ; else
it comes to nothing, or to a creation while nobody has acted on the request. -/
theorem spec_frozen_for_life (engine : Engine) :
    (∀ old new : OpsRequest, old.Decoded → new.Decoded →
      (¬ old.spec.Agrees new.spec →
        ∃ rejection : Rejection, rejection.errors ≠ [] ∧
          (∀ error ∈ rejection.errors, error.category = .immutability) ∧
          ∀ store, old.validateUpdate new store engine =
            .error (.invalid rejection)) ∧
      ∀ store,
        (RefusesChange (old.validateUpdate new store engine) ↔
          ¬ old.spec.Agrees new.spec) ∧
        (old.spec.Agrees new.spec → old.isPending = false →
          old.validateUpdate new store engine = .ok []) ∧
        (old.spec.Agrees new.spec → old.isPending = true →
          old.validateUpdate new store engine =
            new.validateCreate store engine)) ∧
    ∀ created current : OpsRequest, Life engine created current →
      created.spec.Agrees current.spec := by
  refine ⟨?_, fun _ _ life => life.spec_agrees.2⟩
  intro old new hold hnew
  have hold := OpsRequestSpec.Decoded.of_request hold
  have hnew := OpsRequestSpec.Decoded.of_request hnew
  refine ⟨fun hdiffer => ?_, fun store => ⟨?_, ?_, ?_⟩⟩
  · obtain ⟨hnonempty, hall⟩ := errors_of_not_agrees hold hnew hdiffer
    exact ⟨_, hnonempty, hall,
      fun _ => validateUpdate_of_not_agrees hold hnew hdiffer⟩
  · exact refusesChange_iff hold hnew
  · intro hagrees hacted
    rw [validateUpdate_of_agrees hold hnew hagrees, hacted]
    rfl
  · intro hagrees hpending
    rw [validateUpdate_of_agrees hold hnew hagrees, hpending]
    rfl

/-! ### A restart -/

def restartJson (finalizer : String) (note : Int) : Json :=
  .object [
    ("metadata", .object [("finalizers", .array [.string finalizer])]),
    ("spec", .object [("databaseRef", .object [("name", .string "db")]),
      ("note", .integer note), ("type", .string "Restart")])]

def restart (finalizer : String) (note : Int) : OpsRequest where
  metadata := { finalizers := some [finalizer] }
  spec := {
    database := ⟨"db"⟩
    type := "Restart"
    extra := .singleton "note" (.integer note) }

def restartStore : MemoryStore where
  objects := [((ObjectKey.database .postgres "" "db").memoryKey, ⟨none, {}, []⟩)]

/-- The restart is created, acted on and given another finalizer; its note can
not change. -/
theorem restart_frozen_for_life :
    Life .postgres (restart "a" 0) (restart "b" 0) ∧
      (restart "a" 0).spec.Agrees (restart "b" 0).spec ∧
      RefusesChange ((restart "b" 0).validateUpdate (restart "b" 1)
        restartStore.read .postgres) := by
  have hfirst : (restart "a" 0).Decoded := ⟨restartJson "a" 0, rfl⟩
  have hsecond : (restart "b" 0).Decoded := ⟨restartJson "b" 0, rfl⟩
  have hthird : (restart "b" 1).Decoded := ⟨restartJson "b" 1, rfl⟩
  have hcreated : Life .postgres (restart "a" 0) (restart "a" 0) :=
    .created restartStore.read hfirst rfl
  have hacted := hcreated.touched {} (some { phase := some .progressing })
  have hupdated : Life .postgres (restart "a" 0) (restart "b" 0) :=
    .updated restartStore.read hacted hsecond rfl
  obtain ⟨hstep, hlife⟩ := spec_frozen_for_life .postgres
  refine ⟨hupdated, hlife _ _ hupdated, ?_⟩
  refine ((hstep _ _ hsecond hthird).2 restartStore.read).1.2 ?_
  decide

end OpsRequest
end AdmissionGate
