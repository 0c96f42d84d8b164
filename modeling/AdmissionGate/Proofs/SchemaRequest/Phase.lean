import AdmissionGate.SchemaRequest.Phase

/-!
# Phases over time

The phase of a request is stored whenever it is computed, while everything else
about the request changes as others please.  What is stored is read back when the
next phase is computed, but it counts only if it is a success.
-/

namespace AdmissionGate

/-! ## Conditions that hold -/

namespace Condition

/-- Of all the conditions of a type the first one holds. -/
def FirstHolds (conditions : List Condition) (type : String) : Prop :=
  ∃ earlier condition later, conditions = earlier ++ condition :: later ∧
    (∀ other ∈ earlier, other.type ≠ type) ∧ condition.type = type ∧
    condition.status = "True"

theorem isTrue_iff {conditions : List Condition} {type : String} :
    isTrue conditions type = true ↔ FirstHolds conditions type := by
  simp only [isTrue, find?, Option.any_eq_true, holds, beq_iff_eq,
    List.find?_eq_some_iff_append, Bool.not_eq_true', beq_eq_false_iff_ne]
  constructor
  · rintro ⟨condition, ⟨htype, earlier, later, hconditions, hearlier⟩, hstatus⟩
    exact ⟨earlier, condition, later, hconditions, hearlier, htype, hstatus⟩
  · rintro ⟨earlier, condition, later, hconditions, hearlier, htype, hstatus⟩
    exact ⟨condition, ⟨htype, earlier, later, hconditions, hearlier⟩, hstatus⟩

instance (conditions : List Condition) (type : String) :
    Decidable (FirstHolds conditions type) :=
  decidable_of_iff _ isTrue_iff

end Condition

namespace SchemaRequest

/-! ## Stored phases -/

section Stored

variable (request : SchemaRequest) (stored : Option SchemaPhase)

def storing : SchemaRequest :=
  { request with status := some { request.status.getD {} with phase := stored } }

@[simp] theorem storing_metadata :
    (request.storing stored).metadata = request.metadata := rfl

@[simp] theorem storing_spec : (request.storing stored).spec = request.spec := rfl

@[simp] theorem storing_conditions :
    (request.storing stored).conditions = request.conditions := by
  unfold storing conditions
  cases request.status <;> rfl

@[simp] theorem storing_storedPhase? :
    (request.storing stored).storedPhase? = stored := rfl

@[simp] theorem storing_storing (other : Option SchemaPhase) :
    (request.storing stored).storing other = request.storing other := rfl

@[simp] theorem storing_meets (condition : SchemaCondition) :
    (request.storing stored).meets condition = request.meets condition := by
  rw [meets, storing_conditions, meets]

end Stored

/-! ## One computation -/

section

variable {request : SchemaRequest} {kind : SchemaKind}

/-- Nothing ends a success. -/
def Lasting (request : SchemaRequest) : Prop :=
  request.metadata.deletionTimestamp = none ∧
    ¬ Condition.FirstHolds request.conditions "SecretAccessRequestExpired"

instance (request : SchemaRequest) : Decidable request.Lasting :=
  inferInstanceAs (Decidable (_ ∧ ¬ _))

theorem lasting_storing {stored : Option SchemaPhase} :
    (request.storing stored).Lasting ↔ request.Lasting := by
  simp only [Lasting, storing_metadata, storing_conditions]

theorem meets_expired_iff : request.meets .secretAccessRequestExpired = true ↔
    Condition.FirstHolds request.conditions "SecretAccessRequestExpired" :=
  Condition.isTrue_iff

theorem phase_of_deleted (deleted : request.metadata.deletionTimestamp ≠ none) :
    request.phase kind = .terminating := by
  rw [phase, if_pos (Option.isSome_iff_ne_none.2 deleted)]

theorem phase_of_expired (kept : request.metadata.deletionTimestamp = none)
    (expired : Condition.FirstHolds request.conditions
      "SecretAccessRequestExpired") : request.phase kind = .expired := by
  rw [phase, if_neg (by simp [kept]), if_pos (meets_expired_iff.2 expired)]

/-- The stored phase counts only if it is a success and nothing ends it. -/
theorem phase_eq_ite (request : SchemaRequest) (kind : SchemaKind) :
    request.phase kind =
      if request.storedPhase? = some .success ∧ request.Lasting then .success
      else (request.storing none).phase kind := by
  -- Deletion and expiry decide before the stored phase is looked at.
  by_cases kept : request.metadata.deletionTimestamp = none
  · by_cases expired : Condition.FirstHolds request.conditions
      "SecretAccessRequestExpired"
    · have hkept : (request.storing none).metadata.deletionTimestamp = none :=
        kept
      have hexpired : Condition.FirstHolds (request.storing none).conditions
          "SecretAccessRequestExpired" := by
        rwa [storing_conditions]
      rw [if_neg fun h => h.2.2 expired, phase_of_expired kept expired,
        phase_of_expired hkept hexpired]
    · have unexpired : request.meets .secretAccessRequestExpired = false :=
        Bool.eq_false_iff.2 (mt meets_expired_iff.1 expired)
      by_cases succeeded : request.storedPhase? = some .success
      · rw [if_pos ⟨succeeded, kept, expired⟩]
        simp [phase, kept, unexpired, succeeded]
      · rw [if_neg fun h => succeeded h.1]
        simp [phase, kept, unexpired, succeeded, createdPhase, restoresSnapshot]
  · have hdeleted : (request.storing none).metadata.deletionTimestamp ≠ none :=
      kept
    rw [if_neg fun h => kept h.2.1, phase_of_deleted kept,
      phase_of_deleted hdeleted]

theorem phase_of_success (succeeded : request.storedPhase? = some .success)
    (lasting : request.Lasting) : request.phase kind = .success := by
  rw [phase_eq_ite, if_pos ⟨succeeded, lasting⟩]

def recorded (request : SchemaRequest) (kind : SchemaKind) : SchemaRequest :=
  request.storing (some (request.phase kind))

theorem phase_recorded (request : SchemaRequest) (kind : SchemaKind) :
    (request.recorded kind).phase kind = request.phase kind := by
  by_cases success : request.phase kind = .success ∧ request.Lasting
  · rw [success.1]
    exact phase_of_success (congrArg some success.1)
      (lasting_storing.2 success.2)
  · -- The stored phase does not count, neither the former nor the new one.
    have hformer :
        ¬ (request.storedPhase? = some .success ∧ request.Lasting) :=
      fun ⟨succeeded, lasting⟩ =>
        success ⟨phase_of_success succeeded lasting, lasting⟩
    have hnew : ¬ ((request.recorded kind).storedPhase? = some .success ∧
        (request.recorded kind).Lasting) :=
      fun ⟨succeeded, lasting⟩ =>
        success ⟨Option.some.inj succeeded, lasting_storing.1 lasting⟩
    rw [phase_eq_ite (request.recorded kind), if_neg hnew,
      phase_eq_ite request, if_neg hformer, recorded, storing_storing]

end

/-! ## Computation after computation -/

/-- The request becomes like another one, except for the stored phase, and the
phase that it then has is stored. -/
def advance (kind : SchemaKind) (request changed : SchemaRequest) : SchemaRequest :=
  (changed.storing request.storedPhase?).recorded kind

def run (kind : SchemaKind) (start : SchemaRequest)
    (changes : List SchemaRequest) : SchemaRequest :=
  changes.foldl (advance kind) start

def phaseAfter (kind : SchemaKind) (start : SchemaRequest)
    (changes : List SchemaRequest) (next : SchemaRequest) : SchemaPhase :=
  (next.storing (run kind start changes).storedPhase?).phase kind

section

variable {kind : SchemaKind} {start : SchemaRequest}

theorem storedPhase?_advance_of_success {changed : SchemaRequest}
    (succeeded : start.storedPhase? = some .success)
    (lasting : changed.Lasting) :
    (advance kind start changed).storedPhase? = some .success := by
  rw [advance, recorded, storing_storedPhase?, succeeded,
    phase_of_success rfl (lasting_storing.2 lasting)]

theorem storedPhase?_run_of_success {changes : List SchemaRequest}
    (succeeded : start.storedPhase? = some .success)
    (lasting : ∀ change ∈ changes, change.Lasting) :
    (run kind start changes).storedPhase? = some .success := by
  induction changes generalizing start with
  | nil => exact succeeded
  | cons change rest ih =>
      rw [List.forall_mem_cons] at lasting
      exact ih (storedPhase?_advance_of_success succeeded lasting.1) lasting.2

/-- Storing the phase does not change it.  Once a success has been stored, the
phase is a success up to the change that ends it. -/
theorem recorded_phase_stays (kind : SchemaKind) :
    (∀ request : SchemaRequest,
      (request.recorded kind).phase kind = request.phase kind) ∧
    ∀ (start : SchemaRequest) (before lasting : List SchemaRequest),
      (run kind start before).storedPhase? = some .success →
      (∀ change ∈ lasting, change.metadata.deletionTimestamp = none ∧
        ¬ Condition.FirstHolds change.conditions "SecretAccessRequestExpired") →
      ∀ next : SchemaRequest,
        (next.metadata.deletionTimestamp ≠ none →
          phaseAfter kind start (before ++ lasting) next = .terminating) ∧
        (next.metadata.deletionTimestamp = none →
          Condition.FirstHolds next.conditions "SecretAccessRequestExpired" →
          phaseAfter kind start (before ++ lasting) next = .expired) ∧
        (next.metadata.deletionTimestamp = none →
          ¬ Condition.FirstHolds next.conditions "SecretAccessRequestExpired" →
          phaseAfter kind start (before ++ lasting) next = .success) := by
  refine ⟨fun request => request.phase_recorded kind, ?_⟩
  intro start before lasting succeeded hlasting next
  have hstored : (run kind start (before ++ lasting)).storedPhase? =
      some .success := by
    rw [run, List.foldl_append]
    exact storedPhase?_run_of_success succeeded hlasting
  unfold phaseAfter
  rw [hstored]
  refine ⟨fun deleted => phase_of_deleted deleted, ?_, ?_⟩
  · intro kept expired
    exact phase_of_expired kept (by rwa [storing_conditions])
  · intro kept unexpired
    exact phase_of_success rfl (lasting_storing.2 ⟨kept, unexpired⟩)

end

/-! ### A schema that is ignored and expires -/

def reporting (conditions : List String) : SchemaRequest where
  spec := {}
  status := some {
    conditions := conditions.map fun type => .make type true "" "" "" none }

/-- Once the database has been created, nothing but the expiry of the
credentials counts. -/
theorem ignored_phase_stays :
    (run .mySQL (reporting []) [reporting ["DatabaseCreated"]]).storedPhase? =
        some .success ∧
      phaseAfter .mySQL (reporting []) [reporting ["DatabaseCreated"],
        reporting ["SchemaIgnored"]] (reporting ["VaultNotReady"]) =
        .success ∧
      phaseAfter .mySQL (reporting []) [reporting ["DatabaseCreated"],
        reporting ["SchemaIgnored"]] (reporting ["SecretAccessRequestExpired"]) =
        .expired := by
  have hstored : (run .mySQL (reporting [])
      [reporting ["DatabaseCreated"]]).storedPhase? = some .success := rfl
  have hstays := (recorded_phase_stays .mySQL).2 (reporting [])
    [reporting ["DatabaseCreated"]] [reporting ["SchemaIgnored"]] hstored
    (by decide)
  refine ⟨hstored, ?_, ?_⟩
  · exact (hstays (reporting ["VaultNotReady"])).2.2 rfl (by decide)
  · exact (hstays (reporting ["SecretAccessRequestExpired"])).2.1 rfl
      (by decide)

end SchemaRequest
end AdmissionGate
