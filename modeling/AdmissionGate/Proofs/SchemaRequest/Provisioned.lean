import AdmissionGate.Proofs.SchemaRequest.Phase

/-!
# Provisioned schemas

A success is reported exactly when all that was asked for has been done and
nothing stands in its way, and from then on until it is ended.  A running schema
has its database, and its initialization has not come to an end.
-/

namespace AdmissionGate.SchemaRequest

/-! ## What the conditions show -/

section

variable (request : SchemaRequest) (kind : SchemaKind)

def Shows (type : String) : Prop :=
  Condition.FirstHolds request.conditions type

instance (type : String) : Decidable (request.Shows type) :=
  inferInstanceAs (Decidable (Condition.FirstHolds _ _))

def Restores : Prop :=
  ∃ init snapshot, request.spec.init = some init ∧
    init.snapshot = some snapshot

structure Cleared : Prop where
  heeded : ¬ request.Shows "SchemaIgnored"
  serverReady : ¬ request.Shows (kind.engine.kind ++ "NotReady")
  vaultReady : ¬ request.Shows "VaultNotReady"
  approved : request.Shows "SecretAccessRequestCreated" →
    request.Shows "SecretAccessRequestApproved"

structure Provisioned : Prop extends request.Cleared kind where
  created : request.Shows "DatabaseCreated"
  initialized : request.spec.init ≠ none →
    ¬ request.Shows "FailedInitializing" ∧ request.Shows "ScriptApplied"
  restored : request.Restores →
    ¬ request.Shows "FailedRestoring" ∧ request.Shows "RestoredFromRepository"

/-- The script comes first: until it has been applied, a failure to restore the
snapshot is not looked at. -/
structure Initializing : Prop extends request.Cleared kind where
  created : request.Shows "DatabaseCreated"
  requested : request.spec.init ≠ none
  unfailed : ¬ request.Shows "FailedInitializing"
  unfinished : ¬ request.Shows "ScriptApplied" ∨
    request.Restores ∧ ¬ request.Shows "FailedRestoring" ∧
      ¬ request.Shows "RestoredFromRepository"

end

section

variable {request : SchemaRequest} {kind : SchemaKind}

theorem meets_iff {condition : SchemaCondition} :
    request.meets condition = true ↔ request.Shows condition.type :=
  Condition.isTrue_iff

theorem restoresSnapshot_iff :
    request.restoresSnapshot = true ↔ request.Restores := by
  simp only [restoresSnapshot, Restores, Option.any_eq_true,
    Option.isSome_iff_exists, exists_and_left]

theorem isSome_init_iff :
    request.spec.init.isSome = true ↔ request.spec.init ≠ none :=
  Option.isSome_iff_ne_none

theorem Restores.requested (restores : request.Restores) :
    request.spec.init ≠ none := by
  obtain ⟨init, -, hinit, -⟩ := restores
  simp [hinit]

theorem unapproved_iff :
    (request.meets .secretAccessRequestCreated &&
        !request.meets .secretAccessRequestApproved) = true ↔
      ¬ (request.Shows "SecretAccessRequestCreated" →
        request.Shows "SecretAccessRequestApproved") := by
  have hcreated : request.meets .secretAccessRequestCreated = true ↔
      request.Shows "SecretAccessRequestCreated" := meets_iff
  have happroved : request.meets .secretAccessRequestApproved = true ↔
      request.Shows "SecretAccessRequestApproved" := meets_iff
  rw [Bool.and_eq_true, Bool.not_eq_true', ← Bool.not_eq_true, hcreated,
    happroved, Classical.not_imp]

/-! ## The way to the database -/

section

variable (kept : request.metadata.deletionTimestamp = none)
  (unexpired : ¬ request.Shows "SecretAccessRequestExpired")
  (unsettled : request.storedPhase? ≠ some .success)

include kept unexpired unsettled

theorem phase_cases (kind : SchemaKind) :
    request.Cleared kind ∧ request.phase kind =
        (if request.meets .databaseCreated then request.createdPhase
          else .waiting) ∨
      ¬ request.Cleared kind ∧
        (request.phase kind = .failed ∨ request.phase kind = .waiting) := by
  rw [phase, if_neg (by simp [kept]), if_neg (mt meets_iff.1 unexpired),
    if_neg unsettled]
  split
  · rename_i ignored
    exact .inr ⟨fun cleared => cleared.heeded (meets_iff.1 ignored), .inl rfl⟩
  rename_i heeded
  split
  · rename_i notReady
    exact .inr ⟨fun cleared =>
      cleared.serverReady (Condition.isTrue_iff.1 notReady), .inr rfl⟩
  rename_i serverReady
  split
  · rename_i notReady
    exact .inr ⟨fun cleared => cleared.vaultReady (meets_iff.1 notReady),
      .inr rfl⟩
  rename_i vaultReady
  split
  · rename_i pending
    refine .inr ⟨fun cleared => unapproved_iff.1 pending cleared.approved, ?_⟩
    split
    · exact .inl rfl
    · exact .inr rfl
  · rename_i settled
    have approved := Classical.not_not.1 (mt unapproved_iff.2 settled)
    exact .inl ⟨⟨fun ignored => heeded (meets_iff.2 ignored),
      fun notReady => serverReady (Condition.isTrue_iff.2 notReady),
      fun notReady => vaultReady (meets_iff.2 notReady), approved⟩, rfl⟩

end

/-! ## Once the database has been created -/

theorem createdPhase_eq_success_iff : request.createdPhase = .success ↔
    (request.spec.init ≠ none →
      ¬ request.Shows "FailedInitializing" ∧ request.Shows "ScriptApplied") ∧
    (request.Restores → ¬ request.Shows "FailedRestoring" ∧
      request.Shows "RestoredFromRepository") := by
  have hmeets := @meets_iff request
  grind [createdPhase, SchemaCondition.type, restoresSnapshot_iff,
    isSome_init_iff]

theorem createdPhase_eq_running_iff : request.createdPhase = .running ↔
    request.spec.init ≠ none ∧ ¬ request.Shows "FailedInitializing" ∧
      (¬ request.Shows "ScriptApplied" ∨
        request.Restores ∧ ¬ request.Shows "FailedRestoring" ∧
          ¬ request.Shows "RestoredFromRepository") := by
  have hmeets := @meets_iff request
  grind [createdPhase, SchemaCondition.type, restoresSnapshot_iff,
    isSome_init_iff, Restores.requested]

/-! ## The phase of a request that lasts -/

section

variable (kept : request.metadata.deletionTimestamp = none)
  (unexpired : ¬ request.Shows "SecretAccessRequestExpired")
  (unsettled : request.storedPhase? ≠ some .success)

include kept unexpired unsettled

theorem phase_eq_success_iff :
    request.phase kind = .success ↔ request.Provisioned kind := by
  rcases phase_cases kept unexpired unsettled kind with
    ⟨cleared, hphase⟩ | ⟨blocked, hphase⟩
  · rw [hphase]
    split
    · rename_i created
      rw [createdPhase_eq_success_iff]
      exact ⟨fun h => ⟨cleared, meets_iff.1 created, h.1, h.2⟩,
        fun h => ⟨h.initialized, h.restored⟩⟩
    · rename_i missing
      exact ⟨nofun, fun h => absurd (meets_iff.2 h.created) missing⟩
  · refine ⟨fun h => ?_, fun h => absurd h.toCleared blocked⟩
    rcases hphase with hphase | hphase <;> cases hphase.symm.trans h

theorem phase_eq_running_iff :
    request.phase kind = .running ↔ request.Initializing kind := by
  rcases phase_cases kept unexpired unsettled kind with
    ⟨cleared, hphase⟩ | ⟨blocked, hphase⟩
  · rw [hphase]
    split
    · rename_i created
      rw [createdPhase_eq_running_iff]
      exact ⟨fun h => ⟨cleared, meets_iff.1 created, h.1, h.2.1, h.2.2⟩,
        fun h => ⟨h.requested, h.unfailed, h.unfinished⟩⟩
    · rename_i missing
      exact ⟨nofun, fun h => absurd (meets_iff.2 h.created) missing⟩
  · refine ⟨fun h => ?_, fun h => absurd h.toCleared blocked⟩
    rcases hphase with hphase | hphase <;> cases hphase.symm.trans h

end

end

/-- A success is reported exactly for requests that last and either have been
successful before or are provisioned now.  Of the others, those run whose
database has been created and whose initialization goes on. -/
theorem success_iff_provisioned (kind : SchemaKind) (request : SchemaRequest) :
    (request.phase kind = .success ↔
      request.metadata.deletionTimestamp = none ∧
        ¬ request.Shows "SecretAccessRequestExpired" ∧
        (request.storedPhase? = some .success ∨ request.Provisioned kind)) ∧
    (request.phase kind = .running ↔
      request.metadata.deletionTimestamp = none ∧
        ¬ request.Shows "SecretAccessRequestExpired" ∧
        request.storedPhase? ≠ some .success ∧ request.Initializing kind) := by
  by_cases deleted : request.metadata.deletionTimestamp ≠ none
  · rw [phase_of_deleted deleted]
    exact ⟨⟨nofun, fun h => absurd h.1 deleted⟩,
      ⟨nofun, fun h => absurd h.1 deleted⟩⟩
  have kept := Classical.not_not.1 deleted
  by_cases expired : request.Shows "SecretAccessRequestExpired"
  · rw [phase_of_expired kept expired]
    exact ⟨⟨nofun, fun h => absurd expired h.2.1⟩,
      ⟨nofun, fun h => absurd expired h.2.1⟩⟩
  by_cases succeeded : request.storedPhase? = some .success
  · rw [phase_of_success succeeded ⟨kept, expired⟩]
    exact ⟨⟨fun _ => ⟨kept, expired, .inl succeeded⟩, fun _ => rfl⟩,
      ⟨nofun, fun h => absurd succeeded h.2.2.1⟩⟩
  · rw [phase_eq_success_iff kept expired succeeded,
      phase_eq_running_iff kept expired succeeded]
    exact ⟨⟨fun h => ⟨kept, expired, .inr h⟩,
        fun h => h.2.2.resolve_left succeeded⟩,
      ⟨fun h => ⟨kept, expired, succeeded, h⟩, fun h => h.2.2.2⟩⟩

/-! ### A snapshot that can not be restored -/

def failingRestore : SchemaRequest :=
  { reporting ["DatabaseCreated", "FailedRestoring"] with
    spec := { init := some { snapshot := some {} } } }

/-- The failure is not seen, for no script has been applied. -/
theorem failingRestore_running :
    failingRestore.storedPhase? ≠ some .success ∧
      failingRestore.phase .mySQL = .running ∧
      failingRestore.Restores ∧ failingRestore.Shows "FailedRestoring" :=
  ⟨nofun, by decide, ⟨_, _, rfl, rfl⟩, by decide⟩

end AdmissionGate.SchemaRequest
