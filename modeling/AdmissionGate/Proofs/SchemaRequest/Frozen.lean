import AdmissionGate.Proofs.SchemaRequest.Phase
import AdmissionGate.Proofs.SchemaRequest.Structure
import AdmissionGate.SchemaRequest.Admission

/-!
# Frozen parts of schema requests

What one update must keep of a request that somebody acts on is kept by any
number of them, one after the other.
-/

namespace AdmissionGate

/-! ## What is kept -/

def InitSpec.Kept (earlier later : Option InitSpec) : Prop :=
  ∀ init, earlier = some init →
    ∃ kept, later = some kept ∧ kept.script = init.script ∧
      kept.snapshot = init.snapshot ∧
      (init.initialized = false → kept.initialized = false)

theorem InitSpec.Kept.refl (init : Option InitSpec) : Kept init init :=
  fun init h => ⟨init, h, rfl, rfl, id⟩

theorem InitSpec.Kept.trans {first second third : Option InitSpec}
    (h : Kept first second) (h' : Kept second third) : Kept first third := by
  intro init hinit
  obtain ⟨kept, hkept, hscript, hsnapshot, hundone⟩ := h init hinit
  obtain ⟨last, hlast, hscript', hsnapshot', hundone'⟩ := h' kept hkept
  exact ⟨last, hlast, hscript'.trans hscript, hsnapshot'.trans hsnapshot,
    hundone' ∘ hundone⟩

structure SchemaSpec.Keeps (earlier later : SchemaSpec) : Prop where
  database : later.database = earlier.database
  vault : later.vault = earlier.vault
  access : later.access = earlier.access
  init : InitSpec.Kept earlier.init later.init

@[refl] theorem SchemaSpec.Keeps.refl (spec : SchemaSpec) : spec.Keeps spec :=
  ⟨rfl, rfl, rfl, .refl _⟩

theorem SchemaSpec.Keeps.trans {first second third : SchemaSpec}
    (h : first.Keeps second) (h' : second.Keeps third) : first.Keeps third where
  database := h'.database.trans h.database
  vault := h'.vault.trans h.vault
  access := h'.access.trans h.access
  init := h.init.trans h'.init

namespace SchemaRequest

/-- Somebody acts on the request and has put a finalizer on it. -/
def Finalized (request : SchemaRequest) : Prop :=
  ∃ finalizer others, request.metadata.finalizers = some (finalizer :: others)

def DatabaseCreated (request : SchemaRequest) : Prop :=
  Condition.FirstHolds request.conditions "DatabaseCreated"

/-! ## One update -/

section

variable {old new : SchemaRequest} {kind : SchemaKind} {warnings : Warnings}

theorem hasFinalizers_iff :
    old.metadata.hasFinalizers = true ↔ old.Finalized := by
  unfold Metadata.hasFinalizers Finalized
  cases old.metadata.finalizers with
  | none => simp
  | some finalizers => cases finalizers <;> simp

theorem frozenErrors_eq_nil_iff {Part : Type} [DecidableEq Part]
    (path detail : String) (old new : Part) :
    frozenErrors path detail old new = [] ↔ new = old := by
  simp [frozenErrors, eq_comm]

theorem sameSource_iff {init next : InitSpec} : init.sameSource next = true ↔
    next.script = init.script ∧ next.snapshot = init.snapshot := by
  rw [InitSpec.sameSource, Bool.and_eq_true, beq_iff_eq, beq_iff_eq,
    eq_comm (a := init.script), eq_comm (a := init.snapshot)]

theorem initChangeErrors_eq_nil_iff (old new : Option InitSpec) :
    (initSourceErrors old new = [] ∧ initializedErrors old new = []) ↔
      InitSpec.Kept old new := by
  cases old with
  | none => exact ⟨fun _ => nofun, fun _ => ⟨rfl, rfl⟩⟩
  | some init =>
      cases new with
      | none => simp [initSourceErrors, InitSpec.Kept]
      | some next =>
          have hundone : initializedErrors (some init) (some next) = [] ↔
              (init.initialized = false → next.initialized = false) := by
            cases hinit : init.initialized <;> simp [initializedErrors, hinit]
          rw [hundone]
          simp [initSourceErrors, InitSpec.Kept, sameSource_iff, and_assoc]

theorem nameChangeErrors_eq_nil_iff (old new : SchemaRequest) :
    nameChangeErrors old new = [] ↔
      (old.DatabaseCreated → new.spec.config.name = old.spec.config.name) := by
  have hcreated : old.meets .databaseCreated = true ↔ old.DatabaseCreated :=
    Condition.isTrue_iff
  unfold nameChangeErrors
  split
  · rename_i hmeets
    rw [frozenErrors_eq_nil_iff]
    exact ⟨fun h _ => h, fun h => h (hcreated.1 hmeets)⟩
  · rename_i hmeets
    exact ⟨fun _ created => absurd (hcreated.2 created) hmeets, fun _ => rfl⟩

theorem updateErrors_eq_nil_iff (old new : SchemaRequest) :
    updateErrors old new = [] ↔
      (old.Finalized → old.spec.Keeps new.spec ∧
        (old.DatabaseCreated → new.spec.config.name = old.spec.config.name)) := by
  unfold updateErrors
  split
  · rename_i hfinalizers
    have finalized := hasFinalizers_iff.1 hfinalizers
    simp only [List.append_eq_nil_iff, and_assoc, frozenErrors_eq_nil_iff]
    rw [← and_assoc (a := initSourceErrors _ _ = []), initChangeErrors_eq_nil_iff,
      nameChangeErrors_eq_nil_iff]
    constructor
    · rintro ⟨hdatabase, hvault, haccess, hinit, hname⟩ -
      exact ⟨⟨hdatabase, hvault, haccess, hinit⟩, hname⟩
    · intro h
      obtain ⟨hkeeps, hname⟩ := h finalized
      exact ⟨hkeeps.database, hkeeps.vault, hkeeps.access, hkeeps.init, hname⟩
  · rename_i hfinalizers
    exact ⟨fun _ finalized => absurd (hasFinalizers_iff.2 finalized) hfinalizers,
      fun _ => rfl⟩

theorem conclude_eq_ok {request : SchemaRequest} {errors : List FieldError} :
    request.conclude kind errors = .ok warnings ↔ errors = [] ∧ warnings = [] := by
  unfold conclude
  cases errors <;> simp [eq_comm]

theorem validateUpdate_eq_ok [Duration.Reader] :
    old.validateUpdate new kind = .ok warnings ↔ updateErrors old new = [] ∧
      SchemaSpec.structureErrors kind new.spec = [] ∧ warnings = [] := by
  unfold validateUpdate
  split
  · rename_i hkept
    rw [conclude_eq_ok, hkept]
    simp
  · rename_i hchanged
    exact ⟨nofun, fun h => absurd h.1 hchanged⟩

end

/-! ## Updates one after the other -/

/-- What becomes of a request by updates that are admitted.  Metadata and status
change as they please, but what is updated has a property each time. -/
inductive Updates [Duration.Reader] (kind : SchemaKind)
    (property : SchemaRequest → Prop) (start : SchemaRequest) :
    SchemaRequest → Prop where
  | start : Updates kind property start start
  | touched {current : SchemaRequest}
      (updates : Updates kind property start current) (metadata : Metadata)
      (status : Option SchemaStatus) :
      Updates kind property start { current with metadata, status }
  | updated {current next : SchemaRequest} {warnings : Warnings}
      (updates : Updates kind property start current)
      (holds : property current)
      (admitted : current.validateUpdate next kind = .ok warnings) :
      Updates kind property start next

theorem Updates.invariant [Duration.Reader] (invariant : SchemaSpec → Prop)
    {kind : SchemaKind} {property : SchemaRequest → Prop}
    {start final : SchemaRequest}
    (base : invariant start.spec)
    (step : ∀ {old new : SchemaRequest}, property old →
      updateErrors old new = [] →
      SchemaSpec.structureErrors kind new.spec = [] →
      invariant old.spec → invariant new.spec)
    (updates : Updates kind property start final) : invariant final.spec := by
  induction updates with
  | start => exact base
  | touched _ metadata status ih => exact ih
  | updated _ holds admitted ih =>
      obtain ⟨hkept, hstructure, -⟩ := validateUpdate_eq_ok.1 admitted
      exact step holds hkept hstructure ih

/-- As long as somebody acts on a request at each update, what is frozen stays
from the first to the last; and so does the name of the database if it has been
created at each of them. -/
theorem updates_keep_frozen [Duration.Reader] (kind : SchemaKind) :
    (∀ start final : SchemaRequest, Updates kind Finalized start final →
      final.spec.database = start.spec.database ∧
      final.spec.vault = start.spec.vault ∧
      final.spec.access = start.spec.access ∧
      ∀ init, start.spec.init = some init →
        ∃ kept, final.spec.init = some kept ∧ kept.script = init.script ∧
          kept.snapshot = init.snapshot ∧
          (init.initialized = false → kept.initialized = false)) ∧
    ∀ start final : SchemaRequest,
      Updates kind (fun old => old.Finalized ∧ old.DatabaseCreated) start final →
      final.spec.config.name = start.spec.config.name := by
  constructor
  · intro start final updates
    have hkeeps : start.spec.Keeps final.spec := by
      refine Updates.invariant start.spec.Keeps (.refl _) ?_ updates
      intro old new finalized kept _ hkeeps
      exact hkeeps.trans ((updateErrors_eq_nil_iff old new).1 kept finalized).1
    exact ⟨hkeeps.database, hkeeps.vault, hkeeps.access, hkeeps.init⟩
  · intro start final updates
    refine Updates.invariant
      (fun spec => spec.config.name = start.spec.config.name) rfl ?_ updates
    rintro old new ⟨finalized, created⟩ kept _ hname
    have hsame := ((updateErrors_eq_nil_iff old new).1 kept finalized).2 created
    exact hsame.trans hname

/-! ### A schema that was created -/

/-- A schema with a script that has not been run, whose database exists. -/
def application (vault : String) (policy : DeletionPolicy) : SchemaRequest where
  metadata := { finalizers := some ["schema.kubedb.com"] }
  spec := {
    database := ⟨"db", none⟩
    vault := ⟨vault, none⟩
    config := { name := "app" }
    access := {
      subjects := [{ kind := "User", name := "ann" }]
      defaultTtl := some "1h"
      maxTtl := some "90 m" }
    init := some { script := some { scriptPath := some "/init" } }
    deletionPolicy := policy }
  status := some {
    conditions := [.make "DatabaseCreated" true "" "" "" none] }

/-- Its deletion can be forbidden.  Its vault can not be changed, by however many
updates. -/
theorem application_keeps_frozen :
    Updates .mySQL (fun old => old.Finalized ∧ old.DatabaseCreated)
        (application "vault" .delete) (application "vault" .doNotDelete) ∧
      (application "vault" .doNotDelete).spec.config.name =
        (application "vault" .delete).spec.config.name ∧
      ¬ Updates .mySQL Finalized (application "vault" .delete)
        (application "other" .delete) := by
  have hfinalized : ∀ policy, (application "vault" policy).Finalized :=
    fun _ => ⟨_, _, rfl⟩
  have hcreated : ∀ policy, (application "vault" policy).DatabaseCreated :=
    fun _ => Condition.isTrue_iff.1 rfl
  have hadmitted : (application "vault" .delete).validateUpdate
      (application "vault" .doNotDelete) .mySQL = .ok [] :=
    validateUpdate_eq_ok.2 ⟨by decide, by decide +kernel, rfl⟩
  have hforbidden : Updates .mySQL
      (fun old => old.Finalized ∧ old.DatabaseCreated)
      (application "vault" .delete) (application "vault" .doNotDelete) :=
    .updated .start ⟨hfinalized _, hcreated _⟩ hadmitted
  refine ⟨hforbidden, (updates_keep_frozen .mySQL).2 _ _ hforbidden, ?_⟩
  intro updates
  have hvault := ((updates_keep_frozen .mySQL).1 _ _ updates).2.1
  exact absurd hvault (by decide)

end SchemaRequest
end AdmissionGate
