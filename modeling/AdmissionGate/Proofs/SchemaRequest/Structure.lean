import AdmissionGate.Proofs.Duration
import AdmissionGate.Proofs.Text.LowerCase
import AdmissionGate.SchemaRequest.Structure

/-!
# Well-formed schema requests

What it takes for a specification to be well formed, said without the errors
that are reported.  There are no errors exactly when it is.
-/

namespace AdmissionGate

/-! ## Well-formed parts -/

structure DatabaseConfig.WellFormed (lower : Text.LowerCase) (kind : SchemaKind)
    (config : DatabaseConfig) : Prop where
  named : config.name ≠ ""
  unreserved : lower.text config.name ∉ kind.reservedNames
  readOnly : ∀ flag, config.readOnly = some flag →
    kind = .mySQL ∧ (flag = 0 ∨ flag = 1)

def InitSpec.HasOneSource (init : InitSpec) : Prop :=
  init.script.isSome ∧ init.snapshot = none ∨
    init.script = none ∧ init.snapshot.isSome

structure AccessPolicy.WellFormed [Duration.Reader] (access : AccessPolicy) :
    Prop where
  inhabited : access.subjects ≠ []
  subjects : ∀ subject ∈ access.subjects, subject.kind ≠ "" ∧ subject.name ≠ ""
  defaultTtl : ∀ text, access.defaultTtl = some text →
    ∃ duration, Duration.Lasts text duration
  maxTtl : ∀ text, access.maxTtl = some text →
    ∃ duration, Duration.Lasts text duration
  ordered : ∀ text duration greatestText greatest,
    access.defaultTtl = some text → access.maxTtl = some greatestText →
    Duration.Lasts text duration → Duration.Lasts greatestText greatest →
    duration.nanos ≤ greatest.nanos

structure SchemaSpec.WellFormed [Duration.Reader] (lower : Text.LowerCase)
    (kind : SchemaKind) (spec : SchemaSpec) : Prop where
  database : spec.database.name ≠ ""
  vault : spec.vault.name ≠ ""
  config : spec.config.WellFormed lower kind
  init : ∀ init, spec.init = some init → init.HasOneSource
  access : spec.access.WellFormed

namespace SchemaSpec

/-! ## Times to live -/

section

variable [Duration.Reader]

theorem positiveTtl?_eq_some_iff {text : Option String} {duration : Duration} :
    positiveTtl? text = some duration ↔
      ∃ given, text = some given ∧ Duration.Lasts given duration := by
  simp only [positiveTtl?, Option.bind_eq_some_iff,
    Duration.positive?_eq_some_iff]

theorem ttlErrors_eq_nil_iff (path : String) (text : Option String) :
    ttlErrors path text = [] ↔
      ∀ given, text = some given →
        ∃ duration, Duration.Lasts given duration := by
  cases text with
  | none => exact ⟨nofun, fun _ => rfl⟩
  | some given =>
      simp only [ttlErrors, Duration.positiveErrors_eq_nil_iff_lasts,
        Option.some.injEq, forall_eq']

theorem ttlOrderErrors_eq_nil_iff (access : AccessPolicy) :
    ttlOrderErrors access = [] ↔
      ∀ duration greatest, positiveTtl? access.defaultTtl = some duration →
        positiveTtl? access.maxTtl = some greatest →
        duration.nanos ≤ greatest.nanos := by
  unfold ttlOrderErrors
  split
  · rename_i duration greatest hdefault hgreatest
    rw [hdefault, hgreatest]
    simp
  · rename_i hmissing
    refine ⟨fun _ duration greatest hdefault hgreatest => ?_, fun _ => rfl⟩
    exact absurd hgreatest (hmissing duration greatest hdefault)

end

/-! ## Subjects -/

theorem subjectErrors_eq_nil_iff (index : Nat) (subject : Subject) :
    subjectErrors index subject = [] ↔ subject.kind ≠ "" ∧ subject.name ≠ "" := by
  simp [subjectErrors]

theorem subjectsErrors_eq_nil_iff (index : Nat) (subjects : List Subject) :
    subjectsErrors index subjects = [] ↔
      ∀ subject ∈ subjects, subject.kind ≠ "" ∧ subject.name ≠ "" := by
  induction subjects generalizing index with
  | nil => exact ⟨fun _ => nofun, fun _ => rfl⟩
  | cons subject rest ih =>
      rw [subjectsErrors, List.append_eq_nil_iff, subjectErrors_eq_nil_iff,
        ih, List.forall_mem_cons]

theorem missingSubjectErrors_eq_nil_iff (spec : SchemaSpec) :
    spec.missingSubjectErrors = [] ↔ spec.access.subjects ≠ [] := by
  simp [missingSubjectErrors]

theorem accessErrors_eq_nil_iff [Duration.Reader] (spec : SchemaSpec) :
    (spec.missingSubjectErrors = [] ∧
      subjectsErrors 0 spec.access.subjects = [] ∧
      ttlErrors "spec.accessPolicy.defaultTTL" spec.access.defaultTtl = [] ∧
      ttlErrors "spec.accessPolicy.maxTTL" spec.access.maxTtl = [] ∧
      ttlOrderErrors spec.access = []) ↔ spec.access.WellFormed := by
  rw [missingSubjectErrors_eq_nil_iff, subjectsErrors_eq_nil_iff,
    ttlErrors_eq_nil_iff, ttlErrors_eq_nil_iff, ttlOrderErrors_eq_nil_iff]
  simp only [positiveTtl?_eq_some_iff]
  constructor
  · rintro ⟨hinhabited, hsubjects, hdefault, hgreatest, hordered⟩
    refine ⟨hinhabited, hsubjects, hdefault, hgreatest, ?_⟩
    intro text duration greatestText greatest htext hgreatestText hlasts hlasts'
    exact hordered duration greatest ⟨text, htext, hlasts⟩
      ⟨greatestText, hgreatestText, hlasts'⟩
  · intro wellFormed
    refine ⟨wellFormed.inhabited, wellFormed.subjects, wellFormed.defaultTtl,
      wellFormed.maxTtl, ?_⟩
    rintro duration greatest ⟨text, htext, hlasts⟩
      ⟨greatestText, hgreatestText, hlasts'⟩
    exact wellFormed.ordered text duration greatestText greatest htext
      hgreatestText hlasts hlasts'

/-! ## Settings -/

section

variable (kind : SchemaKind) (spec : SchemaSpec)

theorem databaseErrors_eq_nil_iff :
    spec.databaseErrors = [] ↔ spec.database.name ≠ "" := by
  simp [databaseErrors]

theorem vaultErrors_eq_nil_iff :
    spec.vaultErrors = [] ↔ spec.vault.name ≠ "" := by
  simp [vaultErrors]

theorem nameErrors_eq_nil_iff (lower : Text.LowerCase) :
    nameErrors kind spec = [] ↔ spec.config.name ≠ "" ∧
      lower.text spec.config.name ∉ kind.reservedNames := by
  rw [← kind.isReserved_iff lower, Bool.not_eq_true]
  by_cases hempty : spec.config.name = ""
  · simp [nameErrors, hempty]
  · cases hreserved : kind.isReserved spec.config.name <;>
      simp [nameErrors, hempty, hreserved]

theorem supportsReadOnly_iff : kind.supportsReadOnly = true ↔ kind = .mySQL := by
  simp [SchemaKind.supportsReadOnly]

theorem readOnlyErrors_eq_nil_iff :
    readOnlyErrors kind spec = [] ↔ ∀ flag, spec.config.readOnly = some flag →
      kind = .mySQL ∧ (flag = 0 ∨ flag = 1) := by
  unfold readOnlyErrors
  split
  · rename_i hunset
    simp [hunset]
  · rename_i flag hflag
    have hrange : (0 ≤ flag ∧ flag ≤ 1) ↔ (flag = 0 ∨ flag = 1) := by omega
    rw [hflag, ← supportsReadOnly_iff]
    cases kind.supportsReadOnly <;>
      simp [hrange, Decidable.or_iff_not_imp_left]

theorem initErrors_eq_nil_iff :
    spec.initErrors = [] ↔ ∀ init, spec.init = some init → init.HasOneSource := by
  unfold initErrors
  cases hinit : spec.init with
  | none => simp
  | some init =>
      obtain ⟨initialized, script, snapshot⟩ := init
      cases script <;> cases snapshot <;> simp [InitSpec.HasOneSource]

/-! ## The whole specification -/

variable [Duration.Reader]

theorem structureErrors_eq_nil_iff (lower : Text.LowerCase) :
    structureErrors kind spec = [] ↔ spec.WellFormed lower kind := by
  simp only [structureErrors, List.append_eq_nil_iff, and_assoc]
  rw [accessErrors_eq_nil_iff, databaseErrors_eq_nil_iff,
    vaultErrors_eq_nil_iff, nameErrors_eq_nil_iff kind spec lower,
    readOnlyErrors_eq_nil_iff, initErrors_eq_nil_iff]
  constructor
  · rintro ⟨hdatabase, hvault, ⟨hnamed, hunreserved⟩, hreadOnly, hinit, haccess⟩
    exact ⟨hdatabase, hvault, ⟨hnamed, hunreserved, hreadOnly⟩, hinit, haccess⟩
  · intro wellFormed
    have hconfig := wellFormed.config
    exact ⟨wellFormed.database, wellFormed.vault,
      ⟨hconfig.named, hconfig.unreserved⟩, hconfig.readOnly, wellFormed.init,
      wellFormed.access⟩

instance (lower : Text.LowerCase) : Decidable (spec.WellFormed lower kind) :=
  decidable_of_iff _ (structureErrors_eq_nil_iff kind spec lower)

end
end SchemaSpec
end AdmissionGate
