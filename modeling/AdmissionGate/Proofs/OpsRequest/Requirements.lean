import AdmissionGate.Proofs.Duration
import AdmissionGate.Proofs.OpsRequest.Creation
import Mathlib.Data.List.Nodup

/-!
# The operation of a request

The type of a request is a free text, and there is an optional section for every
operation.  A request that meets the requirements denotes one operation all the
same, and no section but that operation's is there.  Where the type names an
operation, every section that should not be there is reported once, and so is the
one that should.
-/

namespace AdmissionGate

/-! ## Names -/

namespace Operation

def GoesBy (operation : Operation) (text : String) : Prop :=
  text = operation.name ∨ operation = .updateVersion ∧ text = "Upgrade"

variable {operation other : Operation} {text : String}

theorem ofText?_eq_some_iff :
    ofText? text = some operation ↔ operation.GoesBy text := by
  constructor
  · intro h
    unfold ofText? at h
    split at h
    · rename_i hlegacy
      cases h
      exact .inr ⟨rfl, hlegacy⟩
    · have hname : operation.name == text := by
        simpa using List.find?_some h
      exact .inl (beq_iff_eq.1 hname).symm
  · rintro (rfl | ⟨rfl, rfl⟩)
    · exact ofText?_name operation
    · rfl

theorem GoesBy.unique (h : operation.GoesBy text) (h' : other.GoesBy text) :
    operation = other := by
  rw [← ofText?_eq_some_iff] at h h'
  exact Option.some_inj.1 (h.symm.trans h')

theorem GoesBy.ne_empty (h : operation.GoesBy text) : text ≠ "" := by
  rcases h with rfl | ⟨-, rfl⟩
  · cases operation <;> decide
  · decide

end Operation

def FieldError.ConcernsSection (error : FieldError) : Prop :=
  error.field ∈ Operation.all.map Operation.path

instance : DecidablePred FieldError.ConcernsSection := fun error =>
  inferInstanceAs (Decidable (error.field ∈ Operation.all.map Operation.path))

namespace OpsRequestSpec

variable (spec : OpsRequestSpec) (profile : Profile) {operation : Operation}

/-! ## Sections -/

def Gives : Operation → Prop
  | .updateVersion => spec.updateVersion ≠ none
  | .horizontalScaling => spec.horizontalScaling ≠ none
  | .verticalScaling => spec.verticalScaling ≠ none
  | .volumeExpansion => spec.volumeExpansion ≠ none
  | .restart => spec.restart ≠ none
  | .reconfigure => spec.configuration ≠ none
  | .reconfigureTls => spec.tls ≠ none
  | .rotateAuth => spec.authentication ≠ none

theorem hasSection_iff : spec.hasSection operation = true ↔ spec.Gives operation := by
  cases operation <;> exact Option.isSome_iff_ne_none

instance : DecidablePred spec.Gives := fun _ =>
  decidable_of_iff _ spec.hasSection_iff

theorem mem_populated : operation ∈ spec.populated ↔ spec.Gives operation := by
  have hordered : operation ∈ reportOrder := by cases operation <;> decide
  rw [populated, List.mem_filter, hasSection_iff, and_iff_right hordered]

theorem nodup_populated : spec.populated.Nodup :=
  List.Nodup.filter _ (by decide)

/-! ## Meaning -/

/-- The type names an operation that the engine has, and the section of that
operation is the only one there.  A restart may do without. -/
structure Denotes (operation : Operation) : Prop where
  named : operation.GoesBy spec.type
  supported : operation ∈ profile.operations
  given : operation ≠ .restart → spec.Gives operation
  alone : ∀ other, spec.Gives other → other = operation

structure WellFormed [Duration.Reader] : Prop where
  database : spec.database.name ≠ ""
  operation : ∃ operation, spec.Denotes profile operation
  timeout : ∀ text, spec.timeout = some text →
    ∃ duration, Duration.Lasts text duration

variable {spec profile}

theorem Denotes.unique {other : Operation} (h : spec.Denotes profile operation)
    (h' : spec.Denotes profile other) : operation = other :=
  h.named.unique h'.named

variable (spec profile)

/-! ## Parts -/

theorem operation?_eq_some_iff : spec.operation? profile = some operation ↔
    operation.GoesBy spec.type ∧ operation ∈ profile.operations := by
  rw [operation?, Option.filter_eq_some_iff, Operation.ofText?_eq_some_iff,
    Profile.supports, List.contains_iff_mem]

theorem typeErrors_eq_nil_iff : spec.typeErrors profile = [] ↔
    ∃ operation, spec.operation? profile = some operation := by
  unfold typeErrors
  split
  · rename_i hempty
    refine ⟨nofun, ?_⟩
    rintro ⟨operation, hoperation⟩
    have hnamed := ((spec.operation?_eq_some_iff profile).1 hoperation).1
    exact absurd (String.isEmpty_iff.1 hempty) hnamed.ne_empty
  · cases spec.operation? profile <;> simp

theorem missingSectionErrors_eq_nil_iff : spec.missingSectionErrors operation = [] ↔
    (operation ≠ .restart → spec.Gives operation) := by
  simp [missingSectionErrors, hasSection_iff, Decidable.or_iff_not_imp_left]

theorem foreignSectionErrors_eq_nil_iff : spec.foreignSectionErrors operation = [] ↔
    ∀ other, spec.Gives other → other = operation := by
  simp [foreignSectionErrors, List.filter_eq_nil_iff, mem_populated]

theorem denotes_iff : spec.Denotes profile operation ↔
    spec.operation? profile = some operation ∧ spec.sectionErrors operation = [] := by
  rw [operation?_eq_some_iff, sectionErrors, List.append_eq_nil_iff,
    missingSectionErrors_eq_nil_iff, foreignSectionErrors_eq_nil_iff]
  constructor
  · intro h
    exact ⟨⟨h.named, h.supported⟩, h.given, h.alone⟩
  · rintro ⟨⟨hnamed, hsupported⟩, hgiven, halone⟩
    exact ⟨hnamed, hsupported, hgiven, halone⟩

theorem timeoutErrors_eq_nil_iff [Duration.Reader] :
    spec.timeoutErrors = [] ↔
    ∀ text, spec.timeout = some text → ∃ duration, Duration.Lasts text duration := by
  unfold timeoutErrors
  cases spec.timeout with
  | none => exact ⟨nofun, fun _ => rfl⟩
  | some text =>
      simp only [Duration.positiveErrors_eq_nil_iff_lasts, Option.some.injEq,
        forall_eq']

theorem requirementErrors_eq_nil_iff [Duration.Reader] :
    spec.requirementErrors profile = [] ↔ spec.WellFormed profile := by
  have hdatabase : spec.databaseErrors = [] ↔ spec.database.name ≠ "" := by
    simp [databaseErrors]
  simp only [requirementErrors, List.append_eq_nil_iff, hdatabase,
    typeErrors_eq_nil_iff, timeoutErrors_eq_nil_iff]
  constructor
  · rintro ⟨⟨⟨hname, operation, hoperation⟩, hsection⟩, htimeout⟩
    rw [hoperation] at hsection
    exact ⟨hname, ⟨operation, (spec.denotes_iff profile).2 ⟨hoperation, hsection⟩⟩,
      htimeout⟩
  · rintro ⟨hname, ⟨operation, hdenotes⟩, htimeout⟩
    obtain ⟨hoperation, hsection⟩ := (spec.denotes_iff profile).1 hdenotes
    refine ⟨⟨⟨hname, operation, hoperation⟩, ?_⟩, htimeout⟩
    rw [hoperation]
    exact hsection

instance [Duration.Reader] : Decidable (spec.WellFormed profile) :=
  decidable_of_iff _ (spec.requirementErrors_eq_nil_iff profile)

variable {spec profile} in
theorem operation?_of_goesBy [Duration.Reader]
    (meets : spec.requirementErrors profile = [])
    (named : operation.GoesBy spec.type) : spec.operation? profile = some operation := by
  obtain ⟨found, hdenotes⟩ :=
    ((spec.requirementErrors_eq_nil_iff profile).1 meets).operation
  cases hdenotes.named.unique named
  exact ((spec.denotes_iff profile).1 hdenotes).1

/-! ## Errors about sections -/

inductive SectionFault (operation : Operation) : FieldError → Prop where
  | missing (needed : operation ≠ .restart) (absent : ¬ spec.Gives operation) :
      SectionFault operation (.required operation.path
        (operation.sectionName ++ " must be set for type " ++ operation.name))
  | foreign {other : Operation} (different : other ≠ operation)
      (present : spec.Gives other) :
      SectionFault operation (.forbidden other.path
        ("must not be set for type " ++ operation.name))

structure ReportsSections (operation : Operation) (errors : List FieldError) :
    Prop where
  faults : ∀ error, error ∈ errors ∧ error.ConcernsSection ↔
    spec.SectionFault operation error
  once : ((errors.filter (·.ConcernsSection)).map FieldError.field).Nodup

theorem mem_sectionErrors_iff {error : FieldError} :
    error ∈ spec.sectionErrors operation ↔ spec.SectionFault operation error := by
  simp only [sectionErrors, missingSectionErrors, foreignSectionErrors,
    List.mem_append, hasSection_iff]
  constructor
  · rintro (hmissing | hforeign)
    · split at hmissing
      · cases hmissing
      · rename_i hfault
        rw [List.mem_singleton.1 hmissing]
        exact .missing (fun h => hfault (.inl h)) fun h => hfault (.inr h)
    · obtain ⟨other, hother, rfl⟩ := List.mem_map.1 hforeign
      rw [List.mem_filter, mem_populated, bne_iff_ne] at hother
      exact .foreign hother.2 hother.1
  · intro hfault
    cases hfault with
    | missing needed absent =>
        rw [if_neg (by simp [needed, absent])]
        exact .inl (List.mem_singleton.2 rfl)
    | @foreign other different present =>
        refine .inr (List.mem_map.2 ⟨other, ?_, rfl⟩)
        rw [List.mem_filter, mem_populated, bne_iff_ne]
        exact ⟨present, different⟩

theorem nodup_field_sectionErrors :
    ((spec.sectionErrors operation).map FieldError.field).Nodup := by
  have hforeign : ((spec.foreignSectionErrors operation).map FieldError.field) =
      (spec.populated.filter (· != operation)).map Operation.path := by
    rw [foreignSectionErrors, List.map_map]
    rfl
  have hpopulated : (spec.populated.filter (· != operation)).Nodup :=
    spec.nodup_populated.filter _
  rw [sectionErrors, List.map_append, hforeign, missingSectionErrors]
  split
  · exact hpopulated.map Operation.path_injective
  · have hreported : (operation :: spec.populated.filter (· != operation)).Nodup :=
      List.nodup_cons.2 ⟨by simp, hpopulated⟩
    exact hreported.map Operation.path_injective

theorem SectionFault.concernsSection {error : FieldError}
    (h : spec.SectionFault operation error) : error.ConcernsSection := by
  cases h with
  | missing => exact List.mem_map_of_mem (Operation.mem_all _)
  | foreign => exact List.mem_map_of_mem (Operation.mem_all _)

theorem filter_requirementErrors [Duration.Reader]
    (h : spec.operation? profile = some operation) :
    (spec.requirementErrors profile).filter (·.ConcernsSection) =
      spec.sectionErrors operation := by
  -- The other requirements are about the database, the type and the timeout.
  have hdatabase : spec.databaseErrors.filter (·.ConcernsSection) = [] := by
    unfold databaseErrors
    split <;> rfl
  have htype : spec.typeErrors profile = [] :=
    (spec.typeErrors_eq_nil_iff profile).2 ⟨operation, h⟩
  have hsection : (spec.sectionErrors operation).filter (·.ConcernsSection) =
      spec.sectionErrors operation := by
    refine List.filter_eq_self.2 fun error herror => decide_eq_true ?_
    exact (spec.mem_sectionErrors_iff.1 herror).concernsSection
  have htimeout : spec.timeoutErrors.filter (·.ConcernsSection) = [] := by
    unfold timeoutErrors Duration.positiveErrors
    repeat' split
    all_goals rfl
  simp only [requirementErrors, h, htype, List.filter_append, hdatabase,
    htimeout, Option.map_some, Option.getD_some, hsection, List.nil_append,
    List.append_nil]

theorem reportsSections_requirementErrors [Duration.Reader]
    (h : spec.operation? profile = some operation) :
    spec.ReportsSections operation (spec.requirementErrors profile) := by
  have hsections := spec.filter_requirementErrors profile h
  constructor
  · intro error
    rw [← mem_sectionErrors_iff, ← hsections, List.mem_filter,
      decide_eq_true_iff]
  · rw [hsections]
    exact spec.nodup_field_sectionErrors

end OpsRequestSpec

/-! ## Admitted requests -/

namespace OpsRequest

/-- However durations and ranges are read, a request is well formed exactly if no
requirement is missed, and an admitted one denotes exactly one operation. -/
theorem denotes_one_operation [Duration.Reader] [Version.RangeReader]
    (engine : Engine) (request : OpsRequest) :
    (request.spec.requirementErrors engine.profile = [] ↔
      request.spec.WellFormed engine.profile) ∧
    (∀ operation : Operation, operation.GoesBy request.spec.type →
      operation ∈ engine.profile.operations →
      request.spec.ReportsSections operation
        (request.spec.requirementErrors engine.profile)) ∧
    ∀ (store : ObjectStore) (warnings : Warnings),
      request.validateCreate store engine = .ok warnings →
      ∃! operation, request.spec.Denotes engine.profile operation := by
  have hwellFormed := request.spec.requirementErrors_eq_nil_iff engine.profile
  refine ⟨hwellFormed, ?_, ?_⟩
  · intro operation hnamed hsupported
    apply OpsRequestSpec.reportsSections_requirementErrors
    exact (request.spec.operation?_eq_some_iff _).2 ⟨hnamed, hsupported⟩
  · intro store warnings admitted
    obtain ⟨database, -, hearly, -, -⟩ := validateCreate_eq_ok admitted
    have hrequirements := (List.append_eq_nil_iff.1 hearly).1
    obtain ⟨operation, hdenotes⟩ := (hwellFormed.1 hrequirements).operation
    exact ⟨operation, hdenotes, fun _ hother => hother.unique hdenotes⟩

/-! ### An update by its old name -/

def oldUpdate (restart : Option RestartSpec) : OpsRequest where
  spec := {
    database := ⟨"db"⟩
    type := "Upgrade"
    updateVersion := some ⟨"16.1"⟩
    restart }

def upToDate : ObjectStore := fun _ =>
  .ok ⟨none, {}, [("spec", .object [("version", .string "16.1")])]⟩

/-- The old name stands for an update, which can not be a restart too. -/
theorem oldUpdate_restarts_nothing :
    (∃! operation, (oldUpdate none).spec.Denotes Engine.postgres.profile
      operation) ∧
    FieldError.forbidden "spec.restart" "must not be set for type UpdateVersion" ∈
      (oldUpdate (some {})).spec.requirementErrors Engine.postgres.profile := by
  obtain ⟨-, -, hadmitted⟩ := denotes_one_operation .postgres (oldUpdate none)
  obtain ⟨-, hreported, -⟩ := denotes_one_operation .postgres (oldUpdate (some {}))
  refine ⟨hadmitted upToDate [] (by decide +kernel), ?_⟩
  have hpresent : (oldUpdate (some {})).spec.Gives .restart :=
    Option.some_ne_none _
  have hreports := hreported .updateVersion (.inr ⟨rfl, rfl⟩) (by decide)
  exact ((hreports.faults _).2 (.foreign (by decide) hpresent)).1

end OpsRequest
end AdmissionGate
