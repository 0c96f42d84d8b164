import AdmissionGate.Proofs.OpsRequest.Mechanism
import AdmissionGate.Proofs.OpsRequest.Reference
import AdmissionGate.Proofs.OpsRequest.Requirements

/-!
# One change of the configuration

A request for a new configuration uses one of three mechanisms, and the mechanism
needs something to work with: a removal needs a custom configuration, a secret has to
exist.  Where several are requested, that is all a rejection speaks of.
-/

namespace AdmissionGate
namespace ReconfigureRule

open ReconfigureSpec

/-- One mechanism is requested and has what it needs, where these are the secrets
that exist. -/
structure Admits (database : Database) (Held : String → Prop)
    (spec : ReconfigureSpec) : Prop where
  single : ∃! mechanism, spec.Requests mechanism
  removable : spec.Requests .removal → ∃ secret,
    database.spec.configSecret = some secret ∧ secret.name ≠ ""
  found : ∀ secret, spec.configSecret = some secret →
    secret.name ≠ "" ∧ Held secret.name

theorem Admits.mono {database : Database} {Held Found : String → Prop}
    {spec : ReconfigureSpec} (admits : Admits database Held spec)
    (implies : ∀ name, name ≠ "" → Held name → Found name) :
    Admits database Found spec where
  single := admits.single
  removable := admits.removable
  found secret hsecret := by
    obtain ⟨hname, hheld⟩ := admits.found secret hsecret
    exact ⟨hname, implies _ hname hheld⟩

def severalRequested (spec : ReconfigureSpec) : FieldError :=
  .forbidden "spec.configuration"
    ("more than one operation requested (" ++
      ", ".intercalate ((Mechanism.all.filter spec.requests).map Mechanism.name) ++
      "); only one of removeCustomConfig, applyConfig or configSecret can be set")

/-! ## Checks -/

section

variable {context : RuleContext} {spec : ReconfigureSpec}

theorem removalErrors_eq_nil_iff : removalErrors context spec = [] ↔
    (spec.Requests .removal → ∃ secret,
      context.database.spec.configSecret = some secret ∧ secret.name ≠ "") := by
  have hremoves : spec.removes = true ↔ spec.Requests .removal :=
    @requests_iff spec .removal
  have hcustom : context.database.hasCustomConfig = true ↔ ∃ secret,
      context.database.spec.configSecret = some secret ∧ secret.name ≠ "" := by
    simp [Database.hasCustomConfig, Option.any_eq_true]
  rw [← hremoves, ← hcustom, removalErrors]
  simp

theorem secretErrors_eq_nil_iff {secret : LocalReference} :
    secretErrors context secret = [] ↔
      secret.name ≠ "" ∧ context.collaborators.hasSecret secret.name = true := by
  unfold secretErrors
  by_cases hname : secret.name = ""
  · simp [hname]
  · simp [hname]

theorem sectionErrors_eq_nil_iff : sectionErrors context spec = [] ↔
    Admits context.database (context.collaborators.hasSecret · = true) spec := by
  have hsecret : (spec.configSecret.map (secretErrors context)).getD [] = [] ↔
      ∀ secret, spec.configSecret = some secret →
        secret.name ≠ "" ∧ context.collaborators.hasSecret secret.name = true := by
    cases spec.configSecret with
    | none => simp
    | some secret => simp [secretErrors_eq_nil_iff]
  have hsingle := @exists_mechanisms_eq_singleton_iff spec
  unfold sectionErrors
  split
  · rename_i hnone
    rw [hnone] at hsingle
    refine ⟨nofun, fun admits => ?_⟩
    obtain ⟨name, hname⟩ := hsingle.2 admits.single
    cases hname
  · rename_i name hone
    rw [List.append_eq_nil_iff, removalErrors_eq_nil_iff, hsecret]
    have single := hsingle.1 ⟨name, hone⟩
    exact ⟨fun ⟨removable, found⟩ => ⟨single, removable, found⟩,
      fun admits => ⟨admits.removable, admits.found⟩⟩
  · rename_i hnone hone
    refine ⟨nofun, fun admits => ?_⟩
    obtain ⟨name, hname⟩ := hsingle.2 admits.single
    exact absurd hname (hone name)

theorem errors_eq_nil_iff : errors context = [] ↔ ∃ spec,
    context.spec.configuration = some spec ∧
      Admits context.database (context.collaborators.hasSecret · = true) spec := by
  cases hsection : context.spec.configuration with
  | none => simp [errors, hsection]
  | some spec => simp [errors, hsection, sectionErrors_eq_nil_iff]

theorem errors_of_several (hsection : context.spec.configuration = some spec)
    {first second : Mechanism} (different : first ≠ second)
    (hfirst : spec.Requests first) (hsecond : spec.Requests second) :
    errors context = [severalRequested spec] := by
  rw [← requests_iff] at hfirst hsecond
  obtain ⟨text, next, rest, hnames⟩ :=
    @exists_map_filter_eq_cons_cons _ _ _ Mechanism.name Mechanism.mem_all _ _
      different hfirst hsecond
  rw [errors, hsection]
  dsimp only
  rw [sectionErrors, severalRequested, mechanisms_eq, hnames]
  rfl

end

end ReconfigureRule

/-! ## Creation -/

namespace OpsRequest

open ReconfigureRule

variable {request : OpsRequest} {store : ObjectStore} {engine : Engine}

theorem heldDatabase?_of_database? (responsive : store.Responsive)
    {database : Database} (hname : request.spec.database.name ≠ "")
    (found : store.database? engine request.metadata.namespaceText
      request.spec.database.name = .ok (some database)) :
    request.heldDatabase? store engine = some database := by
  rw [responsive.database? _ _ hname] at found
  exact Except.ok.inj found

theorem admits_heldAnswers_iff (responsive : store.Responsive) {database : Database}
    {spec : ReconfigureSpec} :
    Admits database
      ((request.heldAnswers store engine database).hasSecret · = true) spec ↔
    Admits database
      (store.hasSecret request.metadata.namespaceText · = .ok true) spec := by
  have hagree (name : String) (hname : name ≠ "") :
      (request.heldAnswers store engine database).hasSecret name = true ↔
        store.hasSecret request.metadata.namespaceText name = .ok true := by
    rw [responsive.hasSecret _ hname, Except.ok.injEq]
    rfl
  constructor
  · exact fun admits => admits.mono fun name hname => (hagree name hname).1
  · exact fun admits => admits.mono fun name hname => (hagree name hname).2

/-- A change of the configuration that meets the requirements is admitted exactly if
it uses one mechanism that has what it needs.  Where it uses several, it is rejected
for nothing else. -/
theorem one_mechanism_applied (request : OpsRequest) (store : ObjectStore)
    (engine : Engine) (database : Database) (responsive : store.Responsive)
    (named : request.spec.type = "Reconfigure")
    (meets : request.spec.requirementErrors engine.profile = [])
    (found : store.database? engine request.metadata.namespaceText
      request.spec.database.name = .ok (some database)) :
    ((∃ warnings, request.validateCreate store engine = .ok warnings) ↔ ∃ spec,
      request.spec.configuration = some spec ∧
        Admits database
          (store.hasSecret request.metadata.namespaceText · = .ok true) spec) ∧
    ∀ spec first second, request.spec.configuration = some spec → first ≠ second →
      spec.Requests first → spec.Requests second →
      request.validateCreate store engine =
        .error (.invalid (request.rejection engine [severalRequested spec])) := by
  have hname : request.spec.database.name ≠ "" :=
    ((request.spec.requirementErrors_eq_nil_iff _).1 meets).database
  have hoperation : request.spec.operation? engine.profile = some .reconfigure :=
    OpsRequestSpec.operation?_of_goesBy meets (.inl named)
  rw [validateCreate_of_meets responsive meets hoperation
    (heldDatabase?_of_database? responsive hname found)]
  constructor
  · simp only [conclude_eq_ok, exists_and_left, exists_eq, and_true]
    refine errors_eq_nil_iff.trans (exists_congr fun spec => ?_)
    exact and_congr_right fun _ => admits_heldAnswers_iff responsive
  · intro spec first second hsection different hfirst hsecond
    rw [Operation.ruleErrors, errors_of_several ?_ different hfirst hsecond]
    · rfl
    · exact hsection

/-! ### Settings and nothing else -/

def reconfiguration (spec : ReconfigureSpec) : OpsRequest where
  spec := {
    database := ⟨"db"⟩
    type := "Reconfigure"
    configuration := some spec }

/-- Of the secrets there is one; of everything else there is all. -/
def settingsOnly : ObjectStore := fun key =>
  if key.resource = .secret ∧ key.name ≠ "settings" then .error key.notFound
  else .ok ⟨none, {}, []⟩

theorem responsive_settingsOnly : settingsOnly.Responsive := by
  have hfound {key : ObjectKey} {object : Object}
      (found : settingsOnly key = .ok object) : object = ⟨none, {}, []⟩ := by
    unfold settingsOnly at found
    split at found
    · cases found
    · exact (Except.ok.inj found).symm
  refine ⟨fun key => ?_, fun found => ?_, fun found => ?_⟩
  · unfold settingsOnly
    split
    · exact .inr ⟨_, _, rfl⟩
    · exact .inl ⟨_, rfl⟩
  · rw [hfound found]
    rfl
  · rw [hfound found]
    rfl

/-- A secret has to exist, except where it is one thing too many. -/
theorem settings_applied :
    (∃ warnings, (reconfiguration { configSecret := some ⟨"settings"⟩ }).validateCreate
      settingsOnly .postgres = .ok warnings) ∧
    (∀ name, name ≠ "settings" → ¬ ∃ warnings,
      (reconfiguration { configSecret := some ⟨name⟩ }).validateCreate
        settingsOnly .postgres = .ok warnings) ∧
    ∀ secret, (reconfiguration {
        configSecret := some secret, removeCustomConfig := some true }).validateCreate
      settingsOnly .postgres =
        .error (.invalid ⟨"ops.kubedb.com", "PostgresOpsRequest", "",
          [.forbidden "spec.configuration"
            ("more than one operation requested (removeCustomConfig, configSecret); " ++
              "only one of removeCustomConfig, applyConfig or configSecret can be set")]⟩) := by
  obtain ⟨database, hdatabase⟩ : ∃ database,
      settingsOnly.database? .postgres "" "db" = .ok (some database) := ⟨_, rfl⟩
  have hsettled (spec : ReconfigureSpec) := one_mechanism_applied
    (reconfiguration spec) settingsOnly .postgres database responsive_settingsOnly
    rfl rfl hdatabase
  refine ⟨?_, fun name hname h => ?_, fun secret => ?_⟩
  · refine (hsettled _).1.2 ⟨_, rfl, ?_, fun hremoval => ?_, ?_⟩
    · refine ⟨.secret, Option.some_ne_none _, fun mechanism hrequested => ?_⟩
      cases mechanism with
      | removal => cases hrequested
      | files =>
          obtain ⟨files, hfiles, -⟩ := hrequested
          cases hfiles
      | secret => rfl
    · cases hremoval
    · intro secret hsecret
      cases hsecret
      exact ⟨by decide, rfl⟩
  · obtain ⟨spec, hspec, admits⟩ := (hsettled _).1.1 h
    cases hspec
    obtain ⟨-, hfound⟩ := admits.found ⟨name⟩ rfl
    simp [settingsOnly, ObjectStore.hasSecret, ObjectStore.find?, ObjectKey.secret,
      ObjectKey.notFound, hname, Except.map] at hfound
  · let spec : ReconfigureSpec :=
      { configSecret := some secret, removeCustomConfig := some true }
    have hsecret : spec.Requests .secret := Option.some_ne_none _
    exact (hsettled spec).2 spec .removal .secret rfl (by decide) rfl hsecret

end OpsRequest
end AdmissionGate
