import AdmissionGate.Proofs.OpsRequest.Creation
import AdmissionGate.Proofs.Rule.Questions
import AdmissionGate.Proofs.Store.Memory

/-!
# The reference procedure

A creation fetches the few objects that the rule of its operation may ask about
before it runs the rule.  The reference procedure fetches nothing and lets the
rule ask the whole store.  On a store that answers, both come to the same.
-/

namespace AdmissionGate.OpsRequest

/-! ## The procedure -/

section Procedure

variable (request : OpsRequest) (store : ObjectStore) (engine : Engine)

def heldDatabase? : Option Database :=
  store.held? Database.codec
    (.database engine request.metadata.namespaceText request.spec.database.name)

def heldAnswers (database : Database) : Answers where
  target := request.spec.updateVersion.bind fun spec =>
    store.held? CatalogVersion.codec (.version engine spec.targetVersion)
  current :=
    store.held? CatalogVersion.codec (.version engine database.spec.version)
  hasSecret := store.holdsSecret request.metadata.namespaceText

def referenceErrors : List FieldError :=
  let database := request.heldDatabase? store engine
  let missing :=
    if request.spec.database.name ≠ "" ∧ database = none then
      [request.missingDatabase engine]
    else []
  match request.spec.requirementErrors engine.profile ++ missing,
    request.spec.operation? engine.profile, database with
  | [], some operation, some database =>
      operation.ruleErrors {
        request, database, profile := engine.profile
        collaborators := request.heldAnswers store engine database }
  | errors, _, _ => errors

def referenceCreate : Verdict :=
  request.conclude engine (request.referenceErrors store engine)

end Procedure

/-! ## What is fetched -/

section Fetched

variable {request : OpsRequest} {store : ObjectStore} {engine : Engine}

theorem database?_of_responsive (responsive : store.Responsive) :
    request.database? store engine =
      .ok (request.heldDatabase? store engine) := by
  unfold database? heldDatabase?
  by_cases hname : request.spec.database.name = ""
  · rw [ObjectStore.held?_of_empty hname]
    simp [hname]
  · rw [responsive.database? _ _ hname]
    simp [hname]

theorem catalogVersion?_of_responsive (responsive : store.Responsive)
    (name : String) :
    catalogVersion? store engine name =
      .ok (store.held? CatalogVersion.codec (.version engine name)) := by
  unfold catalogVersion?
  by_cases hname : name = ""
  · rw [ObjectStore.held?_of_empty hname]
    simp [hname]
  · rw [responsive.version? _ hname]
    simp [hname]

theorem secretEntry_of_responsive (responsive : store.Responsive)
    (namespaceName : String) (secret : Option LocalReference) :
    ∃ secrets, secretEntry store namespaceName secret = .ok secrets ∧
      ∀ named, secret = some named → named.name ≠ "" →
        Collaborators.hasSecret { secrets } named.name =
          store.holdsSecret namespaceName named.name := by
  cases secret with
  | none =>
      refine ⟨.empty, rfl, ?_⟩
      intro named hnamed
      cases hnamed
  | some secret =>
      by_cases hname : secret.name = ""
      · refine ⟨.empty, by simp [secretEntry, hname], ?_⟩
        intro named hnamed hpresent
        cases hnamed
        exact absurd hname hpresent
      · refine ⟨.singleton secret.name
          (store.holdsSecret namespaceName secret.name), ?_, ?_⟩
        · simp [secretEntry, hname, responsive.hasSecret, Except.map]
        · intro named hnamed _
          cases hnamed
          simp [Collaborators.hasSecret, Dict.find?, Dict.singleton, lookUp?]

theorem target_of_responsive (request : OpsRequest) (engine : Engine)
    (responsive : store.Responsive) (database : Database) :
    catalogVersion? store engine ((request.spec.updateVersion.map
        UpdateVersionSpec.targetVersion).getD "") =
      .ok (request.heldAnswers store engine database).target := by
  rw [catalogVersion?_of_responsive responsive]
  cases hspec : request.spec.updateVersion with
  | none => simp [heldAnswers, hspec, ObjectStore.held?, ObjectKey.version]
  | some spec => simp [heldAnswers, hspec]

theorem collaborators_of_responsive (request : OpsRequest) (engine : Engine)
    (responsive : store.Responsive) (operation : Operation)
    (database : Database) :
    ∃ collaborators,
      request.collaborators store engine operation database =
        .ok collaborators ∧
      operation.ToldAlike request.spec collaborators.answers
        (request.heldAnswers store engine database) := by
  cases operation with
  | updateVersion =>
      have htarget := target_of_responsive request engine responsive database
      have hcurrent : catalogVersion? store engine database.spec.version =
          .ok (request.heldAnswers store engine database).current :=
        catalogVersion?_of_responsive responsive _
      refine ⟨{
        target := (request.heldAnswers store engine database).target
        current := (request.heldAnswers store engine database).current },
        ?_, fun _ => rfl, fun _ => rfl, ?_⟩
      · simp only [collaborators, htarget, hcurrent]
        rfl
      · intro secret named
        cases named
  | reconfigure =>
      obtain ⟨secrets, hsecrets, hanswer⟩ := secretEntry_of_responsive
        responsive request.metadata.namespaceText
        (request.spec.configuration.bind ReconfigureSpec.configSecret)
      refine ⟨{ secrets }, ?_, ?_, ?_, hanswer _⟩
      · rw [collaborators, hsecrets]
        rfl
      all_goals
        intro h
        cases h
  | rotateAuth =>
      obtain ⟨secrets, hsecrets, hanswer⟩ := secretEntry_of_responsive
        responsive request.metadata.namespaceText
        (request.spec.authentication.bind RotateAuthSpec.secret)
      refine ⟨{ secrets }, ?_, ?_, ?_, hanswer _⟩
      · rw [collaborators, hsecrets]
        rfl
      all_goals
        intro h
        cases h
  | _ =>
      refine ⟨{}, rfl, ?_, ?_, ?_⟩
      · intro h
        cases h
      · intro h
        cases h
      · intro secret named
        cases named

end Fetched

/-! ## Agreement -/

section Agreement

variable {request : OpsRequest} {store : ObjectStore} {engine : Engine}

theorem referenceErrors_eq :
    request.referenceErrors store engine =
      match request.earlyErrors engine (request.heldDatabase? store engine),
        request.spec.operation? engine.profile,
        request.heldDatabase? store engine with
      | [], some operation, some database =>
          operation.ruleErrors {
            request, database, profile := engine.profile
            collaborators := request.heldAnswers store engine database }
      | errors, _, _ => errors := by
  have hmissing (database : Option Database) :
      (if database.isNone && !request.spec.database.name.isEmpty then
        [request.missingDatabase engine] else []) =
      if request.spec.database.name ≠ "" ∧ database = none then
        [request.missingDatabase engine] else [] := by
    cases database <;> simp
  rw [earlyErrors, hmissing]
  rfl

theorem lateErrors_of_responsive (request : OpsRequest) (engine : Engine)
    (responsive : store.Responsive) :
    ∃ late,
      request.lateErrors store engine (request.heldDatabase? store engine) =
        .ok late ∧
      request.earlyErrors engine (request.heldDatabase? store engine) ++ late =
        request.referenceErrors store engine := by
  rw [referenceErrors_eq]
  unfold lateErrors
  cases hearly : request.earlyErrors engine
      (request.heldDatabase? store engine) with
  | cons error errors => exact ⟨[], by split <;> simp_all, by simp⟩
  | nil =>
      cases hoperation : request.spec.operation? engine.profile with
      | none => exact ⟨[], rfl, rfl⟩
      | some operation =>
          cases hdatabase : request.heldDatabase? store engine with
          | none => exact ⟨[], rfl, rfl⟩
          | some database =>
              obtain ⟨collaborators, hfetched, alike⟩ :=
                collaborators_of_responsive request engine responsive
                  operation database
              refine ⟨_, ?_, rfl⟩
              dsimp only
              rw [hfetched, fromStore_ok]
              refine congrArg Except.ok ?_
              exact @Operation.ruleErrors_congr
                { request, database, profile := engine.profile } _ _ _ _ alike

theorem validateCreate_of_responsive (responsive : store.Responsive) :
    request.validateCreate store engine =
      request.referenceCreate store engine := by
  obtain ⟨late, hlate, herrors⟩ := lateErrors_of_responsive request engine
    responsive
  rw [validateCreate, database?_of_responsive responsive, referenceCreate,
    ← herrors]
  simp only [fromStore_ok, bind, Except.bind, hlate]

theorem validateCreate_of_meets (responsive : store.Responsive)
    {operation : Operation} {database : Database}
    (meets : request.spec.requirementErrors engine.profile = [])
    (hoperation : request.spec.operation? engine.profile = some operation)
    (held : request.heldDatabase? store engine = some database) :
    request.validateCreate store engine =
      request.conclude engine (operation.ruleErrors {
        request, database, profile := engine.profile
        collaborators := request.heldAnswers store engine database }) := by
  have hearly : request.earlyErrors engine (some database) = [] := by
    simp [earlyErrors, meets]
  rw [validateCreate_of_responsive responsive, referenceCreate, referenceErrors_eq,
    held, hearly, hoperation]

theorem ruleErrors_of_admitted (responsive : store.Responsive)
    {operation : Operation} {warnings : Warnings}
    (hoperation : request.spec.operation? engine.profile = some operation)
    (admitted : request.validateCreate store engine = .ok warnings) :
    ∃ database, request.heldDatabase? store engine = some database ∧
      operation.ruleErrors {
        request, database, profile := engine.profile
        collaborators := request.heldAnswers store engine database } = [] := by
  obtain ⟨found, hfound, hearly, hlate, -⟩ := validateCreate_eq_ok admitted
  rw [database?_of_responsive responsive] at hfound
  cases hfound
  obtain ⟨late, hlate', herrors⟩ := lateErrors_of_responsive request engine
    responsive
  rw [hlate] at hlate'
  cases hlate'
  obtain ⟨-, database, hdatabase⟩ := database_of_earlyErrors_eq_nil hearly
  rw [hearly, referenceErrors_eq, hearly, hoperation, hdatabase] at herrors
  exact ⟨database, hdatabase, herrors.symm⟩

/-- Fetching beforehand starves no rule.  On a store that answers, a creation
comes to what the reference procedure comes to; the secret and the catalog
entries that an admitted request depends on exist. -/
theorem validateCreate_eq_reference (request : OpsRequest)
    (store : ObjectStore) (engine : Engine) (responsive : store.Responsive) :
    request.validateCreate store engine =
      request.referenceCreate store engine ∧
    ∀ operation warnings,
      request.spec.operation? engine.profile = some operation →
      request.validateCreate store engine = .ok warnings →
      (∀ secret, operation.secret? request.spec = some secret →
        store.hasSecret request.metadata.namespaceText secret.name =
          .ok true) ∧
      (operation = .updateVersion →
        ∃ spec database target current,
          request.spec.updateVersion = some spec ∧
          store.database? engine request.metadata.namespaceText
            request.spec.database.name = .ok (some database) ∧
          store.version? engine spec.targetVersion = .ok (some target) ∧
          store.version? engine database.spec.version =
            .ok (some current)) := by
  refine ⟨validateCreate_of_responsive responsive, ?_⟩
  intro operation warnings hoperation admitted
  obtain ⟨database, hdatabase, hrule⟩ :=
    ruleErrors_of_admitted responsive hoperation admitted
  refine ⟨?_, ?_⟩
  · intro secret hnamed
    exact ObjectStore.hasSecret_of_holdsSecret
      (Operation.hasSecret_of_ruleErrors_eq_nil hrule hnamed)
  · rintro rfl
    obtain ⟨spec, target, current, hspec, htarget, hcurrent⟩ :=
      UpdateVersionRule.versions_of_errors_eq_nil hrule
    refine ⟨spec, database, target, current, hspec, ?_, ?_, ?_⟩
    · exact ObjectStore.resolve_of_held? hdatabase
    · refine ObjectStore.resolve_of_held? ?_
      simpa [heldAnswers, show request.spec.updateVersion = some spec from hspec]
        using htarget
    · exact ObjectStore.resolve_of_held? hcurrent

end Agreement

/-! ### Settings from a secret -/

def reconfigure : OpsRequest where
  spec := {
    database := ⟨"db"⟩
    type := "Reconfigure"
    configuration := some { configSecret := some ⟨"settings"⟩ } }

def reconfigureStore : MemoryStore where
  objects := [
    ((ObjectKey.database .postgres "" "db").memoryKey, ⟨none, {}, []⟩),
    ((ObjectKey.secret "" "settings").memoryKey, ⟨none, {}, []⟩)]

theorem reconfigure_eq_reference :
    reconfigureStore.read.Responsive ∧
      reconfigure.validateCreate reconfigureStore.read .postgres =
        reconfigure.referenceCreate reconfigureStore.read .postgres ∧
      reconfigureStore.read.hasSecret "" "settings" = .ok true := by
  have hobjects {key : ObjectKey} {object : Object}
      (found : reconfigureStore.find? key = some object) :
      object = ⟨none, {}, []⟩ := by
    obtain ⟨before, after, hsplit, -⟩ := List.lookup_eq_some_iff.1 found
    have hmember : (key.memoryKey, object) ∈ reconfigureStore.objects := by
      simp [hsplit]
    simp only [reconfigureStore, List.mem_cons, Prod.mk.injEq,
      List.not_mem_nil, or_false] at hmember
    rcases hmember with ⟨-, rfl⟩ | ⟨-, rfl⟩ <;> rfl
  have responsive : reconfigureStore.read.Responsive :=
    MemoryStore.responsive_read rfl
      (fun _ _ _ _ found => by rw [hobjects found]; rfl)
      (fun _ _ _ found => by rw [hobjects found]; rfl)
  obtain ⟨hreference, hadmitted⟩ :=
    validateCreate_eq_reference reconfigure _ .postgres responsive
  refine ⟨responsive, hreference, ?_⟩
  exact (hadmitted .reconfigure [] rfl rfl).1 ⟨"settings"⟩ rfl

end AdmissionGate.OpsRequest
