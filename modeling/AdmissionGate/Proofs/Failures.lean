import AdmissionGate.OpsRequest.Admission
import AdmissionGate.Proofs.Store.Inquiry
import AdmissionGate.SchemaRequest.Admission

/-!
# Failures of the store

Every call of admission is an inquiry with an outcome of its own, to admit or to
reject.  It comes to this outcome only where no look fails, and else it fails
with the first look that does.
-/

namespace AdmissionGate

/-! ## Outcomes of inquiries -/

abbrev Outcome := Except Rejection Warnings

def Inquiry.verdict (inquiry : Inquiry Outcome) (store : ObjectStore) : Verdict :=
  match inquiry.run store with
  | .ok outcome => outcome.mapError .invalid
  | .error error => .error (.store error)

def outcome (errors : List FieldError) (warnings : Warnings)
    (rejection : Rejection) : Outcome :=
  if errors.isEmpty then .ok warnings else .error rejection

/-- A look for a name, which is not made for the empty name. -/
def Inquiry.named (name : String) (look : Look) (absent : look.Answer) :
    Inquiry look.Answer :=
  if name.isEmpty then .done absent else .ask look .done

namespace Inquiry

variable {inquiry : Inquiry Outcome} {store : ObjectStore}

theorem run_named (name : String) (look : Look) (absent : look.Answer) :
    (named name look absent).run store =
      if name.isEmpty then .ok absent else look.answer store := by
  unfold named
  split
  · rfl
  · rw [run]
    cases look.answer store <;> rfl

theorem verdict_bind {Result : Type} (inquiry : Inquiry Result)
    (next : Result → Inquiry Outcome) :
    (inquiry.bind next).verdict store =
      fromStore (inquiry.run store) >>= fun result =>
        (next result).verdict store := by
  simp only [verdict, run_bind]
  cases inquiry.run store <;> rfl

@[simp] theorem verdict_done (outcome : Outcome) :
    (done outcome).verdict store = outcome.mapError .invalid := rfl

theorem verdict_bind_named {name : String} (hname : name ≠ "") {look : Look}
    {absent : look.Answer} {next : look.Answer → Inquiry Outcome}
    {error : StoreError} (failure : look.failure? store = some error) :
    ((named name look absent).bind next).verdict store =
      .error (.store error) := by
  have hanswer := Look.answer_eq_error_iff.2 failure
  rw [verdict_bind, run_named, if_neg (by simpa using hname), hanswer]
  rfl

theorem verdict_cases (inquiry : Inquiry Outcome) (store : ObjectStore) :
    (∃ error, inquiry.verdict store = .error (.store error) ∧
      (inquiry.looks store).findSome? (·.failure? store) = some error) ∨
    ((∃ warnings, inquiry.verdict store = .ok warnings) ∨
        ∃ rejection, inquiry.verdict store = .error (.invalid rejection)) ∧
      ∀ look ∈ inquiry.looks store, look.failure? store = none := by
  rcases inquiry.run_cases store with ⟨error, hrun, hfirst⟩ |
    ⟨outcome, hrun, hnone⟩
  · exact .inl ⟨error, by simp only [verdict, hrun], hfirst⟩
  · refine .inr ⟨?_, hnone⟩
    simp only [verdict, hrun]
    cases outcome with
    | ok warnings => exact .inl ⟨warnings, rfl⟩
    | error rejection => exact .inr ⟨rejection, rfl⟩

theorem verdict_ne_notFound (kind name : String) :
    inquiry.verdict store ≠ .error (.store (.notFound kind name)) := by
  intro h
  unfold verdict at h
  cases hrun : inquiry.run store with
  | ok outcome =>
      rw [hrun] at h
      cases outcome <;> cases h
  | error error =>
      rw [hrun] at h
      cases h
      exact run_ne_notFound kind name hrun

end Inquiry

/-! ## Operation requests -/

namespace OpsRequest

variable (request : OpsRequest) (engine : Engine)

def databaseInquiry : Inquiry (Option Database) :=
  .named request.spec.database.name
    (.database engine request.metadata.namespaceText request.spec.database.name)
    none

def versionInquiry (name : String) : Inquiry (Option CatalogVersion) :=
  .named name (.version engine name) none

def secretInquiry (secret : Option LocalReference) : Inquiry (Dict Bool) :=
  match secret with
  | none => .done .empty
  | some secret =>
      if secret.name.isEmpty then .done .empty
      else .ask (.secret request.metadata.namespaceText secret.name)
        fun found => .done (Dict.singleton secret.name found)

def collaboratorsInquiry (operation : Operation) (database : Database) :
    Inquiry Collaborators :=
  match operation with
  | .updateVersion =>
      (versionInquiry engine
        ((request.spec.updateVersion.map UpdateVersionSpec.targetVersion).getD
          "")).bind fun target =>
      (versionInquiry engine database.spec.version).bind fun current =>
      .done { target, current }
  | .reconfigure =>
      (request.secretInquiry
        (request.spec.configuration.bind ReconfigureSpec.configSecret)).bind
      fun secrets => .done { secrets }
  | .rotateAuth =>
      (request.secretInquiry
        (request.spec.authentication.bind RotateAuthSpec.secret)).bind
      fun secrets => .done { secrets }
  | .horizontalScaling | .verticalScaling | .volumeExpansion | .restart
  | .reconfigureTls => .done {}

def lateInquiry (database : Option Database) : Inquiry (List FieldError) :=
  match request.spec.operation? engine.profile, database,
    request.earlyErrors engine database with
  | some operation, some database, [] =>
      (request.collaboratorsInquiry engine operation database).bind
      fun collaborators => .done (operation.ruleErrors {
        request, database, profile := engine.profile, collaborators })
  | _, _, _ => .done []

def creationInquiry : Inquiry Outcome :=
  (request.databaseInquiry engine).bind fun database =>
  (request.lateInquiry engine database).bind fun late =>
  let errors := request.earlyErrors engine database ++ late
  .done (outcome errors (request.warnings engine)
    (request.rejection engine errors))

def updateInquiry (old new : OpsRequest) (engine : Engine) : Inquiry Outcome :=
  match OpsRequestSpec.changeErrors old.spec new.spec with
  | [] => if old.isPending then new.creationInquiry engine else .done (.ok [])
  | errors => .done (.error (new.rejection engine errors))

variable {request engine} {store : ObjectStore}

theorem run_databaseInquiry :
    (request.databaseInquiry engine).run store =
      request.database? store engine :=
  Inquiry.run_named _ _ _

theorem run_versionInquiry (name : String) :
    (versionInquiry engine name).run store =
      catalogVersion? store engine name :=
  Inquiry.run_named _ _ _

theorem run_secretInquiry (secret : Option LocalReference) :
    (request.secretInquiry secret).run store =
      secretEntry store request.metadata.namespaceText secret := by
  cases secret with
  | none => rfl
  | some secret =>
      by_cases hname : secret.name.isEmpty = true
      · simp only [secretInquiry, secretEntry, if_pos hname, Inquiry.run]
      · simp only [secretInquiry, secretEntry, if_neg hname, Inquiry.run,
          Look.answer]
        cases store.hasSecret _ _ <;> rfl

theorem run_collaboratorsInquiry (operation : Operation) (database : Database) :
    (request.collaboratorsInquiry engine operation database).run store =
      request.collaborators store engine operation database := by
  cases operation <;>
    simp only [collaboratorsInquiry, collaborators, Inquiry.run_bind,
      run_versionInquiry, run_secretInquiry] <;> rfl

theorem run_lateInquiry (database : Option Database) :
    fromStore ((request.lateInquiry engine database).run store) =
      request.lateErrors store engine database := by
  unfold lateInquiry lateErrors
  cases request.spec.operation? engine.profile with
  | none => rfl
  | some operation =>
      cases database with
      | none => rfl
      | some database =>
          cases request.earlyErrors engine (some database) with
          | nil =>
              simp only [Inquiry.run_bind, run_collaboratorsInquiry]
              cases request.collaborators store engine operation database <;>
                rfl
          | cons _ _ => rfl

theorem mapError_outcome (errors : List FieldError) :
    (outcome errors (request.warnings engine)
      (request.rejection engine errors)).mapError .invalid =
      request.conclude engine errors := by
  unfold outcome conclude
  cases errors <;> rfl

theorem verdict_creationInquiry :
    (request.creationInquiry engine).verdict store =
      request.validateCreate store engine := by
  simp only [creationInquiry, validateCreate, Inquiry.verdict_bind,
    run_databaseInquiry, run_lateInquiry, Inquiry.verdict_done,
    mapError_outcome]

theorem verdict_updateInquiry {old new : OpsRequest} :
    (updateInquiry old new engine).verdict store =
      validateUpdate old new store engine := by
  unfold updateInquiry validateUpdate
  cases OpsRequestSpec.changeErrors old.spec new.spec with
  | nil =>
      by_cases hpending : old.isPending = true
      · simp only [if_pos hpending, verdict_creationInquiry]
      · simp only [if_neg hpending, Inquiry.verdict_done]
        rfl
  | cons _ _ => rfl

end OpsRequest

/-! ## Schema requests -/

namespace SchemaRequest

variable (request : SchemaRequest) (kind : SchemaKind)

def creationInquiry : Inquiry Outcome :=
  let name := request.spec.database.name
  (Inquiry.named name (.database kind.engine request.databaseNamespace name)
    none).bind fun database =>
  let errors := request.creationErrors kind database
  .done (outcome errors [] (request.rejection kind errors))

variable {request kind}

theorem mapError_outcome (errors : List FieldError) :
    (outcome errors [] (request.rejection kind errors)).mapError .invalid =
      request.conclude kind errors := by
  unfold outcome conclude
  cases errors <;> rfl

theorem verdict_creationInquiry {store : ObjectStore} :
    (request.creationInquiry kind).verdict store =
      request.validateCreate store kind := by
  have hdatabase : (Inquiry.named request.spec.database.name
      (.database kind.engine request.databaseNamespace
        request.spec.database.name) none).run store =
        request.database? store kind :=
    Inquiry.run_named _ _ _
  simp only [creationInquiry, validateCreate, Inquiry.verdict_bind, hdatabase,
    Inquiry.verdict_done, mapError_outcome]

/-- Updates and deletions of schema requests look at nothing. -/
def updateOutcome (old new : SchemaRequest) (kind : SchemaKind) : Outcome :=
  match updateErrors old new with
  | [] =>
      let errors := SchemaSpec.structureErrors kind new.spec
      outcome errors [] (new.rejection kind errors)
  | errors => .error (new.rejection kind errors)

theorem mapError_updateOutcome {old new : SchemaRequest} :
    (updateOutcome old new kind).mapError .invalid =
      validateUpdate old new kind := by
  unfold updateOutcome validateUpdate
  cases updateErrors old new with
  | nil => exact mapError_outcome _
  | cons _ _ => rfl

end SchemaRequest

/-! ## Calls -/

inductive Change (Model : Type) where
  | create (new : Model)
  | update (old new : Model)
  | delete (old : Model)
deriving DecidableEq, Repr

inductive AdmissionCall where
  | ops (engine : Engine) (change : Change OpsRequest)
  | schema (kind : SchemaKind) (change : Change SchemaRequest)
deriving DecidableEq, Repr

namespace AdmissionCall

def verdict (store : ObjectStore) : AdmissionCall → Verdict
  | .ops engine (.create new) => new.validateCreate store engine
  | .ops engine (.update old new) => old.validateUpdate new store engine
  | .ops engine (.delete old) => old.validateDelete engine
  | .schema kind (.create new) => new.validateCreate store kind
  | .schema kind (.update old new) => old.validateUpdate new kind
  | .schema kind (.delete old) => old.validateDelete kind

def inquiry : AdmissionCall → Inquiry Outcome
  | .ops engine (.create new) => new.creationInquiry engine
  | .ops engine (.update old new) => old.updateInquiry new engine
  | .ops _ (.delete _) => .done (.ok [])
  | .schema kind (.create new) => new.creationInquiry kind
  | .schema kind (.update old new) => .done (old.updateOutcome new kind)
  | .schema kind (.delete old) =>
      let errors := SchemaRequest.deletionErrors kind old
      .done (outcome errors [] (old.rejection kind errors))

def looks (call : AdmissionCall) (store : ObjectStore) : List Look :=
  call.inquiry.looks store

def createdFor? : AdmissionCall → Option String
  | .ops _ (.create new) => some new.spec.database.name
  | .schema _ (.create new) => some new.spec.database.name
  | .ops _ _ | .schema _ _ => none

theorem verdict_eq_inquiry (call : AdmissionCall) (store : ObjectStore) :
    call.verdict store = call.inquiry.verdict store := by
  rcases call with ⟨engine, change⟩ | ⟨kind, change⟩
  · cases change with
    | create new => rw [verdict, inquiry, OpsRequest.verdict_creationInquiry]
    | update old new => rw [verdict, inquiry, OpsRequest.verdict_updateInquiry]
    | delete old => rfl
  · cases change with
    | create new => rw [verdict, inquiry, SchemaRequest.verdict_creationInquiry]
    | update old new =>
        rw [verdict, inquiry, Inquiry.verdict_done,
          SchemaRequest.mapError_updateOutcome]
    | delete old =>
        rw [verdict, inquiry, Inquiry.verdict_done,
          SchemaRequest.mapError_outcome, SchemaRequest.validateDelete]

theorem verdict_of_unavailable {call : AdmissionCall} {store : ObjectStore}
    {name : String} (created : call.createdFor? = some name) (hname : name ≠ "")
    (unavailable : ∀ key, ∃ message, store key = .error (.unavailable message)) :
    ∃ message, call.verdict store = .error (.store (.unavailable message)) := by
  have hfailure : ∀ look : Look, ∃ message,
      look.failure? store = some (.unavailable message) := by
    intro look
    obtain ⟨message, hmessage⟩ := unavailable look.key
    exact ⟨message, by simp [Look.failure?, ObjectStore.failure?, hmessage]⟩
  rw [verdict_eq_inquiry]
  rcases call with ⟨engine, change⟩ | ⟨kind, change⟩ <;>
    cases change <;> cases created
  all_goals
    obtain ⟨message, hlook⟩ := hfailure _
    exact ⟨message, Inquiry.verdict_bind_named hname hlook⟩

/-- No failure of a store is swallowed, and that an object does not exist is never
a failure.  The looks are neither too many nor too few: the verdict is the same
wherever they are answered alike, and it fails where one of them cannot be
made. -/
theorem store_failures_surface (call : AdmissionCall) (store : ObjectStore) :
    (∀ kind name,
      call.verdict store ≠ .error (.store (.notFound kind name))) ∧
    (∀ error, (call.looks store).findSome? (·.failure? store) = some error →
      call.verdict store = .error (.store error)) ∧
    ((∃ warnings, call.verdict store = .ok warnings) ∨
        (∃ rejection, call.verdict store = .error (.invalid rejection)) ↔
      ∀ look ∈ call.looks store,
        (∃ object, store look.key = .ok object ∧ look.accepts object = true) ∨
          ∃ kind name, store look.key = .error (.notFound kind name)) ∧
    (∀ other : ObjectStore,
      (∀ look ∈ call.looks store, store look.key = other look.key) →
      call.verdict store = call.verdict other ∧
        call.looks store = call.looks other) ∧
    (∀ look ∈ call.looks store, ∀ message,
      call.verdict (store.losing look.key message) =
        .error (.store (.unavailable message))) ∧
    ∀ name, call.createdFor? = some name → name ≠ "" →
      (∀ key, ∃ message, store key = .error (.unavailable message)) →
      ∃ message, call.verdict store = .error (.store (.unavailable message)) := by
  have hcases := call.inquiry.verdict_cases store
  have hanswered : (∀ look ∈ call.looks store, look.failure? store = none) ↔
      ∀ look ∈ call.looks store,
        (∃ object, store look.key = .ok object ∧ look.accepts object = true) ∨
          ∃ kind name, store look.key = .error (.notFound kind name) :=
    forall₂_congr fun _ _ => ObjectStore.failure?_eq_none_iff
  rw [← hanswered]
  simp only [verdict_eq_inquiry]
  refine ⟨?_, ?_, ?_, ?_, ?_, ?_⟩
  · exact fun kind name => Inquiry.verdict_ne_notFound kind name
  · intro error herror
    rcases hcases with ⟨_, hverdict, hfirst⟩ | ⟨-, hnone⟩
    · cases herror.symm.trans hfirst
      exact hverdict
    · cases (List.findSome?_eq_none_iff.2 hnone).symm.trans herror
  · rcases hcases with ⟨_, hverdict, hfirst⟩ | ⟨hresult, hnone⟩
    · refine iff_of_false ?_ fun hnone => ?_
      · rintro (⟨_, h⟩ | ⟨_, h⟩) <;> cases h.symm.trans hverdict
      · cases (List.findSome?_eq_none_iff.2 hnone).symm.trans hfirst
    · exact iff_of_true hresult hnone
  · intro other agree
    obtain ⟨hrun, hlooks⟩ := Inquiry.run_congr agree
    exact ⟨by simp only [Inquiry.verdict, hrun], hlooks⟩
  · intro look hlook message
    simp only [Inquiry.verdict, Inquiry.run_losing hlook message]
  · intro name created hname unavailable
    rw [← verdict_eq_inquiry]
    exact verdict_of_unavailable created hname unavailable

/-! ### An update whose present version is broken -/

def upgrade : AdmissionCall :=
  .ops .mySQL (.create {
    metadata := { namespaceName := some "here" }
    spec := {
      database := ⟨"db"⟩
      type := "UpdateVersion"
      updateVersion := some ⟨"8.4.3"⟩ } })

/-- The target is not in the catalog, and the entry of the present version cannot
be read. -/
def brokenCatalog : ObjectStore := fun key =>
  if key = .database .mySQL "here" "db" then
    .ok ⟨none, {}, [("spec", .object [("version", .string "8.0.35")])]⟩
  else if key = .version .mySQL "8.0.35" then .ok ⟨none, {}, [("spec", .null)]⟩
  else .error key.notFound

theorem upgrade_fails :
    upgrade.looks brokenCatalog =
        [.database .mySQL "here" "db", .version .mySQL "8.4.3",
          .version .mySQL "8.0.35"] ∧
      upgrade.verdict brokenCatalog =
        .error (.store (ObjectKey.version .mySQL "8.0.35").undecodable) ∧
      upgrade.verdict (brokenCatalog.losing (.version .mySQL "8.4.3") "down") =
        .error (.store (.unavailable "down")) := by
  obtain ⟨-, hfirst, -, -, hlosing, -⟩ :=
    store_failures_surface upgrade brokenCatalog
  have hlooks : upgrade.looks brokenCatalog =
      [.database .mySQL "here" "db", .version .mySQL "8.4.3",
        .version .mySQL "8.0.35"] := by
    decide +kernel
  refine ⟨hlooks, hfirst _ (by decide +kernel), ?_⟩
  exact hlosing (.version .mySQL "8.4.3") (by simp [hlooks]) "down"

end AdmissionCall
end AdmissionGate
