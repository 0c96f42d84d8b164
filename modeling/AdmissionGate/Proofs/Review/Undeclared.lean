import AdmissionGate.Proofs.OpsRequest.Frozen
import AdmissionGate.Service

/-!
# Undeclared members

The update of an operation request is judged by what is written of the two
specifications.  Members that a section does not name are not written, so a
change of them goes unseen, unlike one of the specification's own members.
-/

namespace AdmissionGate

/-! ## Answers -/

def HttpResponse.allowed? (response : HttpResponse) : Option Bool := do
  let review ← response.body
  let answer ← review.member? "response"
  (← answer.member? "allowed").bool?

theorem allowed?_postReview (route : Route) (store : ObjectStore)
    (metrics : Metrics) (seconds : Binary64) {review : Review}
    {request : ReviewRequest} (posted : review.request = some request) :
    (postReview route store metrics seconds review).2.allowed? =
      some (route.verdict request store).isOk := by
  simp only [postReview, posted]
  cases route.verdict request store <;> rfl

/-! ## Specifications as they were posted -/

namespace ReviewRequest

/-- The specification of an object of the request, as it stands in the JSON that
is decoded. -/
def rawSpec? (request : ReviewRequest) (object : Option Object) : Option Json := do
  (request.placed (← object)).toJson.canonical.member? "spec"

theorem rawSpec_of_decode {request : ReviewRequest} {object : Option Object}
    {decoded : OpsRequest}
    (h : request.decode OpsRequest.codec object = .ok decoded) :
    ∃ raw, request.rawSpec? object = some raw ∧ raw.isCanonical = true ∧
      OpsRequestSpec.codec.decode? raw = some decoded.spec := by
  cases object with
  | none => cases h
  | some object =>
      have hjson := Json.isCanonical_canonical (request.placed object).toJson
      unfold decode at h
      dsimp only at h
      split at h
      · rename_i read
        cases h
        rw [Object.toJson, Json.canonical] at read hjson
        obtain ⟨raw, hfound, hraw⟩ := OpsRequest.spec_of_read read
        rw [Json.isCanonical_object] at hjson
        refine ⟨raw, ?_, Json.isCanonical_of_lookUp? hjson.2 hfound, hraw⟩
        simpa [rawSpec?, Object.toJson, Json.canonical, Json.member?,
          Json.object?] using hfound
      · cases h

theorem admitOps_update {request : ReviewRequest} {engine : Engine}
    {old new : OpsRequest}
    (hkind : Engine.ofOpsKind? request.kind.kind = some engine)
    (hoperation : request.operation = .update)
    (hold : request.decode OpsRequest.codec request.oldObject = .ok old)
    (hnew : request.decode OpsRequest.codec request.object = .ok new)
    (store : ObjectStore) :
    request.admitOps store = old.validateUpdate new store engine := by
  simp only [admitOps, hkind, hoperation, hold, hnew, bind, Except.bind]

end ReviewRequest

/-! ## Updates -/

/-- An update of an operation request is denied exactly when the written forms
of the posted specifications differ, or when nobody has acted on the request and
its creation would be denied.  Where all members are named, at any depth, the
whole specification is frozen. -/
theorem opsUpdate_denied_iff (store : ObjectStore) (metrics : Metrics)
    (seconds : Binary64) {review : Review} {request : ReviewRequest}
    {engine : Engine} {old new : OpsRequest}
    (posted : review.request = some request)
    (hkind : Engine.ofOpsKind? request.kind.kind = some engine)
    (hoperation : request.operation = .update)
    (hold : request.decode OpsRequest.codec request.oldObject = .ok old)
    (hnew : request.decode OpsRequest.codec request.object = .ok new) :
    ∃ oldRaw newRaw, request.rawSpec? request.oldObject = some oldRaw ∧
      request.rawSpec? request.object = some newRaw ∧
      ((postReview .opsRequests store metrics seconds review).2.allowed? =
          some false ↔
        Json.same (OpsRequestSpec.form .written oldRaw)
            (OpsRequestSpec.form .written newRaw) = false ∨
          (old.isPending = true ∧
            (new.validateCreate store engine).isOk = false)) ∧
      (OpsRequestSpec.form .whole oldRaw = OpsRequestSpec.form .written oldRaw →
        OpsRequestSpec.form .whole newRaw =
          OpsRequestSpec.form .written newRaw →
        Json.same (OpsRequestSpec.form .whole oldRaw)
          (OpsRequestSpec.form .whole newRaw) = false →
        (postReview .opsRequests store metrics seconds review).2.allowed? =
          some false) := by
  obtain ⟨oldRaw, holdRaw, holdJson, holdRead⟩ :=
    ReviewRequest.rawSpec_of_decode hold
  obtain ⟨newRaw, hnewRaw, hnewJson, hnewRead⟩ :=
    ReviewRequest.rawSpec_of_decode hnew
  have hagrees : old.spec.Agrees new.spec ↔
      Json.same (OpsRequestSpec.form .written oldRaw)
        (OpsRequestSpec.form .written newRaw) = true := by
    rw [Json.same_iff]
    exact OpsRequestSpec.faithful.agree_iff holdJson hnewJson holdRead hnewRead
  have hdenied :
      (postReview .opsRequests store metrics seconds review).2.allowed? =
          some false ↔
        Json.same (OpsRequestSpec.form .written oldRaw)
            (OpsRequestSpec.form .written newRaw) = false ∨
          (old.isPending = true ∧
            (new.validateCreate store engine).isOk = false) := by
    rw [allowed?_postReview _ _ _ _ posted, Option.some.injEq, Route.verdict,
      ReviewRequest.admitOps_update hkind hoperation hold hnew]
    by_cases hsame : old.spec.Agrees new.spec
    · rw [OpsRequest.validateUpdate_of_agrees ⟨_, holdJson, holdRead⟩
        ⟨_, hnewJson, hnewRead⟩ hsame, hagrees.1 hsame]
      cases old.isPending <;> simp [Except.isOk, Except.toBool]
    · rw [OpsRequest.validateUpdate_of_not_agrees ⟨_, holdJson, holdRead⟩
        ⟨_, hnewJson, hnewRead⟩ hsame]
      have hdiffer := Bool.eq_false_iff.2 (mt hagrees.2 hsame)
      simp [hdiffer, Except.isOk, Except.toBool]
  refine ⟨oldRaw, newRaw, holdRaw, hnewRaw, hdenied, ?_⟩
  intro holdWhole hnewWhole hdiffer
  rw [holdWhole, hnewWhole] at hdiffer
  exact hdenied.2 (.inl hdiffer)

/-! ### A restart with a member that is not declared -/

def graceSpec (graceSeconds : Int) : Json :=
  .object [("databaseRef", .object [("name", .string "db")]),
    ("restart", .object [("graceSeconds", .integer graceSeconds)]),
    ("type", .string "Restart")]

def graceObject (graceSeconds : Int) : Object where
  type := none
  metadata := {}
  data := [("spec", graceSpec graceSeconds),
    ("status", .object [("phase", .string "Progressing")])]

def graceRequest : ReviewRequest where
  uid := "1"
  kind := ⟨"ops.kubedb.com", "v1alpha1", "PostgresOpsRequest"⟩
  resource := ⟨"ops.kubedb.com", "v1alpha1", "postgresopsrequests"⟩
  operation := .update
  user := ⟨none, none, none, none⟩
  oldObject := some (graceObject 30)
  object := some (graceObject 60)

def graceReview : Review where
  type := ⟨"admission.k8s.io/v1", "AdmissionReview"⟩
  request := some graceRequest
  response := none

def graceDecoded : OpsRequest where
  spec := { database := ⟨"db"⟩, type := "Restart", restart := some {} }
  status := some { phase := some .progressing }

/-- The whole specifications differ, and yet the update goes ahead. -/
theorem graceSeconds_change_allowed :
    graceRequest.rawSpec? graceRequest.oldObject = some (graceSpec 30) ∧
      graceRequest.rawSpec? graceRequest.object = some (graceSpec 60) ∧
      Json.same (OpsRequestSpec.form .whole (graceSpec 30))
        (OpsRequestSpec.form .whole (graceSpec 60)) = false ∧
      (postReview .opsRequests ({} : MemoryStore).read {} (.zero false)
        graceReview).2.allowed? = some true := by
  have hold : graceRequest.decode OpsRequest.codec graceRequest.oldObject =
      .ok graceDecoded := rfl
  have hnew : graceRequest.decode OpsRequest.codec graceRequest.object =
      .ok graceDecoded := rfl
  obtain ⟨oldRaw, newRaw, holdRaw, hnewRaw, hdenied, -⟩ :=
    @opsUpdate_denied_iff ({} : MemoryStore).read {} (.zero false) graceReview
      graceRequest .postgres graceDecoded graceDecoded rfl rfl rfl hold hnew
  have hold' : graceRequest.rawSpec? graceRequest.oldObject =
      some (graceSpec 30) := rfl
  have hnew' : graceRequest.rawSpec? graceRequest.object =
      some (graceSpec 60) := rfl
  refine ⟨hold', hnew', rfl, ?_⟩
  -- The written forms are the same, and the restart is in progress.
  rw [hold'] at holdRaw
  rw [hnew'] at hnewRaw
  cases holdRaw
  cases hnewRaw
  have hgoes : (postReview .opsRequests ({} : MemoryStore).read {} (.zero false)
      graceReview).2.allowed? ≠ some false := by
    rw [ne_eq, hdenied]
    rintro (hdiffer | ⟨hpending, -⟩)
    · exact absurd hdiffer (by decide)
    · exact absurd hpending (by decide)
  rw [allowed?_postReview _ _ _ _ rfl] at hgoes ⊢
  cases hverdict : (Route.verdict .opsRequests graceRequest
      ({} : MemoryStore).read).isOk with
  | true => rfl
  | false => exact absurd (congrArg some hverdict) hgoes

end AdmissionGate
