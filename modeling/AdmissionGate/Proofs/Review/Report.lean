import AdmissionGate.Proofs.Review.Answer
import AdmissionGate.Proofs.Review.Call
import AdmissionGate.Proofs.Review.Placed

/-!
# Reports of verdicts

A review that is posted to a route is answered by what the validator of the route
says of the objects in it, or by what kept the validator from being called.
-/

namespace AdmissionGate

/-! ## Posted reviews -/

structure HttpRequest.Posts (http : HttpRequest) (route : Route)
    (review : Review) : Prop where
  path : http.path = route.path
  method : http.method = "POST"
  announced : http.contentType.any MediaType.announcesJson = true
  fits : http.body.utf8ByteSize ≤ bodyLimit
  read : Review.codec.ofText http.body = .ok review

theorem HttpRequest.posts_of_read {body : String} {size : Nat} {review : Review}
    (hsize : body.utf8ByteSize = size) (fits : size ≤ bodyLimit)
    (read : (Review.codec.ofText body).toOption = some review)
    (route : Route) : Posts { path := route.path, body } route review where
  path := rfl
  method := rfl
  announced :=
    (by decide +kernel : MediaType.announcesJson "application/json" = true)
  fits := hsize ▸ fits
  read := by
    cases hbody : Review.codec.ofText body with
    | ok other =>
        rw [hbody] at read
        rw [Option.some.inj read]
    | error fault =>
        rw [hbody] at read
        cases read

theorem Route.ofPath?_path (route : Route) : ofPath? route.path = some route := by
  cases route <;> decide

theorem handle_of_posts {http : HttpRequest} {route : Route} {review : Review}
    (posts : http.Posts route review) (store : ObjectStore) (metrics : Metrics)
    (seconds : Binary64) :
    handle store metrics seconds http =
      postReview route store metrics seconds review := by
  simp only [handle, posts.path, Route.ofPath?_path, posts.method, ne_eq,
    not_true_eq_false, if_false, posts.announced, Bool.not_true,
    Bool.false_eq_true, Nat.not_lt.2 posts.fits, posts.read]

/-! ## Responses -/

def GivenResponse.Denies (response : GivenResponse) (code : Nat)
    (reason : String) : Prop :=
  response.allowed = false ∧ response.status.code = code ∧
    response.status.reason = reason

/-- What the response to a review on a route must say. -/
structure ReviewRequest.Reported (request : ReviewRequest) (route : Route)
    (store : ObjectStore) (response : GivenResponse) : Prop where
  uid : response.uid = request.uid
  allowed_iff : response.allowed = true ↔
    route.Serves request.kind.kind ∧
      (request.operation = .connect ∨
        ∃ call warnings, request.Calls route call ∧
          call.verdict store = .ok warnings)
  connected (serves : route.Serves request.kind.kind)
    (operation : request.operation = .connect) :
    response.warnings.getD [] = []
  admitted {call : AdmissionCall} {warnings : Warnings}
    (calls : request.Calls route call)
    (verdict : call.verdict store = .ok warnings) :
    response.warnings.getD [] = warnings
  invalid {call : AdmissionCall} {rejection : Rejection}
    (calls : request.Calls route call)
    (verdict : call.verdict store = .error (.invalid rejection)) :
    response.Denies 422 "Invalid" ∧
      ∃ details, response.status.details = some details ∧
        details.causes = rejection.errors.map fun error =>
          { reason := error.fault.reason, message := error.body,
            field := error.field }
  unknownKind (unknown : ¬ route.Serves request.kind.kind) :
    response.Denies 400 "UnsupportedKind"
  unreadable (serves : route.Serves request.kind.kind)
    (unread : ∃ given ∈ request.needed, ¬ request.Readable given route) :
    response.Denies 400 "BadRequest"
  failed {call : AdmissionCall} {error : StoreError}
    (calls : request.Calls route call)
    (verdict : call.verdict store = .error (.store error)) :
    response.Denies 500 "InternalError"

namespace ReviewResponse

variable {uid : String}

theorem given_ok (warnings : Warnings) :
    (ofVerdict uid (.ok warnings)).given.allowed = true ∧
      (ofVerdict uid (.ok warnings)).given.warnings.getD [] = warnings := by
  cases warnings <;> exact ⟨rfl, rfl⟩

theorem denies_of_error (uid : String) (error : AdmissionError) :
    (ofVerdict uid (.error error)).given.Denies error.denial.code
      error.denial.reason :=
  ⟨rfl, rfl, rfl⟩

theorem allowed_given (verdict : Verdict) :
    (ofVerdict uid verdict).given.allowed = true ↔
      ∃ warnings, verdict = .ok warnings := by
  cases verdict with
  | ok warnings => exact iff_of_true (given_ok warnings).1 ⟨warnings, rfl⟩
  | error error => exact iff_of_false nofun nofun

theorem uid_given (verdict : Verdict) :
    (ofVerdict uid verdict).given.uid = uid := by
  cases verdict <;> rfl

theorem reported (request : ReviewRequest) (route : Route)
    (store : ObjectStore) :
    request.Reported route store
      (ofVerdict request.uid (route.verdict request store)).given where
  uid := uid_given _
  allowed_iff := by
    rw [allowed_given]
    constructor
    · rintro ⟨warnings, hverdict⟩
      obtain ⟨serves, hcalled⟩ := Route.verdict_eq_ok hverdict
      refine ⟨serves, hcalled.imp_right ?_⟩
      exact fun ⟨call, calls, hcall⟩ => ⟨call, warnings, calls, hcall⟩
    · rintro ⟨serves, operation | ⟨call, warnings, calls, hcall⟩⟩
      · exact ⟨[], Route.verdict_of_connect serves operation⟩
      · exact ⟨warnings, (Route.verdict_of_calls calls).trans hcall⟩
  connected serves operation := by
    rw [Route.verdict_of_connect serves operation]
    rfl
  admitted calls verdict := by
    rw [Route.verdict_of_calls calls, verdict]
    exact (given_ok _).2
  invalid calls verdict := by
    rw [Route.verdict_of_calls calls, verdict]
    exact ⟨denies_of_error _ _, _, rfl, rfl⟩
  unknownKind unknown := by
    rw [Route.verdict_of_not_serves unknown]
    exact denies_of_error _ _
  unreadable serves unread := by
    rcases Route.verdict_cases serves store with operation | ⟨call, calls⟩ |
      ⟨-, error, herror, hverdict⟩
    · obtain ⟨given, hgiven, -⟩ := unread
      simp [ReviewRequest.needed, operation] at hgiven
    · obtain ⟨given, hgiven, hunread⟩ := unread
      exact absurd (calls.readable given hgiven) hunread
    · rw [hverdict]
      rcases herror with rfl | rfl <;> exact denies_of_error _ _
  failed calls verdict := by
    rw [Route.verdict_of_calls calls, verdict]
    exact denies_of_error _ _

end ReviewResponse

/-- A posted review is answered by a review that reports the verdict.  What is
decoded of an object has its name and namespace, or else those of the request. -/
theorem review_reported {http : HttpRequest} {route : Route} {review : Review}
    {request : ReviewRequest} (posts : http.Posts route review)
    (asked : review.request = some request) (store : ObjectStore)
    (metrics : Metrics) (seconds : Binary64) :
    (∃ body response,
      (handle store metrics seconds http).2 =
          { status := 200, body := some body } ∧
        Review.codec.decode? body =
          some { type := review.type, request := none,
                 response := some response } ∧
        request.Reported route store response) ∧
    ∀ object, request.object = some object ∨ request.oldObject = some object →
      (∀ model, OpsRequest.codec.decode?
          (request.placed object).toJson.canonical = some model →
        request.Names object model.metadata) ∧
      ∀ model, SchemaRequest.codec.decode?
          (request.placed object).toJson.canonical = some model →
        request.Names object model.metadata := by
  refine ⟨⟨_, _, ?_, decode?_answeredReview review.type request.uid
    (route.verdict request store), ReviewResponse.reported request route store⟩,
    ?_⟩
  · simp only [handle_of_posts posts, postReview, asked]
  · intro object hgiven
    have hapart := ReviewRequest.apart_of_ofText posts.read asked hgiven
    constructor
    · exact fun model read => ReviewRequest.names_of_decode
        (fun _ _ => OpsRequest.metadata_of_decode) hapart read
    · exact fun model read => ReviewRequest.names_of_decode
        (fun _ _ => SchemaRequest.metadata_of_decode) hapart read

/-! ### A request without an operation -/

/-- The request and its kinds are given as arrays. -/
def emptyBody : String :=
  "\x7b\"apiVersion\":\"\",\"kind\":\"\",\"request\":[\"1\"," ++
    "[\"\",\"\",\"MySQLOpsRequest\"],[\"\",\"\",\"\"],null,null,null,null," ++
    "\"n\",\"\",\"CREATE\",\x7b\x7d,\x7b\"spec\":\x7b\x7d\x7d,null]\x7d"

def emptyObject : Object := ⟨none, {}, [("spec", .object [])]⟩

def emptyRequest : ReviewRequest where
  uid := "1"
  kind := ⟨"", "", "MySQLOpsRequest"⟩
  resource := ⟨"", "", ""⟩
  name := "n"
  namespaceName := some ""
  operation := .create
  user := ⟨none, none, none, none⟩
  object := some emptyObject

def emptyDecoded : OpsRequest where
  metadata := { name := some "n", namespaceName := some "" }
  spec := {}

theorem emptyBody_posts :
    HttpRequest.Posts { path := Route.opsRequests.path, body := emptyBody }
      .opsRequests ⟨⟨"", ""⟩, some emptyRequest, none⟩ :=
  HttpRequest.posts_of_read (by decide +kernel : _ = 136) (by decide)
    (by decide +kernel) .opsRequests

/-- The denial lists the two members that the specification lacks. -/
theorem emptyRequest_denied :
    ∃ body response,
      (handle (fun key => .error key.notFound) {} (.zero false)
          { path := Route.opsRequests.path, body := emptyBody }).2 =
        { status := 200, body := some body } ∧
      Review.codec.decode? body = some ⟨⟨"", ""⟩, none, some response⟩ ∧
      response.uid = "1" ∧ response.Denies 422 "Invalid" ∧
      ∃ details, response.status.details = some details ∧
        details.causes.map StatusCause.field =
          ["spec.databaseRef.name", "spec.type"] := by
  obtain ⟨⟨body, response, hanswer, hbody, hreported⟩, -⟩ :=
    review_reported emptyBody_posts rfl (fun key => .error key.notFound) {}
      (.zero false)
  have hcalls : emptyRequest.Calls .opsRequests
      (.ops .mySQL (.create emptyDecoded)) :=
    .ops (by decide) (.create rfl ⟨emptyObject, rfl, by decide +kernel⟩)
  have hverdict : emptyDecoded.validateCreate (fun key => .error key.notFound)
      .mySQL = .error (.invalid (emptyDecoded.rejection .mySQL
        (emptyDecoded.earlyErrors .mySQL none))) := rfl
  obtain ⟨hdenies, details, hdetails, hcauses⟩ :=
    hreported.invalid hcalls hverdict
  refine ⟨body, response, hanswer, hbody, hreported.uid, hdenies, details,
    hdetails, ?_⟩
  rw [hcauses]
  decide +kernel

end AdmissionGate
