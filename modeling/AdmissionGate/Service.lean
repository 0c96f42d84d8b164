import AdmissionGate.Health
import AdmissionGate.Http.MediaType
import AdmissionGate.Review.Verdict

/-!
# The service

Reviews are posted to one route for operation requests and one for schema
requests.  Every review that carries a request is counted.
-/

namespace AdmissionGate

/-! ## Exchanges -/

structure HttpRequest where
  method : String := "POST"
  path : String
  contentType : Option String := some "application/json"
  body : String
deriving DecidableEq, Repr

namespace HttpRequest

def isMethod (text : String) : Bool :=
  !text.isEmpty && text.toList.all MediaType.isTokenChar

/-- Whether a text can be sent as the value of a header. -/
def isHeaderText (text : String) : Bool :=
  text.toList.all fun character =>
    character == '\t' || (0x20 ≤ character.toNat && character.toNat != 0x7F)

end HttpRequest

structure HttpResponse where
  status : Nat
  body : Option Json := none
deriving DecidableEq, Repr

inductive Route where
  | opsRequests
  | schemas
deriving DecidableEq, Repr

namespace Route

def path : Route → String
  | .opsRequests => "/validate/opsrequests"
  | .schemas => "/validate/schemas"

def ofPath? (path : String) : Option Route :=
  [Route.opsRequests, .schemas].find? fun route => route.path == path

def verdict (route : Route) (request : ReviewRequest) (store : ObjectStore) :
    Verdict :=
  match route with
  | .opsRequests => request.admitOps store
  | .schemas => request.admitSchema store

end Route

/-! ## Bodies -/

def faultStatus : ReadFault → Nat
  | .malformed => 400
  | .unexpected => 422

def bodyLimit : Nat := 2097152

/-! ## Handling -/

/-- One posted review: the metrics after it and the response.  The time is that
of the call. -/
def postReview (route : Route) (store : ObjectStore) (metrics : Metrics)
    (seconds : Binary64) (review : Review) : Metrics × HttpResponse :=
  match review.request with
  | none => (metrics, { status := 400, body := some emptyReviewAnswer })
  | some request =>
    let verdict := route.verdict request store
    let response := ReviewResponse.ofVerdict request.uid verdict
    (metrics.record request.kind.kind request.operation.name
        (callResult verdict) seconds,
      { status := 200
        body := some (answeredReview review.type response.toJson) })

def handle (store : ObjectStore) (metrics : Metrics) (seconds : Binary64)
    (request : HttpRequest) : Metrics × HttpResponse :=
  match Route.ofPath? request.path with
  | none => (metrics, { status := 404 })
  | some route =>
    if request.method ≠ "POST" then (metrics, { status := 405 })
    else if !request.contentType.any MediaType.announcesJson then
      (metrics, { status := 415 })
    else if bodyLimit < request.body.utf8ByteSize then
      (metrics, { status := 413 })
    else
      match Review.codec.ofText request.body with
      | .error fault => (metrics, { status := faultStatus fault })
      | .ok review => postReview route store metrics seconds review

end AdmissionGate
