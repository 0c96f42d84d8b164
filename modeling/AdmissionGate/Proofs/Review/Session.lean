import AdmissionGate.Proofs.Review.Counted

/-!
# Sessions

A service answers one exchange after the other and keeps its metrics in between.
Every review with a request is counted once, under its kind, its operation and
what it was answered, and nothing else is counted.  The order of the exchanges
does not show in the answers, nor in the counters.
-/

namespace AdmissionGate

/-! ## What is posted -/

def HttpRequest.posted? (http : HttpRequest) : Option (Route × Review) :=
  (Route.ofPath? http.path).bind fun route =>
    if http.method = "POST" ∧
        http.contentType.any MediaType.announcesJson = true ∧
        http.body.utf8ByteSize ≤ bodyLimit then
      (Review.codec.ofText http.body).toOption.map fun review => (route, review)
    else none

theorem Route.path_of_ofPath? {path : String} {route : Route}
    (h : ofPath? path = some route) : path = route.path :=
  (by simpa using List.find?_some h : route.path = path).symm

theorem HttpRequest.posted?_eq_some_iff {http : HttpRequest} {route : Route}
    {review : Review} :
    http.posted? = some (route, review) ↔ http.Posts route review := by
  simp only [posted?, Option.bind_eq_some_iff, Option.ite_none_right_eq_some,
    Option.map_eq_some_iff, Prod.mk.injEq]
  constructor
  · rintro ⟨_, hroute, ⟨hmethod, hannounced, hfits⟩, _, hread, rfl, rfl⟩
    refine ⟨Route.path_of_ofPath? hroute, hmethod, hannounced, hfits, ?_⟩
    cases hbody : Review.codec.ofText http.body <;> rw [hbody] at hread <;>
      cases hread
    rfl
  · intro posts
    refine ⟨route, posts.path ▸ route.ofPath?_path,
      ⟨posts.method, posts.announced, posts.fits⟩, review, ?_, rfl, rfl⟩
    rw [posts.read]
    rfl

theorem handle_of_not_posted {http : HttpRequest} (h : http.posted? = none)
    (store : ObjectStore) (metrics : Metrics) (seconds : Binary64) :
    handle store metrics seconds http =
      (metrics, (handle store {} seconds http).2) := by
  unfold handle
  cases hroute : Route.ofPath? http.path with
  | none => rfl
  | some route =>
      by_cases hmethod : http.method = "POST"
      · cases hannounced : http.contentType.any MediaType.announcesJson with
        | false => simp [hmethod]
        | true =>
            by_cases hfits : bodyLimit < http.body.utf8ByteSize
            · simp [hmethod, hfits]
            · cases hread : Review.codec.ofText http.body with
              | error fault => simp [hmethod, hfits]
              | ok review =>
                  have hposts : http.Posts route review :=
                    ⟨Route.path_of_ofPath? hroute, hmethod, hannounced,
                      Nat.not_lt.1 hfits, hread⟩
                  cases h.symm.trans (HttpRequest.posted?_eq_some_iff.2 hposts)
      · simp [hmethod]

/-! ## Exchanges -/

/-- Something that is sent to the service, with the store as it is then and the
time that the call takes. -/
structure Exchange where
  store : ObjectStore
  seconds : Binary64
  http : HttpRequest

theorem CallResult.eq_of_iff {left right : CallResult}
    (hallowed : left = .allowed ↔ right = .allowed)
    (herror : left = .error ↔ right = .error) : left = right := by
  cases left <;> cases right <;> simp_all

theorem AdmissionError.callResult_ne_allowed (error : AdmissionError) :
    error.callResult ≠ .allowed := by
  unfold callResult
  split
  · decide
  · split <;> decide

theorem callResult_eq_allowed_iff {verdict : Verdict} :
    callResult verdict = .allowed ↔ ∃ warnings, verdict = .ok warnings := by
  cases verdict with
  | ok warnings => exact iff_of_true rfl ⟨warnings, rfl⟩
  | error error =>
      exact iff_of_false error.callResult_ne_allowed nofun

namespace Exchange

def answer (exchange : Exchange) : HttpResponse :=
  (handle exchange.store {} exchange.seconds exchange.http).2

/-- The kind and the operation of a posted request, and whether the response that
the client reads allows it, denies it or fails for the time being. -/
def CountsAs (exchange : Exchange) (labels : ResultLabels) : Prop :=
  ∃ route review request body response,
    exchange.http.Posts route review ∧ review.request = some request ∧
    labels.call = ⟨request.kind.kind, request.operation.name⟩ ∧
    exchange.answer = { status := 200, body := some body } ∧
    Review.codec.decode? body =
      some { type := review.type, request := none, response := some response } ∧
    (labels.result = .allowed ↔ response.allowed = true) ∧
    (labels.result = .error ↔ ∃ call error, request.Calls route call ∧
      call.verdict exchange.store = .error (.store error) ∧
      (AdmissionError.store error).isRetryable = true)

/-- As the code goes about it: the labels of the verdict on a posted request. -/
def labels? (exchange : Exchange) : Option ResultLabels := do
  let (route, review) ← exchange.http.posted?
  let request ← review.request
  return ⟨⟨request.kind.kind, request.operation.name⟩,
    callResult (route.verdict request exchange.store)⟩

variable {exchange : Exchange} {route : Route} {review : Review}
  {request : ReviewRequest}

theorem labels?_of_posts (posts : exchange.http.Posts route review)
    (asked : review.request = some request) :
    exchange.labels? = some ⟨⟨request.kind.kind, request.operation.name⟩,
      callResult (route.verdict request exchange.store)⟩ := by
  simp only [labels?, HttpRequest.posted?_eq_some_iff.2 posts,
    Option.bind_eq_bind, Option.bind_some, asked, Option.pure_def]

theorem labels?_eq_some {labels : ResultLabels}
    (h : exchange.labels? = some labels) :
    ∃ route review request, exchange.http.Posts route review ∧
      review.request = some request ∧
      labels = ⟨⟨request.kind.kind, request.operation.name⟩,
        callResult (route.verdict request exchange.store)⟩ := by
  simp only [labels?, Option.bind_eq_bind, Option.bind_eq_some_iff,
    Option.pure_def, Option.some.injEq, Prod.exists] at h
  obtain ⟨route, review, hposted, request, asked, hlabels⟩ := h
  exact ⟨route, review, request, HttpRequest.posted?_eq_some_iff.1 hposted,
    asked, hlabels.symm⟩

/-- Every exchange that posts a request counts once, and no other one does. -/
theorem countsAs_iff {labels : ResultLabels} :
    exchange.CountsAs labels ↔ exchange.labels? = some labels := by
  constructor
  · rintro ⟨route, review, request, body, response, posts, asked, hcall,
      hanswer, hbody, hallowed, herror⟩
    have hgiven : response = (ReviewResponse.ofVerdict request.uid
        (route.verdict request exchange.store)).given := by
      simp only [answer, handle_of_posts posts, postReview, asked,
        HttpResponse.mk.injEq, Option.some.injEq, true_and] at hanswer
      rw [← hanswer, decode?_answeredReview] at hbody
      cases hbody
      rfl
    rw [hgiven, ReviewResponse.allowed_given,
      ← callResult_eq_allowed_iff] at hallowed
    have hfailed : labels.result = .error ↔
        callResult (route.verdict request exchange.store) = .error := by
      rw [herror, Route.callResult_eq_error_iff, exists_comm]
      simp only [Route.verdict_eq_storeError_iff, ← exists_and_right, and_assoc]
      rfl
    have hresult := CallResult.eq_of_iff hallowed hfailed
    rw [labels?_of_posts posts asked, ← hcall, ← hresult]
  · intro h
    obtain ⟨route, review, request, posts, asked, rfl⟩ := labels?_eq_some h
    refine ⟨route, review, request, _, _, posts, asked, rfl, ?_,
      decode?_answeredReview review.type request.uid
        (route.verdict request exchange.store), ?_, ?_⟩
    · simp only [answer, handle_of_posts posts, postReview, asked]
    · rw [ReviewResponse.allowed_given, callResult_eq_allowed_iff]
    · rw [Route.callResult_eq_error_iff, exists_comm]
      simp only [Route.verdict_eq_storeError_iff, ← exists_and_right, and_assoc]
      rfl

instance (labels : ResultLabels) : Decidable (exchange.CountsAs labels) :=
  decidable_of_iff _ countsAs_iff.symm

def next (exchange : Exchange) (metrics : Metrics) : Metrics :=
  match exchange.labels? with
  | some labels => metrics.record labels.call.kind labels.call.operation
      labels.result exchange.seconds
  | none => metrics

theorem handle_eq (exchange : Exchange) (metrics : Metrics) :
    handle exchange.store metrics exchange.seconds exchange.http =
      (exchange.next metrics, exchange.answer) := by
  cases hposted : exchange.http.posted? with
  | none =>
      simp only [next, labels?, hposted, Option.bind_eq_bind, Option.bind_none]
      exact handle_of_not_posted hposted _ _ _
  | some posted =>
      obtain ⟨route, review⟩ := posted
      have posts := HttpRequest.posted?_eq_some_iff.1 hposted
      cases asked : review.request with
      | none =>
          simp only [next, labels?, hposted, asked, Option.bind_eq_bind,
            Option.bind_some, Option.bind_none, answer, handle_of_posts posts,
            postReview]
      | some request =>
          simp only [next, labels?_of_posts posts asked, answer,
            handle_of_posts posts, postReview, asked]

theorem answer_of_not_asked (posts : exchange.http.Posts route review)
    (unasked : review.request = none) :
    exchange.answer = { status := 400, body := some emptyReviewAnswer } ∧
      exchange.labels? = none := by
  constructor
  · simp only [answer, handle_of_posts posts, postReview, unasked]
  · simp only [labels?, HttpRequest.posted?_eq_some_iff.2 posts, unasked,
      Option.bind_eq_bind, Option.bind_some, Option.bind_none]

end Exchange

/-! ## Counters -/

namespace Metrics

theorem durationCount_record (metrics : Metrics) (kind operation : String)
    (result : CallResult) (seconds : Binary64)
    (otherKind otherOperation : String) :
    (metrics.record kind operation result seconds).durationCount otherKind
        otherOperation =
      metrics.durationCount otherKind otherOperation +
        if otherKind = kind ∧ otherOperation = operation then 1 else 0 := by
  simp only [record, durationCount, lookup_updateLabel, CallLabels.mk.injEq]
  split
  · rename_i same
    obtain ⟨rfl, rfl⟩ := same
    cases metrics.durations.lookup ⟨otherKind, otherOperation⟩ <;> rfl
  · rfl

/-- Every call has a time and one result. -/
def Balanced (metrics : Metrics) : Prop :=
  ∀ kind operation, metrics.durationCount kind operation =
    metrics.callCount kind operation .allowed +
      metrics.callCount kind operation .denied +
      metrics.callCount kind operation .error

theorem balanced_empty : Balanced {} := fun _ _ => rfl

theorem Balanced.record {metrics : Metrics} (balanced : metrics.Balanced)
    (kind operation : String) (result : CallResult) (seconds : Binary64) :
    (metrics.record kind operation result seconds).Balanced := by
  intro otherKind otherOperation
  rw [durationCount_record, balanced]
  simp only [callCount_record]
  by_cases same : otherKind = kind ∧ otherOperation = operation
  · cases result <;> simp [same] <;> omega
  · have hother : ∀ other, ¬ (otherKind = kind ∧ otherOperation = operation ∧
        other = result) := fun _ h => same ⟨h.1, h.2.1⟩
    simp only [if_neg same, if_neg (hother _), Nat.add_zero]

end Metrics

namespace Exchange

variable (exchange : Exchange) (metrics : Metrics)

theorem callCount_next (kind operation : String) (result : CallResult) :
    (exchange.next metrics).callCount kind operation result =
      metrics.callCount kind operation result +
        if exchange.CountsAs ⟨⟨kind, operation⟩, result⟩ then 1 else 0 := by
  simp only [next, countsAs_iff]
  cases exchange.labels? with
  | none => rfl
  | some labels =>
      obtain ⟨⟨heldKind, heldOperation⟩, held⟩ := labels
      simp only [Metrics.callCount_record, Option.some.injEq,
        ResultLabels.mk.injEq, CallLabels.mk.injEq, and_assoc,
        eq_comm (a := kind), eq_comm (a := operation), eq_comm (a := result)]

theorem balanced_next {metrics : Metrics} (balanced : metrics.Balanced) :
    (exchange.next metrics).Balanced := by
  unfold next
  split
  · exact balanced.record _ _ _ _
  · exact balanced

end Exchange

/-! ## Sessions -/

def session (metrics : Metrics) : List Exchange → Metrics × List HttpResponse
  | [] => (metrics, [])
  | exchange :: rest =>
      let (next, response) :=
        handle exchange.store metrics exchange.seconds exchange.http
      let (last, responses) := session next rest
      (last, response :: responses)

section

variable (exchange : Exchange) (exchanges : List Exchange) (metrics : Metrics)

theorem session_cons :
    session metrics (exchange :: exchanges) =
      ((session (exchange.next metrics) exchanges).1,
        exchange.answer :: (session (exchange.next metrics) exchanges).2) := by
  rw [session, exchange.handle_eq]

theorem session_responses :
    (session metrics exchanges).2 = exchanges.map Exchange.answer := by
  induction exchanges generalizing metrics with
  | nil => rfl
  | cons exchange rest ih => simp only [session_cons, ih, List.map_cons]

theorem callCount_session (kind operation : String) (result : CallResult) :
    (session metrics exchanges).1.callCount kind operation result =
      metrics.callCount kind operation result +
        exchanges.countP fun exchange =>
          exchange.CountsAs ⟨⟨kind, operation⟩, result⟩ := by
  induction exchanges generalizing metrics with
  | nil => rfl
  | cons exchange rest ih =>
      simp only [session_cons, ih, exchange.callCount_next, List.countP_cons,
        decide_eq_true_eq]
      omega

theorem balanced_session {metrics : Metrics} (balanced : metrics.Balanced) :
    (session metrics exchanges).1.Balanced := by
  induction exchanges generalizing metrics with
  | nil => exact balanced
  | cons exchange rest ih =>
      rw [session_cons]
      exact ih (exchange.balanced_next balanced)

end

/-- The counters of a session that starts with fresh metrics conserve the calls.
Each of them is the number of exchanges that post a request with its kind and its
operation and are answered with its result; a review without a request is refused
and has no counter, one with a request has a single one.  Every exchange brings
the store that it meets: in another order the exchanges have the same answers and
the same counters. -/
theorem counters_conserve_calls (exchanges : List Exchange) :
    (session {} exchanges).2 = exchanges.map Exchange.answer ∧
    (∀ kind operation result,
      (session {} exchanges).1.callCount kind operation result =
        exchanges.countP fun exchange =>
          exchange.CountsAs ⟨⟨kind, operation⟩, result⟩) ∧
    (∀ kind operation,
      (session {} exchanges).1.durationCount kind operation =
        (session {} exchanges).1.callCount kind operation .allowed +
          (session {} exchanges).1.callCount kind operation .denied +
          (session {} exchanges).1.callCount kind operation .error) ∧
    (∀ exchange ∈ exchanges, ∀ route review,
      exchange.http.Posts route review →
        (review.request = none →
          exchange.answer = { status := 400, body := some emptyReviewAnswer } ∧
            ∀ labels, ¬ exchange.CountsAs labels) ∧
        ∀ request, review.request = some request →
          ∃ labels, ∀ other, exchange.CountsAs other ↔ other = labels) ∧
    ∀ others, exchanges.Perm others →
      (exchanges.zip (session {} exchanges).2).Perm
          (others.zip (session {} others).2) ∧
        ∀ kind operation,
          (∀ result, (session {} exchanges).1.callCount kind operation result =
            (session {} others).1.callCount kind operation result) ∧
          (session {} exchanges).1.durationCount kind operation =
            (session {} others).1.durationCount kind operation := by
  have hcount : ∀ exchanges kind operation result,
      (session {} exchanges).1.callCount kind operation result =
        exchanges.countP fun exchange =>
          exchange.CountsAs ⟨⟨kind, operation⟩, result⟩ := by
    intro exchanges kind operation result
    rw [callCount_session]
    exact Nat.zero_add _
  have hbalanced : ∀ exchanges, (session {} exchanges).1.Balanced :=
    fun exchanges => balanced_session exchanges Metrics.balanced_empty
  refine ⟨session_responses exchanges {}, hcount exchanges,
    hbalanced exchanges, ?_, ?_⟩
  · intro exchange _ route review posts
    constructor
    · intro unasked
      obtain ⟨hanswer, hlabels⟩ := Exchange.answer_of_not_asked posts unasked
      refine ⟨hanswer, fun labels counts => ?_⟩
      cases hlabels.symm.trans (Exchange.countsAs_iff.1 counts)
    · intro request asked
      have hlabels := Exchange.labels?_of_posts posts asked
      refine ⟨⟨⟨request.kind.kind, request.operation.name⟩,
        callResult (route.verdict request exchange.store)⟩, fun other => ?_⟩
      rw [Exchange.countsAs_iff, hlabels, Option.some.injEq, eq_comm]
  · intro others same
    have hcalls : ∀ kind operation result,
        (session {} exchanges).1.callCount kind operation result =
          (session {} others).1.callCount kind operation result := by
      intro kind operation result
      rw [hcount, hcount, same.countP_eq]
    refine ⟨?_, fun kind operation => ⟨hcalls kind operation, ?_⟩⟩
    · rw [session_responses, session_responses, ← List.map_prod_left_eq_zip,
        ← List.map_prod_left_eq_zip]
      exact same.map _
    · rw [hbalanced, hbalanced]
      simp only [hcalls]

/-! ### Three exchanges -/

def unaskedExchange : Exchange where
  store key := .error key.notFound
  seconds := .zero false
  http := {
    path := Route.schemas.path
    body := "\x7b\"apiVersion\":\"v1\",\"kind\":\"Review\"\x7d" }

def failingExchange : Exchange where
  store _ := .error (.unavailable "down")
  seconds := .zero false
  http := { path := Route.schemas.path, body := schemaBody }

def refusedExchange : Exchange where
  store key := .error key.notFound
  seconds := .zero false
  http := { path := Route.opsRequests.path, body := emptyBody }

theorem unaskedExchange_posts :
    unaskedExchange.http.Posts .schemas ⟨⟨"v1", "Review"⟩, none, none⟩ :=
  HttpRequest.posts_of_read (by decide +kernel : _ = 35) (by decide)
    (by decide +kernel) .schemas

theorem failingExchange_posts :
    failingExchange.http.Posts .schemas ⟨⟨"", ""⟩, some schemaReview, none⟩ :=
  HttpRequest.posts_of_read (by decide +kernel : _ = 151) (by decide)
    (by decide +kernel) .schemas

theorem labels?_failingExchange :
    failingExchange.labels? = some ⟨⟨"MySQLDatabase", "CREATE"⟩, .error⟩ :=
  (Exchange.labels?_of_posts failingExchange_posts rfl).trans
    (by decide +kernel)

theorem labels?_refusedExchange :
    refusedExchange.labels? = some ⟨⟨"MySQLOpsRequest", "CREATE"⟩, .denied⟩ :=
  (Exchange.labels?_of_posts emptyBody_posts rfl).trans (by decide +kernel)

/-- One call fails, one is denied and one is not counted, in either order. -/
theorem three_exchanges_counted :
    let exchanges := [unaskedExchange, failingExchange, refusedExchange]
    unaskedExchange.answer =
        { status := 400, body := some emptyReviewAnswer } ∧
      (session {} exchanges).1.callCount "MySQLDatabase" "CREATE" .error = 1 ∧
      (session {} exchanges).1.callCount "MySQLOpsRequest" "CREATE" .denied =
        1 ∧
      (session {} exchanges.reverse).1.callCount "MySQLDatabase" "CREATE"
        .error = 1 ∧
      (session {} exchanges.reverse).1.durationCount "MySQLOpsRequest"
        "CREATE" = 1 := by
  intro exchanges
  obtain ⟨-, hcount, hbalanced, hposts, hperm⟩ :=
    counters_conserve_calls exchanges
  obtain ⟨hunasked, -⟩ :=
    (hposts _ List.mem_cons_self _ _ unaskedExchange_posts).1 rfl
  obtain ⟨-, hunlabelled⟩ :=
    Exchange.answer_of_not_asked unaskedExchange_posts rfl
  obtain ⟨-, hreversed⟩ := hperm _ exchanges.reverse_perm.symm
  have hfailing : (session {} exchanges).1.callCount "MySQLDatabase" "CREATE"
      .error = 1 := by
    simp [hcount, exchanges, Exchange.countsAs_iff, hunlabelled,
      labels?_failingExchange, labels?_refusedExchange]
  have hrefused : ∀ result,
      (session {} exchanges).1.callCount "MySQLOpsRequest" "CREATE" result =
        if result = .denied then 1 else 0 := by
    intro result
    cases result <;> simp [hcount, exchanges, Exchange.countsAs_iff,
      hunlabelled, labels?_failingExchange, labels?_refusedExchange]
  refine ⟨hunasked, hfailing, hrefused .denied, ?_, ?_⟩
  · rw [← (hreversed _ _).1, hfailing]
  · rw [← (hreversed _ _).2, hbalanced]
    simp [hrefused]

end AdmissionGate
