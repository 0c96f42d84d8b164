import AdmissionGate.Proofs.Review.Report

/-!
# Counted reviews

Every posted review with a request is counted once, by its kind, its operation and
what it came to.  It counts as an error where the store could not be reached, and
not where an object of the store could not be read, although the client is told
of an internal error in both cases.
-/

namespace AdmissionGate

/-! ## Counts -/

theorem lookup_cons_eq_ite {Label Value : Type} [DecidableEq Label]
    (label other : Label) (value : Value) (entries : List (Label × Value)) :
    ((label, value) :: entries).lookup other =
      if other = label then some value else entries.lookup other := by
  by_cases hother : other = label
  · simp [hother]
  · simp [List.lookup_cons, beq_false_of_ne hother, hother]

theorem lookup_updateLabel {Label Value : Type} [DecidableEq Label]
    (label other : Label) (fresh : Value) (change : Value → Value)
    (entries : List (Label × Value)) :
    (updateLabel label fresh change entries).lookup other =
      if other = label then some (change ((entries.lookup label).getD fresh))
      else entries.lookup other := by
  induction entries with
  | nil => simp only [updateLabel, lookup_cons_eq_ite, List.lookup_nil,
      Option.getD_none]
  | cons head rest ih =>
      obtain ⟨held, value⟩ := head
      by_cases hheld : held = label
      · subst hheld
        simp only [updateLabel, if_true, lookup_cons_eq_ite, Option.getD_some]
        split <;> rfl
      · have hlabel : label ≠ held := Ne.symm hheld
        simp only [updateLabel, if_neg hheld, lookup_cons_eq_ite, ih,
          if_neg hlabel]
        by_cases hother : other = label
        · subst hother
          simp only [if_neg hlabel, if_true]
        · simp only [if_neg hother]

namespace Metrics

theorem callCount_record (metrics : Metrics) (kind operation : String)
    (result : CallResult) (seconds : Binary64) (otherKind otherOperation : String)
    (other : CallResult) :
    (metrics.record kind operation result seconds).callCount otherKind
        otherOperation other =
      metrics.callCount otherKind otherOperation other +
        if otherKind = kind ∧ otherOperation = operation ∧ other = result then 1
        else 0 := by
  simp only [record, callCount, lookup_updateLabel, ResultLabels.mk.injEq,
    CallLabels.mk.injEq, and_assoc]
  split
  · rename_i same
    obtain ⟨rfl, rfl, rfl⟩ := same
    rfl
  · rfl

end Metrics

/-! ## Verdicts with failures -/

theorem AdmissionCall.verdict_cases (call : AdmissionCall)
    (store : ObjectStore) :
    (∃ warnings, call.verdict store = .ok warnings) ∨
      (∃ rejection, call.verdict store = .error (.invalid rejection)) ∨
      ∃ error, call.verdict store = .error (.store error) := by
  rw [call.verdict_eq_inquiry]
  rcases call.inquiry.verdict_cases store with ⟨error, hverdict, -⟩ |
    ⟨hadmitted | hrejected, -⟩
  · exact .inr (.inr ⟨error, hverdict⟩)
  · exact .inl hadmitted
  · exact .inr (.inl hrejected)

namespace Route

variable {route : Route} {request : ReviewRequest} {store : ObjectStore}

theorem verdict_eq_storeError_iff {error : StoreError} :
    route.verdict request store = .error (.store error) ↔
      ∃ call, request.Calls route call ∧
        call.verdict store = .error (.store error) := by
  constructor
  · intro h
    rcases verdict_eq_error h with (hother | hother | hother) | called
    · cases hother
    · cases hother
    · cases hother
    · exact called
  · rintro ⟨call, calls, hcall⟩
    exact (verdict_of_calls calls).trans hcall

theorem verdict_ne_cluster (error : ClusterError) :
    route.verdict request store ≠ .error (.cluster error) := by
  intro h
  rcases verdict_eq_error h with (hother | hother | hother) | ⟨call, -, hcall⟩
  · cases hother
  · cases hother
  · cases hother
  · rcases call.verdict_cases store with ⟨_, h⟩ | ⟨_, h⟩ | ⟨_, h⟩ <;>
      cases hcall.symm.trans h

theorem denies_internalError_iff :
    (ReviewResponse.ofVerdict request.uid
        (route.verdict request store)).given.Denies 500 "InternalError" ↔
      ∃ error, route.verdict request store = .error (.store error) := by
  cases hverdict : route.verdict request store with
  | ok warnings =>
      refine iff_of_false (fun denies => ?_) nofun
      cases (ReviewResponse.given_ok warnings).1.symm.trans denies.1
  | error error =>
      have hdenies :=
        ReviewResponse.denies_of_error request.uid error
      cases error with
      | store error => exact iff_of_true hdenies ⟨error, rfl⟩
      | cluster error => exact absurd hverdict (verdict_ne_cluster error)
      | _ =>
          refine iff_of_false (fun denies => ?_) nofun
          cases hdenies.2.1.symm.trans denies.2.1

theorem callResult_eq_error_iff :
    callResult (route.verdict request store) = .error ↔
      ∃ error, route.verdict request store = .error (.store error) ∧
        error.isRetryable = true := by
  cases hverdict : route.verdict request store with
  | ok warnings => exact iff_of_false nofun nofun
  | error error =>
      cases error with
      | store error => cases error <;>
          simp [callResult, AdmissionError.callResult,
            AdmissionError.isRetryable, StoreError.isRetryable]
      | cluster error => exact absurd hverdict (verdict_ne_cluster error)
      | _ => exact iff_of_false nofun nofun

theorem verdict_ne_notFound (kind name : String) :
    route.verdict request store ≠ .error (.store (.notFound kind name)) := by
  intro h
  obtain ⟨call, -, hcall⟩ := verdict_eq_storeError_iff.1 h
  rw [call.verdict_eq_inquiry] at hcall
  exact Inquiry.verdict_ne_notFound kind name hcall

/-- Of the failures of a store only an object that cannot be decoded does not
pass. -/
theorem retryable_iff_not_decode :
    ((∃ error, route.verdict request store = .error (.store error) ∧
        error.isRetryable = true) ↔
      ∃ error, route.verdict request store = .error (.store error)) ↔
    ¬ ∃ kind name message, route.verdict request store =
      .error (.store (.decode kind name message)) := by
  constructor
  · rintro hfailure ⟨kind, name, message, hdecode⟩
    obtain ⟨error, herror, hretryable⟩ := hfailure.2 ⟨_, hdecode⟩
    cases hdecode.symm.trans herror
    cases hretryable
  · refine fun hdecode => ⟨fun ⟨error, herror, _⟩ => ⟨error, herror⟩, ?_⟩
    rintro ⟨error, herror⟩
    refine ⟨error, herror, ?_⟩
    cases error with
    | unavailable message => rfl
    | notFound kind name => exact absurd herror (verdict_ne_notFound kind name)
    | decode kind name message =>
        exact absurd ⟨kind, name, message, herror⟩ hdecode

end Route

/-! ## Posted reviews -/

/-- A posted review with a request is counted once.  It is counted as an error
exactly when the store fails in a way that may pass, which the client is told to
be an internal error.  The converse holds unless the store has an object that
cannot be decoded: that is an internal error too, but it counts as a denial. -/
theorem error_counted_iff {http : HttpRequest} {route : Route} {review : Review}
    {request : ReviewRequest} (posts : http.Posts route review)
    (asked : review.request = some request) (store : ObjectStore)
    (metrics : Metrics) (seconds : Binary64) :
    ∃ body response result,
      (handle store metrics seconds http).2 =
          { status := 200, body := some body } ∧
      Review.codec.decode? body =
          some { type := review.type, request := none,
                 response := some response } ∧
      (∀ kind operation other,
        (handle store metrics seconds http).1.callCount kind operation other =
          metrics.callCount kind operation other +
            if kind = request.kind.kind ∧
                operation = request.operation.name ∧ other = result then 1
            else 0) ∧
      (response.Denies 500 "InternalError" ↔
        ∃ call error, request.Calls route call ∧
          call.verdict store = .error (.store error)) ∧
      (result = .error ↔
        ∃ call error, request.Calls route call ∧
          call.verdict store = .error (.store error) ∧
          (AdmissionError.store error).isRetryable = true) ∧
      ((result = .error ↔ response.Denies 500 "InternalError") ↔
        ¬ ∃ call kind name message, request.Calls route call ∧
          call.verdict store = .error (.store (.decode kind name message))) := by
  refine ⟨_, _, callResult (route.verdict request store), ?_,
    decode?_answeredReview review.type request.uid
      (route.verdict request store), ?_, ?_, ?_, ?_⟩
  · simp only [handle_of_posts posts, postReview, asked]
  · intro kind operation other
    simp only [handle_of_posts posts, postReview, asked,
      Metrics.callCount_record]
  · rw [Route.denies_internalError_iff, exists_comm]
    simp only [Route.verdict_eq_storeError_iff]
  · rw [Route.callResult_eq_error_iff, exists_comm]
    simp only [Route.verdict_eq_storeError_iff, AdmissionError.isRetryable,
      ← exists_and_right, and_assoc]
  · have hdecode : (∃ call kind name message, request.Calls route call ∧
        call.verdict store = .error (.store (.decode kind name message))) ↔
          ∃ kind name message, route.verdict request store =
            .error (.store (.decode kind name message)) := by
      simp only [Route.verdict_eq_storeError_iff]
      constructor
      · rintro ⟨call, kind, name, message, hcall⟩
        exact ⟨kind, name, message, call, hcall⟩
      · rintro ⟨kind, name, message, call, hcall⟩
        exact ⟨call, kind, name, message, hcall⟩
    rw [hdecode, Route.callResult_eq_error_iff, Route.denies_internalError_iff]
    exact Route.retryable_iff_not_decode

/-! ### A database that cannot be decoded -/

/-- A schema request for a database, given as arrays where it may be. -/
def schemaBody : String :=
  "\x7b\"apiVersion\":\"\",\"kind\":\"\",\"request\":[\"\"," ++
    "[\"\",\"\",\"MySQLDatabase\"],[\"\",\"\",\"\"],null,null,null,null," ++
    "\"\",\"\",\"CREATE\",\x7b\x7d," ++
    "\x7b\"spec\":\x7b\"databaseRef\":[\"d\"]\x7d\x7d,null]\x7d"

def schemaObject : Object :=
  ⟨none, {}, [("spec", .object [("databaseRef", .array [.string "d"])])]⟩

def schemaReview : ReviewRequest where
  uid := ""
  kind := ⟨"", "", "MySQLDatabase"⟩
  resource := ⟨"", "", ""⟩
  namespaceName := some ""
  operation := .create
  user := ⟨none, none, none, none⟩
  object := some schemaObject

def schemaDecoded : SchemaRequest where
  metadata := { namespaceName := some "" }
  spec := { database := ⟨"d", none⟩ }

def brokenStore : ObjectStore := fun _ => .ok ⟨none, {}, [("spec", .null)]⟩

/-- The client is told of an internal error, and the call counts as denied. -/
theorem broken_database_counts_as_denied :
    ∃ body response,
      (handle brokenStore {} (.zero false)
          { path := Route.schemas.path, body := schemaBody }).2 =
        { status := 200, body := some body } ∧
      Review.codec.decode? body = some ⟨⟨"", ""⟩, none, some response⟩ ∧
      response.Denies 500 "InternalError" ∧
      (handle brokenStore {} (.zero false)
          { path := Route.schemas.path, body := schemaBody }).1.callCount
        "MySQLDatabase" "CREATE" .error = 0 := by
  have hposts : HttpRequest.Posts
      { path := Route.schemas.path, body := schemaBody } .schemas
      ⟨⟨"", ""⟩, some schemaReview, none⟩ :=
    HttpRequest.posts_of_read (by decide +kernel : _ = 151) (by decide)
      (by decide +kernel) .schemas
  have hcalls : schemaReview.Calls .schemas
      (.schema .mySQL (.create schemaDecoded)) :=
    .schema (by decide) (.create rfl ⟨schemaObject, rfl, by decide +kernel⟩)
  have hfails : (AdmissionCall.schema .mySQL (.create schemaDecoded)).verdict
      brokenStore = .error (.store (.decode "MySQL" "d" decodeFailure)) := rfl
  obtain ⟨body, response, result, hanswer, hbody, hcount, hdenies, -, hagree⟩ :=
    error_counted_iff hposts rfl brokenStore {} (.zero false)
  have hinternal := hdenies.2 ⟨_, _, hcalls, hfails⟩
  have hresult : result ≠ .error := by
    intro herror
    exact hagree.1 (iff_of_true herror hinternal)
      ⟨_, _, _, _, hcalls, hfails⟩
  refine ⟨body, response, hanswer, hbody, hinternal, ?_⟩
  rw [hcount, if_neg fun same => hresult same.2.2.symm]
  rfl

end AdmissionGate
