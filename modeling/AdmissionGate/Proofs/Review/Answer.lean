import AdmissionGate.Proofs.Codec.Recovery
import AdmissionGate.Service

/-!
# Answers

A client reads the answer to a review as it reads any review.  What it finds in
it is the response that was meant.
-/

namespace AdmissionGate

/-! ## Statuses -/

theorem StatusCause.recovers (cause : StatusCause) :
    StatusCause.codec.Recovers cause :=
  (Layout.Recovers.start StatusCause.mk
    |>.member (.sparse (.string _)) (by decide)
    |>.member (.sparse (.string _)) (by decide)
    |>.member (.sparse (.string _)) (by decide)).recordFrom 0

theorem StatusDetails.recovers {details : StatusDetails}
    (fits : details.retryAfterSeconds ≤ Text.maxUInt32) :
    StatusDetails.codec.Recovers details :=
  (Layout.Recovers.start StatusDetails.mk
    |>.member (.sparse (.string _)) (by decide)
    |>.member (.sparse (.string _)) (by decide)
    |>.member (.sparse (.string _)) (by decide)
    |>.member (.sparse (.string _)) (by decide)
    |>.member (.listed fun cause _ => cause.recovers) (by decide)
    |>.member (.sparse (.unsigned fits)) (by decide)).recordFrom 0

theorem StatusSummary.recovers (summary : StatusSummary) :
    StatusSummary.codec.Recovers summary := by
  cases summary <;> rfl

theorem Status.recovers {status : Status} (fits : status.code ≤ Text.maxUInt16)
    (hdetails : ∀ details, status.details = some details →
      details.retryAfterSeconds ≤ Text.maxUInt32) :
    Status.codec.Recovers status :=
  (Layout.Recovers.start Status.mk
    |>.member (.optional (fun summary _ => summary.recovers)
        fun summary => by cases summary <;> nofun) (by decide)
    |>.member (.sparse (.unsigned fits)) (by decide)
    |>.member (.sparse (.string _)) (by decide)
    |>.member (.sparse (.string _)) (by decide)
    |>.member (.optional (fun details held =>
        StatusDetails.recovers (hdetails details held)) nofun)
      (by decide)).recordFrom 0

theorem recovers_denied {code : Nat} (fits : code ≤ Text.maxUInt16)
    {reason message : String} {details : Option StatusDetails}
    (hdetails : ∀ held, details = some held →
      held.retryAfterSeconds ≤ Text.maxUInt32) :
    Status.codec.Recovers (denied code reason message details) :=
  Status.recovers fits hdetails

theorem AdmissionError.recovers_denial (error : AdmissionError) :
    Status.codec.Recovers error.denial := by
  cases error with
  | invalid rejection =>
      refine recovers_denied (by decide) ?_
      rintro _ ⟨⟩
      exact Nat.zero_le _
  | _ => exact recovers_denied (by decide) nofun

/-! ## Responses -/

theorem GivenResponse.recovers {response : GivenResponse}
    (hstatus : Status.codec.Recovers response.status)
    (hpatch : response.patch = none) (hpatchType : response.patchType = none)
    (hnotes : response.auditAnnotations = .empty) :
    codec.Recovers response :=
  (Layout.Recovers.start GivenResponse.mk
    |>.member (.required (.string _)) (by decide)
    |>.member (.required (.bool _)) (by decide)
    |>.member (.required hstatus) (by decide)
    |>.member (.absent hpatch) (by decide)
    |>.member (.absent hpatchType) (by decide)
    |>.member (.unmapped hnotes) (by decide)
    |>.member (.optional (fun _ _ => .list fun text _ => .string text) nofun)
      (by decide)).recordFrom 7

namespace ReviewResponse

def given (response : ReviewResponse) : GivenResponse where
  uid := response.uid
  allowed := response.allowed
  status := response.status
  warnings := if response.warnings.isEmpty then none else some response.warnings

theorem toJson_eq_encode (response : ReviewResponse) :
    response.toJson = GivenResponse.codec.encode response.given := by
  obtain ⟨uid, warnings, denial⟩ := response
  cases warnings <;> rfl

theorem recovers_ofVerdict (uid : String) (verdict : Verdict) :
    GivenResponse.codec.Recovers (ofVerdict uid verdict).given := by
  refine GivenResponse.recovers ?_ rfl rfl rfl
  cases verdict with
  | ok warnings => rfl
  | error error => exact error.recovers_denial

end ReviewResponse

/-! ## Reviews -/

theorem Review.recovers_answered (type : ObjectType) {response : GivenResponse}
    (hresponse : GivenResponse.codec.Recovers response) :
    codec.Recovers ⟨type, none, some response⟩ := by
  have hlayout : layout.Recovers
      (⟨type, none, some response⟩ : Review) ⟨type, none, some response⟩ :=
    Layout.Recovers.start Review.mk
      |>.inline
        (Layout.Recovers.start ObjectType.mk
          |>.member (.required (.string _)) (by decide)
          |>.member (.required (.string _)) (by decide)) (by decide)
      |>.member (.absent rfl) (by decide)
      |>.member (.optional (by rintro _ ⟨⟩; exact hresponse) nofun) (by decide)
  have hread := hlayout.read fun _ _ => rfl
  have hdistinct : Members.distinct typeLayout.names
      (layout.write ⟨type, none, some response⟩) = true := rfl
  simp only [Codec.Recovers, codec, ofJson?, Json.object?, Option.bind_eq_bind,
    Option.bind_some, hdistinct, if_true]
  exact hread

/-- The body that answers a review with a request is read as the response to the
verdict. -/
theorem decode?_answeredReview (type : ObjectType) (uid : String)
    (verdict : Verdict) :
    Review.codec.decode? (answeredReview type
        (ReviewResponse.ofVerdict uid verdict).toJson) =
      some ⟨type, none, some (ReviewResponse.ofVerdict uid verdict).given⟩ := by
  rw [ReviewResponse.toJson_eq_encode]
  exact Review.recovers_answered type
    (ReviewResponse.recovers_ofVerdict uid verdict)

end AdmissionGate
