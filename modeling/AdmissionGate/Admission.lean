import AdmissionGate.AdmissionError

/-!
# Outcomes of admission

A call is admitted with warnings, or it fails with the error that stands in its
way.
-/

namespace AdmissionGate

/-- What the client should know about a call that is admitted. -/
abbrev Warnings := List String

abbrev Verdict := Except AdmissionError Warnings

/-- What a store answers, as a step of admission. -/
def fromStore {Value : Type} (answer : Except StoreError Value) :
    Except AdmissionError Value :=
  answer.mapError .store

@[simp] theorem fromStore_ok {Value : Type} (value : Value) :
    fromStore (.ok value : Except StoreError Value) = .ok value := rfl

@[simp] theorem fromStore_error {Value : Type} (error : StoreError) :
    fromStore (.error error : Except StoreError Value) =
      .error (.store error) := rfl

end AdmissionGate
