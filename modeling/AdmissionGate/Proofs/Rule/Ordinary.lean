import AdmissionGate.FieldError

/-!
# Ordinary errors

An ordinary error is a missing object or a fault of structure, not a frozen field
or an operation that the engine does not have.
-/

namespace AdmissionGate.FieldError

/-! ## Lists of errors -/

section

variable {Holds : FieldError → Prop}

theorem forall_mem_ite {condition : Prop} [Decidable condition]
    {yes no : List FieldError} :
    (∀ error ∈ if condition then yes else no, Holds error) ↔
      (condition → ∀ error ∈ yes, Holds error) ∧
        (¬ condition → ∀ error ∈ no, Holds error) := by
  split <;> simp [*]

theorem forall_mem_getD_map {Value : Type} {find : Value → List FieldError}
    (h : ∀ value, ∀ error ∈ find value, Holds error) (value? : Option Value) :
    ∀ error ∈ (value?.map find).getD [], Holds error := by
  cases value? with
  | none => exact nofun
  | some value => exact h value

end

/-! ## Ordinary errors -/

/-- An error is ordinary if it is referential when something was not found and
structural otherwise. -/
def Ordinary (error : FieldError) : Prop :=
  error.category = if error.fault = .notFound then .referential else .structural

theorem Ordinary.category_eq {error : FieldError} (h : error.Ordinary) :
    error.category = .referential ∨ error.category = .structural := by
  unfold Ordinary at h
  split at h
  · exact .inl h
  · exact .inr h

theorem Ordinary.ne_immutability {error : FieldError} (h : error.Ordinary) :
    error.category ≠ .immutability := by
  rcases h.category_eq with hcategory | hcategory <;> simp [hcategory]

def AllOrdinary (errors : List FieldError) : Prop :=
  ∀ error ∈ errors, error.Ordinary

@[simp] theorem allOrdinary_nil : AllOrdinary [] := by
  simp [AllOrdinary]

@[simp] theorem allOrdinary_append {front back : List FieldError} :
    AllOrdinary (front ++ back) ↔ AllOrdinary front ∧ AllOrdinary back :=
  List.forall_mem_append

@[simp] theorem allOrdinary_required (field detail : String) :
    AllOrdinary [required field detail] := by
  simp [AllOrdinary, Ordinary, required]

@[simp] theorem allOrdinary_invalid (field : String) (value : Json)
    (detail : String) : AllOrdinary [invalid field value detail] := by
  simp [AllOrdinary, Ordinary, invalid]

@[simp] theorem allOrdinary_forbidden (field detail : String) :
    AllOrdinary [forbidden field detail] := by
  simp [AllOrdinary, Ordinary, forbidden]

@[simp] theorem allOrdinary_notFound (field : String) (value : Json)
    (detail : String) : AllOrdinary [notFound field value detail] := by
  simp [AllOrdinary, Ordinary, notFound]

@[simp] theorem allOrdinary_notSupported (field : String) (value : Json)
    (valid : List String) : AllOrdinary [notSupported field value valid] := by
  simp [AllOrdinary, Ordinary, notSupported]

@[simp] theorem allOrdinary_ite {condition : Prop} [Decidable condition]
    {yes no : List FieldError} :
    AllOrdinary (if condition then yes else no) ↔
      (condition → AllOrdinary yes) ∧ (¬ condition → AllOrdinary no) :=
  forall_mem_ite

theorem allOrdinary_getD_map {Value : Type} {find : Value → List FieldError}
    (h : ∀ value, AllOrdinary (find value)) (value? : Option Value) :
    AllOrdinary ((value?.map find).getD []) :=
  forall_mem_getD_map h value?

end AdmissionGate.FieldError
