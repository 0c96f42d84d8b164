import AdmissionGate.FieldError
import AdmissionGate.Status

/-!
# Rejections

An object that fails validation, named by its kind, with all the errors found in
it.
-/

namespace AdmissionGate

structure Rejection where
  group : String
  kind : String
  name : String
  errors : List FieldError
deriving DecidableEq, Repr

namespace Rejection

/-- One error stands alone; any other number of them stands in brackets. -/
def message (rejection : Rejection) : String :=
  rejection.kind ++ "." ++ rejection.group ++ " \"" ++ rejection.name ++
    "\" is invalid: " ++
    match rejection.errors with
    | [error] => error.text
    | errors => "[" ++ ", ".intercalate (errors.map FieldError.text) ++ "]"

def hasCategory (rejection : Rejection) (category : Category) : Bool :=
  rejection.errors.any fun error => error.category == category

/-! ## Details for the client -/

def cause (error : FieldError) : StatusCause :=
  ⟨error.fault.reason, error.body, error.field⟩

def details (rejection : Rejection) : StatusDetails where
  name := rejection.name
  group := rejection.group
  kind := rejection.kind
  causes := rejection.errors.map cause

end Rejection
end AdmissionGate
