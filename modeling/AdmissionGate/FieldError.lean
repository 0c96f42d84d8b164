import AdmissionGate.Json.Printer

/-!
# Field errors

What is wrong with one field of a request: the kind of fault, its category, the
path of the field, the value that was refused and a further detail.
-/

namespace AdmissionGate

/-! ## Kinds of fault -/

inductive Fault where
  | required
  | invalid
  | notFound
  | notSupported
  | forbidden
  | duplicate
deriving DecidableEq, Repr

namespace Fault

def name : Fault → String
  | .required => "Required"
  | .invalid => "Invalid"
  | .notFound => "NotFound"
  | .notSupported => "NotSupported"
  | .forbidden => "Forbidden"
  | .duplicate => "Duplicate"

def reason (fault : Fault) : String := "FieldValue" ++ fault.name

def description : Fault → String
  | .required => "Required value"
  | .invalid => "Invalid value"
  | .notFound => "Not found"
  | .notSupported => "Unsupported value"
  | .forbidden => "Forbidden"
  | .duplicate => "Duplicate value"

end Fault

inductive Category where
  /-- A referenced object does not exist. -/
  | referential
  /-- A part is missing, in conflict or out of bounds. -/
  | structural
  /-- An update touches what is frozen. -/
  | immutability
  /-- The engine does not have the operation. -/
  | unsupportedType
deriving DecidableEq, Repr

namespace Category

def all : List Category :=
  [.referential, .structural, .immutability, .unsupportedType]

def name : Category → String
  | .referential => "Referential"
  | .structural => "Structural"
  | .immutability => "Immutability"
  | .unsupportedType => "UnsupportedType"

end Category

/-! ## Errors -/

structure FieldError where
  fault : Fault
  category : Category
  field : String
  badValue : Option Json
  detail : String
deriving DecidableEq, Repr

namespace FieldError

def required (field detail : String) : FieldError :=
  ⟨.required, .structural, field, none, detail⟩

def invalid (field : String) (value : Json) (detail : String) : FieldError :=
  ⟨.invalid, .structural, field, some value, detail⟩

def forbidden (field detail : String) : FieldError :=
  ⟨.forbidden, .structural, field, none, detail⟩

def duplicate (field : String) (value : Json) : FieldError :=
  ⟨.duplicate, .structural, field, some value, ""⟩

def notFound (field : String) (value : Json) (detail : String) : FieldError :=
  ⟨.notFound, .referential, field, some value, detail⟩

def notSupported (field : String) (value : Json) (valid : List String) :
    FieldError :=
  ⟨.notSupported, .structural, field, some value,
    "supported values: " ++
      ", ".intercalate (valid.map fun name => "\"" ++ name ++ "\"")⟩

def immutable (field detail : String) : FieldError :=
  ⟨.invalid, .immutability, field, none, detail⟩

/-! ## Text -/

/-- A refused text is quoted as it stands, another value is written as JSON, and
null is not mentioned. -/
def valueText : Json → String
  | .string text => ": \"" ++ text ++ "\""
  | .null => ""
  | value => ": " ++ value.render

def body (error : FieldError) : String :=
  error.fault.description ++ (error.badValue.map valueText).getD "" ++
    (if error.detail.isEmpty then "" else ": " ++ error.detail)

def text (error : FieldError) : String := error.field ++ ": " ++ error.body

end FieldError
end AdmissionGate
