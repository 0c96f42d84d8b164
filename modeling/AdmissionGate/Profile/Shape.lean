import AdmissionGate.FieldError

/-!
# Shapes

The member names that a scaling or expansion section may have: some for any
database, some only with or only without a cluster.
-/

namespace AdmissionGate

inductive ShapeClass where
  | shared
  | standalone
  | clustered
deriving DecidableEq, Repr

structure Shape where
  shared : List String := []
  standalone : List String := []
  clustered : List String := []
deriving DecidableEq, Repr

namespace Shape

/-- The class of a name; a name in several lists belongs to the first of
them. -/
def classify? (shape : Shape) (name : String) : Option ShapeClass :=
  if shape.shared.contains name then some .shared
  else if shape.standalone.contains name then some .standalone
  else if shape.clustered.contains name then some .clustered
  else none

def known (shape : Shape) : List String :=
  shape.shared ++ shape.standalone ++ shape.clustered

/-! ## Checking a section -/

def nameErrors (shape : Shape) (path : String) (clustered : Bool)
    (name : String) : List FieldError :=
  match shape.classify? name with
  | none => [.notSupported (path ++ "." ++ name) (.string name) shape.known]
  | some .shared => []
  | some .standalone =>
    if clustered then
      [.forbidden (path ++ "." ++ name)
        "can not be set on a clustered database"]
    else []
  | some .clustered =>
    if clustered then []
    else
      [.forbidden (path ++ "." ++ name)
        "can only be set on a clustered database"]

def first? (shape : Shape) (wanted : ShapeClass) (names : List String) :
    Option String :=
  names.find? fun name => shape.classify? name == some wanted

def emptyErrors (shape : Shape) (path : String) (names : List String) :
    List FieldError :=
  if names.isEmpty then
    [.required path
      ("at least one of " ++ ", ".intercalate shape.known ++ " must be set")]
  else []

def mixtureErrors (shape : Shape) (path : String) (names : List String) :
    List FieldError :=
  match shape.first? .standalone names, shape.first? .clustered names with
  | some standalone, some clustered =>
    [.forbidden path
      (standalone ++ " and " ++ clustered ++ " can not be set together")]
  | _, _ => []

def errors (shape : Shape) (path : String) (clustered : Bool)
    (names : List String) : List FieldError :=
  names.flatMap (shape.nameErrors path clustered) ++
    shape.emptyErrors path names ++ shape.mixtureErrors path names

end Shape
end AdmissionGate
