import AdmissionGate.Engine

/-!
# Kinds of schema requests

The engines in whose databases logical databases can be requested.
-/

namespace AdmissionGate

inductive SchemaKind where
  | mySQL
  | postgres
  | mongoDB
deriving DecidableEq, Repr

namespace SchemaKind

def all : List SchemaKind := [.mySQL, .postgres, .mongoDB]

def engine : SchemaKind → Engine
  | .mySQL => .mySQL
  | .postgres => .postgres
  | .mongoDB => .mongoDB

def kind (schemaKind : SchemaKind) : String :=
  schemaKind.engine.kind ++ "Database"

def ofKind? (kind : String) : Option SchemaKind :=
  all.find? fun schemaKind => schemaKind.kind == kind

theorem ofKind?_kind (schemaKind : SchemaKind) :
    ofKind? schemaKind.kind = some schemaKind := by
  cases schemaKind <;> decide

def group : String := "schema.kubedb.com"

def notReadyCondition (schemaKind : SchemaKind) : String :=
  schemaKind.engine.kind ++ "NotReady"

def reservedNames : SchemaKind → List String
  | .mySQL => ["mysql", "sys", "information_schema", "performance_schema"]
  | .postgres => ["postgres", "template0", "template1"]
  | .mongoDB => ["admin", "config", "local"]

/-- Whether a name is reserved in any case.  The reserved names hold letters of
ASCII that no other character is a capital of, so the case of ASCII letters is
all that matters. -/
def isReserved (schemaKind : SchemaKind) (name : String) : Bool :=
  schemaKind.reservedNames.contains name.toLower

def supportsReadOnly (schemaKind : SchemaKind) : Bool := schemaKind == .mySQL

def codec : Codec SchemaKind :=
  .choice all fun schemaKind => schemaKind.engine.kind

end SchemaKind
end AdmissionGate
