import AdmissionGate.Catalog
import AdmissionGate.OpsRequest
import AdmissionGate.Profile

/-!
# What a rule may look at

A rule judges a request by the request itself, the database, the engine's
profile and the other objects that the request refers to.
-/

namespace AdmissionGate

/-- The other objects that a request refers to.  A secret that was not looked up
counts as one that does not exist. -/
structure Collaborators where
  target : Option CatalogVersion := none
  current : Option CatalogVersion := none
  secrets : Dict Bool := .empty
deriving DecidableEq, Repr

def Collaborators.hasSecret (collaborators : Collaborators) (name : String) :
    Bool :=
  (collaborators.secrets.find? name).getD false

/-- What a rule is told about the other objects, whoever answers it. -/
structure Answers where
  target : Option CatalogVersion := none
  current : Option CatalogVersion := none
  hasSecret : String → Bool := fun _ => false

def Collaborators.answers (collaborators : Collaborators) : Answers where
  target := collaborators.target
  current := collaborators.current
  hasSecret := collaborators.hasSecret

instance : Coe Collaborators Answers := ⟨Collaborators.answers⟩

structure RuleContext where
  request : OpsRequest
  database : Database
  profile : Profile
  collaborators : Answers := {}

namespace RuleContext

def spec (context : RuleContext) : OpsRequestSpec := context.request.spec

def isClustered (context : RuleContext) : Bool :=
  context.profile.isClustered context.database

def engineKind (context : RuleContext) : String := context.profile.engine.kind

def databaseVersion (context : RuleContext) : String :=
  context.database.spec.version

end RuleContext

def missingSection (operation : Operation) : FieldError :=
  .required operation.path
    (operation.sectionName ++ " must be set for type " ++ operation.name)

end AdmissionGate
