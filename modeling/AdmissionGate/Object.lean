import AdmissionGate.Object.Metadata

/-!
# Objects

An object of the cluster whose kind is not fixed: its type, its metadata and all
its other members as they are.
-/

namespace AdmissionGate

structure ObjectType where
  apiVersion : String
  kind : String
deriving DecidableEq, Repr

structure Object where
  type : Option ObjectType
  metadata : Metadata
  data : Members
deriving DecidableEq, Repr

namespace Object

/-! ## Reading -/

/-- Takes the two members of the type out of the members of an object.  A member
that is no text or stands twice ends the search, and then, as when one of the
two is missing, the object has no type. -/
def takeType (apiVersion kind : Option String) :
    Members → Option ObjectType × Members
  | [] => (do return ⟨← apiVersion, ← kind⟩, [])
  | (name, value) :: rest =>
    if name = "apiVersion" then
      match apiVersion, value with
      | none, .string text => takeType (some text) kind rest
      | _, _ => (none, rest)
    else if name = "kind" then
      match kind, value with
      | none, .string text => takeType apiVersion (some text) rest
      | _, _ => (none, rest)
    else
      let (type, others) := takeType apiVersion kind rest
      (type, (name, value) :: others)

def ofMembers? (members : Members) : Option Object := do
  let metadata ← Metadata.field.get? members
  let (type, others) :=
    takeType none none (members.without [Metadata.field.name])
  return ⟨type, metadata, sortEntries others⟩

def ofJson? (json : Json) : Option Object := json.object?.bind ofMembers?

/-! ## Writing -/

def typeMembers (object : Object) : Members :=
  match object.type with
  | some type =>
    [("apiVersion", .string type.apiVersion), ("kind", .string type.kind)]
  | none => []

def toJson (object : Object) : Json :=
  .object
    (object.typeMembers ++ Metadata.field.put object.metadata ++ object.data)

/-- Only the metadata is known; it may not stand twice. -/
def plan : Scan.Plan where
  known := [(Metadata.field.name, Metadata.field.scan)]
  mayRepeat := false
  readsOthers := true

def codec : Codec Object where
  encode := toJson
  decode? := ofJson?
  scan := plan.object fun json => (ofJson? json).isSome

end Object
end AdmissionGate
