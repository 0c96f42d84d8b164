import AdmissionGate.Json.Scan

/-!
# Codecs

Pairs of an encoder to JSON and a decoder from it, for scalars, lists,
dictionaries and the members of records, with the scan that reads a value out of
a text.  A record is written as an object; it is read from an object, whose
unknown members are passed over, or from an array of its members in order.
-/

namespace AdmissionGate

structure Codec (Value : Type) where
  encode : Value → Json
  decode? : Json → Option Value
  scan : Scan := .scalar fun json => (decode? json).isSome

namespace Codec

variable {Value : Type}

/-! ## Scalars -/

def string : Codec String where
  encode := .string
  decode? := Json.string?

def bool : Codec Bool where
  encode := .bool
  decode? := Json.bool?

/-- Integers of a signed range, given by its largest member. -/
def signed (largest : Nat) : Codec Int where
  encode := .integer
  decode? json :=
    json.integer?.bind fun value =>
      if Text.fitsSigned largest value then some value else none

def int32 : Codec Int := signed Text.maxInt32

def int64 : Codec Int := signed Text.maxInt64

def unsigned (largest : Nat) : Codec Nat where
  encode value := .integer value
  decode? json :=
    json.integer?.bind fun value =>
      if 0 ≤ value ∧ value ≤ largest then some value.toNat else none

def json : Codec Json where
  encode := id
  decode? := some
  scan := .whole

/-- A closed choice, written by name and read from the name or from an object
that maps the name to null. -/
def choice (all : List Value) (name : Value → String) : Codec Value where
  encode value := .string (name value)
  decode?
    | .string text => all.find? fun value => name value == text
    | .object [(text, .null)] => all.find? fun value => name value == text
    | _ => none
  scan := .choice (all.map name)

/-! ## Collections -/

def decodeItems? (item : Codec Value) : List Json → Option (List Value)
  | [] => some []
  | json :: rest => do
    let value ← item.decode? json
    let values ← decodeItems? item rest
    return value :: values

def list (item : Codec Value) : Codec (List Value) where
  encode values := .array (values.map item.encode)
  decode? json := json.array?.bind item.decodeItems?
  scan := .list item.scan

def decodeEntries? (entry : Codec Value) :
    List (String × Json) → Option (List (String × Value))
  | [] => some []
  | (key, json) :: rest => do
    let value ← entry.decode? json
    let values ← decodeEntries? entry rest
    return (key, value) :: values

def encodeEntries (entry : Codec Value) (values : List (String × Value)) :
    List (String × Json) :=
  values.map fun (key, value) => (key, entry.encode value)

def decodeDict? (entry : Codec Value) (members : List (String × Json)) :
    Option (Dict Value) :=
  (entry.decodeEntries? members).map Dict.ofList

def dict (entry : Codec Value) : Codec (Dict Value) where
  encode values := .object (entry.encodeEntries values.entries)
  decode? json := json.object?.bind entry.decodeDict?
  scan := .dict entry.scan

/-! ## Texts -/

/-- The value of a text that holds nothing else.  What follows a value matters
only once the value fits. -/
def ofText (codec : Codec Value) (text : String) : Except ReadFault Value := do
  let (outline, rest) := Json.readFirst text.toList
  let json ← codec.scan Json.depthLimit outline
  match codec.decode? json with
  | some value => if Json.endsHere rest then return value else throw .malformed
  | none => throw .unexpected

end Codec

/-! ## Members of records -/

abbrev Members := List (String × Json)

/-- How one member of a record is read, from its value if it is there, and
written, unless it is left out. -/
structure Field (Value : Type) where
  name : String
  scan : Scan
  read? : Option Json → Option Value
  write : Value → Option Json

namespace Field

variable {Value : Type}

def required (name : String) (codec : Codec Value) : Field Value where
  name := name
  scan := codec.scan
  read?
    | none => none
    | some json => codec.decode? json
  write value := some (codec.encode value)

/-- A member that stands for a default when it is absent and is always
written. -/
def defaulted (name : String) (codec : Codec Value) (default : Value) :
    Field Value where
  name := name
  scan := codec.scan
  read?
    | none => some default
    | some json => codec.decode? json
  write value := some (codec.encode value)

/-- A member that stands for a default when it is absent and is left out
then. -/
def sparse [DecidableEq Value] (name : String) (codec : Codec Value)
    (default : Value) : Field Value where
  name := name
  scan := codec.scan
  read?
    | none => some default
    | some json => codec.decode? json
  write value := if value = default then none else some (codec.encode value)

def optional (name : String) (codec : Codec Value) : Field (Option Value) where
  name := name
  scan := codec.scan.orNull
  read?
    | none | some .null => some none
    | some json => (codec.decode? json).map some
  write value := value.map codec.encode

/-- A text that is empty when absent or null and is always written. -/
def lenientString (name : String) : Field String where
  name := name
  scan := Codec.string.scan.orNull
  read?
    | none | some .null => some ""
    | some json => json.string?
  write value := some (.string value)

def listed (name : String) (item : Codec Value) : Field (List Value) where
  name := name
  scan := item.list.scan
  read?
    | none => some []
    | some json => item.list.decode? json
  write values :=
    if values.isEmpty then none else some (item.list.encode values)

def mapped (name : String) (entry : Codec Value) : Field (Dict Value) where
  name := name
  scan := entry.dict.scan
  read?
    | none => some Dict.empty
    | some json => entry.dict.decode? json
  write values :=
    if values.isEmpty then none else some (entry.dict.encode values)

def get? (field : Field Value) (members : Members) : Option Value :=
  field.read? (lookUp? field.name members)

def put (field : Field Value) (value : Value) : Members :=
  match field.write value with
  | none => []
  | some json => [(field.name, json)]

end Field

/-! ## Record layouts -/

namespace Members

def without (names : List String) (members : Members) : Members :=
  members.filter fun member => !names.contains member.1

def distinct (names : List String) (members : Members) : Bool :=
  names.all fun name =>
    (members.filter fun member => member.1 == name).length ≤ 1

end Members

/-- The members of a record in order.  Reading collects the arguments of the
record's constructor one by one; writing takes the members from the whole
record.  A text is scanned for the known members; the others are read in full
where the record keeps some of them. -/
structure Layout (Whole : Type) (Built : Type) where
  names : List String
  known : List (String × Scan)
  keepsOthers : Bool
  read? : Members → Option Built
  write : Whole → Members

namespace Layout

variable {Whole Value Built : Type}

def start (make : Built) : Layout Whole Built where
  names := []
  known := []
  keepsOthers := false
  read? _ := some make
  write _ := []

def member (layout : Layout Whole (Value → Built)) (field : Field Value)
    (part : Whole → Value) : Layout Whole Built where
  names := layout.names ++ [field.name]
  known := layout.known ++ [(field.name, field.scan)]
  keepsOthers := layout.keepsOthers
  read? members := do
    let build ← layout.read? members
    let value ← field.get? members
    return build value
  write whole := layout.write whole ++ field.put (part whole)

/-- The members of a part stand among those of the whole. -/
def inline (layout : Layout Whole (Value → Built)) (inner : Layout Value Value)
    (part : Whole → Value) : Layout Whole Built where
  names := layout.names ++ inner.names
  known := layout.known
  keepsOthers := true
  read? members := do
    let build ← layout.read? members
    let value ← inner.read? members
    return build value
  write whole := layout.write whole ++ inner.write (part whole)

/-- All members that the layout does not name become entries of a dictionary. -/
def others (layout : Layout Whole (Dict Value → Built)) (entry : Codec Value)
    (part : Whole → Dict Value) : Layout Whole Built where
  names := layout.names
  known := layout.known
  keepsOthers := true
  read? members := do
    let build ← layout.read? members
    let values ← entry.decodeDict? (members.without layout.names)
    return build values
  write whole := layout.write whole ++ entry.encodeEntries (part whole).entries

def plan (layout : Layout Whole Built) (mayRepeat : Bool) : Scan.Plan where
  known := layout.known
  mayRepeat := mayRepeat
  readsOthers := layout.keepsOthers

def decodeObject? (layout : Layout Whole Built) (json : Json) : Option Built :=
  json.object?.bind layout.read?

/-- A record that is read from objects only.  Of equal members the last one
counts. -/
def object (layout : Layout Whole Whole) : Codec Whole where
  encode whole := .object (layout.write whole)
  decode? := layout.decodeObject?
  scan := (layout.plan true).object fun json =>
    (layout.decodeObject? json).isSome

/-- The members of a record in an array that lists them in order; the last ones
may be missing, down to the number given. -/
def listed? (layout : Layout Whole Built) (least : Nat) (items : List Json) :
    Option Members :=
  if least ≤ items.length && items.length ≤ layout.names.length then
    some (layout.names.zip items)
  else none

def decodeFrom? (layout : Layout Whole Built) (least : Nat) :
    Json → Option Built
  | .object members => layout.read? members
  | .array items => (layout.listed? least items).bind layout.read?
  | _ => none

/-- A record that is read from an object or from an array of at least `least`
members.  No member may stand twice. -/
def recordFrom (layout : Layout Whole Whole) (least : Nat) : Codec Whole where
  encode whole := .object (layout.write whole)
  decode? := layout.decodeFrom? least
  scan := (layout.plan false).record fun json =>
    (layout.decodeFrom? least json).isSome

def record (layout : Layout Whole Whole) : Codec Whole := layout.recordFrom 0

end Layout
end AdmissionGate
