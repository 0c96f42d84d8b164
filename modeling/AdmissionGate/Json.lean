import AdmissionGate.Binary64
import AdmissionGate.Dict

/-!
# JSON values

A JSON value as it was written: integers and other numbers are kept apart, and
the members of an object are kept in the order of the text.  Two texts denote
the same value when their canonical forms agree.
-/

namespace AdmissionGate

inductive Json where
  | null
  | bool (value : Bool)
  | integer (value : Int)
  | float (value : Binary64)
  | string (value : String)
  | array (items : List Json)
  | object (members : List (String × Json))
deriving Repr, Inhabited

namespace Json

/-! ## Decidable equality -/

mutual

def decideEq : (left right : Json) → Decidable (left = right)
  | .null, .null => .isTrue rfl
  | .bool left, .bool right =>
    if same : left = right then .isTrue (same ▸ rfl)
    else .isFalse fun h => same (by cases h; rfl)
  | .integer left, .integer right =>
    if same : left = right then .isTrue (same ▸ rfl)
    else .isFalse fun h => same (by cases h; rfl)
  | .float left, .float right =>
    if same : left = right then .isTrue (same ▸ rfl)
    else .isFalse fun h => same (by cases h; rfl)
  | .string left, .string right =>
    if same : left = right then .isTrue (same ▸ rfl)
    else .isFalse fun h => same (by cases h; rfl)
  | .array left, .array right =>
    match decideItemsEq left right with
    | .isTrue same => .isTrue (same ▸ rfl)
    | .isFalse different => .isFalse fun h => different (by cases h; rfl)
  | .object left, .object right =>
    match decideMembersEq left right with
    | .isTrue same => .isTrue (same ▸ rfl)
    | .isFalse different => .isFalse fun h => different (by cases h; rfl)
  | .null, .bool _ | .null, .integer _ | .null, .float _ | .null, .string _
  | .null, .array _ | .null, .object _
  | .bool _, .null | .bool _, .integer _ | .bool _, .float _
  | .bool _, .string _ | .bool _, .array _ | .bool _, .object _
  | .integer _, .null | .integer _, .bool _ | .integer _, .float _
  | .integer _, .string _ | .integer _, .array _ | .integer _, .object _
  | .float _, .null | .float _, .bool _ | .float _, .integer _
  | .float _, .string _ | .float _, .array _ | .float _, .object _
  | .string _, .null | .string _, .bool _ | .string _, .integer _
  | .string _, .float _ | .string _, .array _ | .string _, .object _
  | .array _, .null | .array _, .bool _ | .array _, .integer _
  | .array _, .float _ | .array _, .string _ | .array _, .object _
  | .object _, .null | .object _, .bool _ | .object _, .integer _
  | .object _, .float _ | .object _, .string _ | .object _, .array _ =>
    .isFalse nofun

def decideItemsEq : (left right : List Json) → Decidable (left = right)
  | [], [] => .isTrue rfl
  | [], _ :: _ | _ :: _, [] => .isFalse nofun
  | left :: lefts, right :: rights =>
    match decideEq left right, decideItemsEq lefts rights with
    | .isTrue sameHead, .isTrue sameTail => .isTrue (by rw [sameHead, sameTail])
    | .isFalse different, _ => .isFalse fun h => different (List.cons.inj h).1
    | _, .isFalse different => .isFalse fun h => different (List.cons.inj h).2

def decideMembersEq : (left right : List (String × Json)) →
    Decidable (left = right)
  | [], [] => .isTrue rfl
  | [], _ :: _ | _ :: _, [] => .isFalse nofun
  | (leftKey, left) :: lefts, (rightKey, right) :: rights =>
    if sameKey : leftKey = rightKey then
      match decideEq left right, decideMembersEq lefts rights with
      | .isTrue sameHead, .isTrue sameTail =>
        .isTrue (by rw [sameKey, sameHead, sameTail])
      | .isFalse different, _ =>
        .isFalse fun h => different (Prod.mk.inj (List.cons.inj h).1).2
      | _, .isFalse different => .isFalse fun h => different (List.cons.inj h).2
    else .isFalse fun h => sameKey (Prod.mk.inj (List.cons.inj h).1).1

end

instance : DecidableEq Json := decideEq

/-! ## Canonical form -/

mutual

/-- The value with the members of every object in key order, the last of equal
keys kept. -/
def canonical : Json → Json
  | .array items => .array (canonicalItems items)
  | .object members => .object (sortEntries (canonicalMembers members))
  | .null => .null
  | .bool value => .bool value
  | .integer value => .integer value
  | .float value => .float value
  | .string value => .string value

def canonicalItems : List Json → List Json
  | [] => []
  | item :: rest => canonical item :: canonicalItems rest

def canonicalMembers : List (String × Json) → List (String × Json)
  | [] => []
  | (key, value) :: rest => (key, canonical value) :: canonicalMembers rest

end

mutual

def isCanonical : Json → Bool
  | .array items => itemsCanonical items
  | .object members => decide (KeysIncrease members) && membersCanonical members
  | .null | .bool _ | .integer _ | .float _ | .string _ => true

def itemsCanonical : List Json → Bool
  | [] => true
  | item :: rest => isCanonical item && itemsCanonical rest

def membersCanonical : List (String × Json) → Bool
  | [] => true
  | (_, value) :: rest => isCanonical value && membersCanonical rest

end

/-! ## Equality of the numbers denoted -/

mutual

/-- Equality of values in canonical form, the two zeros counting as one
number. -/
def same : Json → Json → Bool
  | .null, .null => true
  | .bool left, .bool right => left == right
  | .integer left, .integer right => left == right
  | .float left, .float right => left.sameNumber right
  | .string left, .string right => left == right
  | .array left, .array right => sameItems left right
  | .object left, .object right => sameMembers left right
  | _, _ => false

def sameItems : List Json → List Json → Bool
  | [], [] => true
  | left :: lefts, right :: rights => same left right && sameItems lefts rights
  | _, _ => false

def sameMembers : List (String × Json) → List (String × Json) → Bool
  | [], [] => true
  | (leftKey, left) :: lefts, (rightKey, right) :: rights =>
    leftKey == rightKey && same left right && sameMembers lefts rights
  | _, _ => false

end

/-! ## Parts of a value -/

def string? : Json → Option String
  | .string value => some value
  | _ => none

def bool? : Json → Option Bool
  | .bool value => some value
  | _ => none

def integer? : Json → Option Int
  | .integer value => some value
  | _ => none

def array? : Json → Option (List Json)
  | .array items => some items
  | _ => none

def object? : Json → Option (List (String × Json))
  | .object members => some members
  | _ => none

def member? (key : String) (json : Json) : Option Json :=
  json.object?.bind (lookUp? key)

end Json
end AdmissionGate
