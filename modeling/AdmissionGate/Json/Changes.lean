import AdmissionGate.Json

/-!
# Changes between JSON values

The places where two values in canonical form differ.  Objects are compared
member by member and arrays of one length item by item; any other two values
that differ are one change.
-/

namespace AdmissionGate.Json

/-! ## Paths -/

def memberPath (path key : String) : String := path ++ "." ++ key

def itemPath (path : String) (index : Nat) : String :=
  path ++ "[" ++ toString index ++ "]"

/-! ## Changes -/

mutual

/-- The paths of the changes below a path, in key and index order.  Members are
merged by their keys, which must increase on both sides. -/
def changes (path : String) : (old new : Json) → List String
  | .object old, new =>
    match new with
    | .object new => memberChanges path old new
    | _ => [path]
  | .array old, new =>
    match new with
    | .array new =>
      if old.length = new.length then itemChanges path 0 old new else [path]
    | _ => [path]
  | old, new => if same old new then [] else [path]

def memberChanges (path : String) :
    (old new : List (String × Json)) → List String
  | [], new => new.map fun member => memberPath path member.1
  | (oldKey, oldValue) :: old, new =>
    let added := new.takeWhile fun member => member.1 < oldKey
    added.map (fun member => memberPath path member.1) ++
      match new.dropWhile fun member => member.1 < oldKey with
      | [] => memberPath path oldKey :: memberChanges path old []
      | (newKey, newValue) :: rest =>
        if oldKey = newKey then
          changes (memberPath path oldKey) oldValue newValue ++
            memberChanges path old rest
        else
          memberPath path oldKey ::
            memberChanges path old ((newKey, newValue) :: rest)

def itemChanges (path : String) (index : Nat) :
    (old new : List Json) → List String
  | old :: olds, new :: news =>
    changes (itemPath path index) old new ++
      itemChanges path (index + 1) olds news
  | _, _ => []

end

end AdmissionGate.Json
