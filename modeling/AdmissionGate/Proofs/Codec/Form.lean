import AdmissionGate.Proofs.Json.Canonical

/-!
# Forms

What becomes of a JSON value that is read and written again, said on the JSON
alone.  A form brings the spellings that a reader accepts to the one that is
written and fills in the defaults.  It keeps either the whole value, less the
members that are null, or only what is written of it.
-/

namespace AdmissionGate

/-! ## Members that are null -/

namespace Json

mutual

def withoutNulls : Json → Json
  | .array items => .array (itemsWithoutNulls items)
  | .object members => .object (membersWithoutNulls members)
  | .null => .null
  | .bool value => .bool value
  | .integer value => .integer value
  | .float value => .float value
  | .string value => .string value

def itemsWithoutNulls : List Json → List Json
  | [] => []
  | item :: rest => withoutNulls item :: itemsWithoutNulls rest

def membersWithoutNulls : List (String × Json) → List (String × Json)
  | [] => []
  | (_, .null) :: rest => membersWithoutNulls rest
  | (key, value) :: rest =>
      (key, withoutNulls value) :: membersWithoutNulls rest

end

end Json

/-- How much of a value its form keeps. -/
inductive Extent where
  /-- All but the members that are null. -/
  | whole
  /-- What is written after reading. -/
  | written
deriving DecidableEq, Repr

def Extent.undeclared : Extent → Members → Members
  | .whole, members => Json.membersWithoutNulls members
  | .written, _ => []

/-! ## Members -/

/-- What a member is written as, given its value if it is there. -/
structure MemberForm where
  name : String
  form : Option Json → Option Json

namespace MemberForm

def required (name : String) (form : Json → Json) : MemberForm :=
  ⟨name, Option.map form⟩

def defaulted (name : String) (form : Json → Json) (default : Json) :
    MemberForm :=
  ⟨name, fun given => some ((given.map form).getD default)⟩

def optional (name : String) (form : Json → Json) : MemberForm :=
  ⟨name, fun given =>
    match given with
    | none | some .null => none
    | some json => some (form json)⟩

def lenientString (name : String) : MemberForm :=
  ⟨name, fun given =>
    match given with
    | none | some .null => some (.string "")
    | some json => some json⟩

def sparse (name : String) (form : Json → Json) (empty : Json) : MemberForm :=
  ⟨name, fun given =>
    given.bind fun json => if form json = empty then none else some (form json)⟩

def put (member : MemberForm) (members : Members) : Members :=
  match member.form (lookUp? member.name members) with
  | none => []
  | some json => [(member.name, json)]

end MemberForm

/-! ## Values -/

namespace Form

def quantity : Json → Json
  | .integer value => .string (toString value)
  | json => json

def choice : Json → Json
  | .object [(name, .null)] => .string name
  | json => json

def list (item : Json → Json) : Json → Json
  | .array items => .array (items.map item)
  | json => json

def entries (entry : Json → Json) (members : Members) : Members :=
  members.map fun member => (member.1, entry member.2)

def dict (entry : Json → Json) : Json → Json
  | .object members => .object (entries entry members)
  | json => json

/-! ## Records -/

def names (forms : List MemberForm) : List String := forms.map MemberForm.name

def members (forms : List MemberForm) (given : Members) : Members :=
  forms.flatMap fun member => member.put given

/-- A record given as an object; the other members become what is told. -/
def object (forms : List MemberForm) (others : Members → Members) : Json → Json
  | .object given =>
      .object (sortEntries
        (members forms given ++ others (Members.without (names forms) given)))
  | json => json

def record (forms : List MemberForm) (others : Members → Members) : Json → Json
  | .array items => object forms others (.object ((names forms).zip items))
  | json => object forms others json

/-! ## Members of a form -/

theorem entryKeys_put (member : MemberForm) (given : Members) :
    (entryKeys (member.put given)).Sublist [member.name] := by
  unfold MemberForm.put
  split <;> simp

theorem entryKeys_members (forms : List MemberForm) (given : Members) :
    (entryKeys (members forms given)).Sublist (names forms) := by
  induction forms with
  | nil => exact .slnil
  | cons member rest ih =>
      have hsplit : entryKeys (members (member :: rest) given) =
          entryKeys (member.put given) ++ entryKeys (members rest given) := by
        simp [members]
      rw [hsplit]
      exact (entryKeys_put member given).append ih

theorem lookUp?_put (member : MemberForm) (given : Members) :
    lookUp? member.name (member.put given) =
      member.form (lookUp? member.name given) := by
  unfold MemberForm.put
  split <;> simp_all [lookUp?]

theorem lookUp?_members_eq_none {key : String} {forms : List MemberForm}
    (foreign : key ∉ names forms) (given : Members) :
    lookUp? key (members forms given) = none :=
  lookUp?_eq_none_iff.2 fun member =>
    foreign ((entryKeys_members forms given).subset member)

theorem lookUp?_members {forms : List MemberForm}
    (distinct : (names forms).Nodup) (given : Members) :
    ∀ member ∈ forms, lookUp? member.name (members forms given) =
      member.form (lookUp? member.name given) := by
  induction forms with
  | nil => simp
  | cons head rest ih =>
      obtain ⟨hfresh, hrest⟩ := List.nodup_cons.1 distinct
      have hsplit : members (head :: rest) given =
          head.put given ++ members rest given := by
        simp [members]
      intro member hmember
      rw [hsplit, lookUp?_append]
      rcases List.mem_cons.1 hmember with rfl | hlater
      · rw [lookUp?_put, lookUp?_members_eq_none hfresh, Option.or_none]
      · have hother : head.name ≠ member.name := by
          intro same
          exact hfresh (same ▸ List.mem_map_of_mem hlater)
        have hmissing : lookUp? member.name (head.put given) = none := by
          refine lookUp?_eq_none_iff.2 fun found => hother ?_
          have hname := (entryKeys_put head given).subset found
          exact (List.mem_singleton.1 hname).symm
        rw [hmissing, Option.none_or, ih hrest member hlater]

end Form
end AdmissionGate
