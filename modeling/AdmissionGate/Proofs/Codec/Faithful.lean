import AdmissionGate.Proofs.Codec.Form
import AdmissionGate.Proofs.Json.Zero
import AdmissionGate.Quantity

/-!
# Faithful codecs

A codec is faithful to a form if what it reads is written in that form and is
read again from it, less what is not written.  The laws here carry faithfulness
from scalars through collections to the members of records.
-/

namespace AdmissionGate

variable {Value : Type}

/-! ## Likenesses -/

/-- A way to tell JSON values apart that looks at everything but, at most, the
numbers that are no integers. -/
structure Likeness where
  normal : Json → Json
  string {json : Json} {text : String} :
    normal json = normal (.string text) → json = .string text
  bool {json : Json} {value : Bool} :
    normal json = normal (.bool value) → json = .bool value
  integer {json : Json} {value : Int} :
    normal json = normal (.integer value) → json = .integer value
  array {json : Json} {items : List Json} :
    normal json = normal (.array items) →
      ∃ others, json = .array others ∧ others.map normal = items.map normal
  object {json : Json} {members : Members} :
    normal json = normal (.object members) →
      ∃ others, json = .object others ∧
        Form.entries normal others = Form.entries normal members

namespace Likeness

def exact : Likeness where
  normal := id
  string same := same
  bool same := same
  integer same := same
  array same := ⟨_, same, rfl⟩
  object same := ⟨_, same, rfl⟩

def unsignedZeros : Likeness where
  normal := Json.plain
  string {json text} same := by cases json <;> simp_all [Json.plain]
  bool {json value} same := by cases json <;> simp_all [Json.plain]
  integer {json value} same := by cases json <;> simp_all [Json.plain]
  array {json items} same := by
    cases json <;> simp_all [Json.plain, Json.plainItems_eq_map]
  object {json members} same := by
    cases json <;> simp_all [Json.plain, Json.plainMembers_eq_map, Form.entries]

end Likeness

/-! ## Laws -/

/-- What is read from canonical JSON is written in its form, and everything that
is like this form is read as that value, settled.  To settle a value is to drop
what is not written of it. -/
structure Codec.Faithful (likeness : Likeness) (codec : Codec Value)
    (form : Json → Json) (settle : Value → Value) : Prop where
  refusesNull : codec.decode? .null = none
  written {json : Json} {value : Value} (hjson : json.isCanonical = true)
    (read : codec.decode? json = some value) :
    (codec.encode value).canonical = form json
  restored {json other : Json} {value : Value} (hjson : json.isCanonical = true)
    (read : codec.decode? json = some value)
    (same : likeness.normal other = likeness.normal (form json)) :
    codec.decode? other = some (settle value)
  settled (value : Value) : codec.encode (settle value) = codec.encode value

/-- What is read from canonical JSON is written in its form and read again from
it, and two values agree exactly when their forms are the same. -/
structure Codec.FaithfulUpTo (codec : Codec Value) (form : Json → Json)
    (agree : Value → Value → Prop) : Prop where
  written {json : Json} {value : Value} (hjson : json.isCanonical = true)
    (read : codec.decode? json = some value) :
    (codec.encode value).canonical = form json
  restored {json : Json} {value : Value} (hjson : json.isCanonical = true)
    (read : codec.decode? json = some value) :
    codec.decode? (form json) = some value
  agree_iff {json other : Json} {left right : Value}
    (hjson : json.isCanonical = true) (hother : other.isCanonical = true)
    (readLeft : codec.decode? json = some left)
    (readRight : codec.decode? other = some right) :
    agree left right ↔ (form json).plain = (form other).plain

theorem Codec.FaithfulUpTo.of_agree_iff {codec : Codec Value}
    {form : Json → Json} {agree other : Value → Value → Prop}
    (law : codec.FaithfulUpTo form agree)
    (same : ∀ left right, other left right ↔ agree left right) :
    codec.FaithfulUpTo form other where
  written := law.written
  restored := law.restored
  agree_iff hjson hother readLeft readRight :=
    (same _ _).trans (law.agree_iff hjson hother readLeft readRight)

theorem Codec.FaithfulUpTo.exact {codec : Codec Value} {form : Json → Json}
    {agree : Value → Value → Prop} (law : codec.FaithfulUpTo form agree)
    (refuses : codec.decode? .null = none) :
    codec.Faithful .exact form id where
  refusesNull := refuses
  written := law.written
  restored {json other value} hjson read same := by
    rw [show other = form json from same]
    exact law.restored hjson read
  settled _ := rfl

namespace Codec.Faithful

variable {likeness : Likeness}

/-! ## Scalars -/

theorem string : Codec.string.Faithful likeness id id where
  refusesNull := rfl
  written {json value} _ read := by
    cases json <;> cases read
    simp [Codec.string, Json.canonical]
  restored {json other value} _ read same := by
    cases json <;> cases read
    rw [likeness.string same]
    rfl
  settled _ := rfl

theorem bool : Codec.bool.Faithful likeness id id where
  refusesNull := rfl
  written {json value} _ read := by
    cases json <;> cases read
    simp [Codec.bool, Json.canonical]
  restored {json other value} _ read same := by
    cases json <;> cases read
    rw [likeness.bool same]
    rfl
  settled _ := rfl

theorem signed (largest : Nat) :
    (Codec.signed largest).Faithful likeness id id where
  refusesNull := rfl
  written {json value} _ read := by
    cases json with
    | integer number =>
        simp only [Codec.signed, Json.integer?, Option.bind_some] at read
        split at read <;> cases read
        simp [Codec.signed, Json.canonical]
    | _ => cases read
  restored {json other value} _ read same := by
    cases json with
    | integer number =>
        rw [likeness.integer same]
        exact read
    | _ => cases read
  settled _ := rfl

theorem quantity :
    Quantity.codec.Faithful likeness Form.quantity id where
  refusesNull := rfl
  written {json value} _ read := by
    cases json <;> cases read <;>
      simp [Quantity.codec, Form.quantity, Json.canonical]
  restored {json other value} _ read same := by
    cases json <;> cases read <;> rw [likeness.string same] <;> rfl
  settled _ := rfl

theorem choice (all : List Value) (name : Value → String) :
    (Codec.choice all name).Faithful likeness Form.choice id := by
  -- Both spellings come down to the name.
  have spelled {json : Json} {value : Value}
      (read : (Codec.choice all name).decode? json = some value) :
      Form.choice json = .string (name value) ∧
        all.find? (fun value' => name value' == name value) = some value := by
    unfold Codec.choice at read
    dsimp only at read
    split at read
    · rename_i text
      have hname : name value = text := by simpa using List.find?_some read
      exact ⟨by simp [Form.choice, hname], by simpa [hname] using read⟩
    · rename_i text
      have hname : name value = text := by simpa using List.find?_some read
      exact ⟨by simp [Form.choice, hname], by simpa [hname] using read⟩
    · cases read
  refine ⟨rfl, ?_, ?_, fun _ => rfl⟩
  · intro json value _ read
    rw [(spelled read).1]
    simp [Codec.choice, Json.canonical]
  · intro json other value _ read same
    rw [(spelled read).1] at same
    rw [likeness.string same]
    exact (spelled read).2

/-! ## Collections -/

variable {codec : Codec Value} {form : Json → Json} {settle : Value → Value}

theorem items_written (law : codec.Faithful likeness form settle)
    {items : List Json}
    (hitems : ∀ item ∈ items, item.isCanonical = true) {values : List Value}
    (read : codec.decodeItems? items = some values) :
    Json.canonicalItems (values.map codec.encode) = items.map form := by
  induction items generalizing values with
  | nil =>
      cases read
      rfl
  | cons item rest ih =>
      simp only [decodeItems?, Option.bind_eq_bind, Option.bind_eq_some_iff,
        Option.pure_def, Option.some.injEq] at read
      obtain ⟨value, hvalue, others, hothers, rfl⟩ := read
      have hitem := law.written (hitems item List.mem_cons_self) hvalue
      have hrest := ih (fun item h => hitems item (List.mem_cons_of_mem _ h))
        hothers
      simp only [List.map_cons, Json.canonicalItems, hitem, hrest]

theorem items_restored (law : codec.Faithful likeness form settle)
    {items others : List Json}
    (hitems : ∀ item ∈ items, item.isCanonical = true) {values : List Value}
    (read : codec.decodeItems? items = some values)
    (same : others.map likeness.normal =
      (items.map form).map likeness.normal) :
    codec.decodeItems? others = some (values.map settle) := by
  induction items generalizing others values with
  | nil =>
      cases others with
      | nil =>
          cases read
          rfl
      | cons other others => simp at same
  | cons item rest ih =>
      cases others with
      | nil => simp at same
      | cons other others =>
          simp only [List.map_cons, List.cons.injEq] at same
          simp only [decodeItems?, Option.bind_eq_bind, Option.bind_eq_some_iff,
            Option.pure_def, Option.some.injEq] at read ⊢
          obtain ⟨value, hvalue, values, hvalues, rfl⟩ := read
          refine ⟨settle value, ?_, values.map settle, ?_, rfl⟩
          · exact law.restored (hitems item List.mem_cons_self) hvalue same.1
          · exact ih (fun item h => hitems item (List.mem_cons_of_mem _ h))
              hvalues same.2

theorem settlingList (law : codec.Faithful likeness form settle) :
    codec.list.Faithful likeness (Form.list form) (List.map settle) where
  refusesNull := rfl
  written {json values} hjson read := by
    cases json with
    | array items =>
        rw [Json.isCanonical_array] at hjson
        simp only [Codec.list, Json.canonical, Form.list]
        rw [law.items_written hjson read]
    | _ => cases read
  restored {json other values} hjson read same := by
    cases json with
    | array items =>
        rw [Json.isCanonical_array] at hjson
        obtain ⟨others, rfl, hothers⟩ := likeness.array same
        exact law.items_restored hjson read hothers
    | _ => cases read
  settled values := by simp [Codec.list, law.settled]

theorem list (law : codec.Faithful likeness form id) :
    codec.list.Faithful likeness (Form.list form) id := by
  simpa using law.settlingList

theorem entryKeys_decodeEntries {members : Members}
    {values : List (String × Value)}
    (read : codec.decodeEntries? members = some values) :
    entryKeys values = entryKeys members := by
  induction members generalizing values with
  | nil =>
      cases read
      rfl
  | cons member rest ih =>
      simp only [decodeEntries?, Option.bind_eq_bind, Option.bind_eq_some_iff,
        Option.pure_def, Option.some.injEq] at read
      obtain ⟨value, -, others, hothers, rfl⟩ := read
      simp [ih hothers]

theorem entries_written (law : codec.Faithful likeness form settle)
    {members : Members}
    (hmembers : ∀ member ∈ members, member.2.isCanonical = true)
    {values : List (String × Value)}
    (read : codec.decodeEntries? members = some values) :
    Json.canonicalMembers (codec.encodeEntries values) =
      Form.entries form members := by
  induction members generalizing values with
  | nil =>
      cases read
      rfl
  | cons member rest ih =>
      simp only [decodeEntries?, Option.bind_eq_bind, Option.bind_eq_some_iff,
        Option.pure_def, Option.some.injEq] at read
      obtain ⟨value, hvalue, others, hothers, rfl⟩ := read
      have hmember := law.written (hmembers member List.mem_cons_self) hvalue
      have hrest := ih
        (fun member h => hmembers member (List.mem_cons_of_mem _ h)) hothers
      rw [Form.entries] at hrest ⊢
      rw [List.map_cons, ← hrest, ← hmember]
      rfl

theorem entries_restored (law : codec.Faithful likeness form id)
    {members others : Members}
    (hmembers : ∀ member ∈ members, member.2.isCanonical = true)
    {values : List (String × Value)}
    (read : codec.decodeEntries? members = some values)
    (same : Form.entries likeness.normal others =
      Form.entries likeness.normal (Form.entries form members)) :
    codec.decodeEntries? others = some values := by
  induction members generalizing others values with
  | nil =>
      cases others with
      | nil => exact read
      | cons other others => simp [Form.entries] at same
  | cons member rest ih =>
      cases others with
      | nil => simp [Form.entries] at same
      | cons other others =>
          simp only [Form.entries, List.map_cons, List.cons.injEq,
            Prod.mk.injEq] at same
          simp only [decodeEntries?, Option.bind_eq_bind,
            Option.bind_eq_some_iff, Option.pure_def, Option.some.injEq]
            at read ⊢
          obtain ⟨value, hvalue, values, hvalues, rfl⟩ := read
          refine ⟨value, ?_, values, ?_, by rw [same.1.1]⟩
          · exact law.restored (hmembers member List.mem_cons_self) hvalue
              same.1.2
          · exact ih (fun member h => hmembers member (List.mem_cons_of_mem _ h))
              hvalues same.2

theorem entries_of_decodeDict {members : Members} {dict : Dict Value}
    (increase : KeysIncrease members)
    (read : codec.decodeDict? members = some dict) :
    codec.decodeEntries? members = some dict.entries := by
  rw [decodeDict?, Option.map_eq_some_iff] at read
  obtain ⟨values, hvalues, rfl⟩ := read
  have hordered : KeysIncrease values :=
    increase.of_entryKeys (entryKeys_decodeEntries hvalues).symm
  rw [hvalues]
  exact congrArg some (sortEntries_of_keysIncrease hordered).symm

theorem decodeDict_of_entries {members : Members} {dict : Dict Value}
    (read : codec.decodeEntries? members = some dict.entries) :
    codec.decodeDict? members = some dict := by
  rw [decodeDict?, read, Option.map_some, Dict.ofList_entries]

theorem dict (law : codec.Faithful likeness form id) :
    codec.dict.Faithful likeness (Form.dict form) id where
  refusesNull := rfl
  written {json values} hjson read := by
    cases json with
    | object members =>
        rw [Json.isCanonical_object] at hjson
        have hentries := entries_of_decodeDict hjson.1 read
        have hordered : KeysIncrease (Form.entries form members) :=
          hjson.1.of_entryKeys (by simp [Form.entries, entryKeys])
        simp only [Codec.dict, Json.canonical, Form.dict]
        rw [law.entries_written hjson.2 hentries,
          sortEntries_of_keysIncrease hordered]
    | _ => cases read
  restored {json other values} hjson read same := by
    cases json with
    | object members =>
        rw [Json.isCanonical_object] at hjson
        obtain ⟨others, rfl, hothers⟩ := likeness.object same
        exact decodeDict_of_entries (law.entries_restored hjson.2
          (entries_of_decodeDict hjson.1 read) hothers)
    | _ => cases read
  settled _ := rfl

end Codec.Faithful
end AdmissionGate
