import AdmissionGate.Proofs.Database.Forms
import AdmissionGate.Proofs.SchemaRequest.Forms

/-!
# Stability of what is written

What is read of an object is written in one spelling, from which it is read
again.  In the form of a record every member stands under the key it was given
under, and the entries without a name stand among them.
-/

namespace AdmissionGate

variable {Value : Type}

/-! ## Reading again -/

/-- What is read is written in its form, is read again from there but for what
is not written of it, and is then written as before. -/
def Codec.Stable (codec : Codec Value) (form : Json → Json)
    (settle : Value → Value) : Prop :=
  ∀ (json : Json) (value : Value), codec.decode? json.canonical = some value →
    (codec.encode value).canonical = form json.canonical ∧
      codec.decode? (codec.encode value).canonical = some (settle value) ∧
      codec.encode (settle value) = codec.encode value

def Codec.Respells (codec : Codec Value) (settle : Value → Value)
    (given written : Json) : Prop :=
  ∃ value, codec.decode? given.canonical = some value ∧
    (codec.encode value).canonical = written ∧
    codec.decode? written = some (settle value) ∧ settle value ≠ value

theorem Codec.Stable.respells [DecidableEq Value] {codec : Codec Value}
    {form : Json → Json} {settle : Value → Value}
    (stable : codec.Stable form settle) {given : Json}
    (unsettled : (codec.decode? given.canonical).any
      fun value => settle value ≠ value) :
    codec.Respells settle given (form given.canonical) := by
  obtain ⟨value, hread, hunsettled⟩ := Option.any_eq_true _ _ |>.1 unsettled
  obtain ⟨hwritten, hagain, -⟩ := stable given value hread
  rw [hwritten] at hagain
  exact ⟨value, hread, hwritten, hagain, of_decide_eq_true hunsettled⟩

theorem Codec.Faithful.stable {codec : Codec Value} {form : Json → Json}
    {settle : Value → Value} (law : codec.Faithful .exact form settle) :
    codec.Stable form settle := by
  intro json value read
  have hjson := Json.isCanonical_canonical json
  have hwritten := law.written hjson read
  refine ⟨hwritten, ?_, law.settled value⟩
  rw [hwritten]
  exact law.restored hjson read rfl

/-! ## Where members stand -/

namespace Form

/-- What stands under a key in the form of a record.  The members without a name
are entries of one form, or nothing is kept of them. -/
def memberAt (forms : List MemberForm) (entry : Option (Json → Json))
    (given : Members) (key : String) : Option Json :=
  match forms.find? fun member => member.name == key with
  | some member => member.form (lookUp? key given)
  | none => entry.bind fun entry => (lookUp? key given).map entry

/-- Each key stands once in the form, over what became of its own member. -/
def KeepsMembers (form : Json → Json) (forms : List MemberForm)
    (entry : Option (Json → Json)) : Prop :=
  ∀ given : Members, KeysIncrease given →
    ∃ formed, form (.object given) = .object formed ∧ KeysIncrease formed ∧
      ∀ key, lookUp? key formed = memberAt forms entry given key

variable {forms : List MemberForm} {given : Members} {key : String}

theorem memberAt_of_mem {entry : Option (Json → Json)}
    (distinct : (names forms).Nodup) (named : key ∈ names forms) :
    memberAt forms entry given key = lookUp? key (members forms given) := by
  cases hfind : forms.find? fun member => member.name == key with
  | none =>
      obtain ⟨member, hmember, rfl⟩ := List.mem_map.1 named
      exact absurd (List.find?_eq_none.1 hfind member hmember) (by simp)
  | some member =>
      obtain rfl : member.name = key := by simpa using List.find?_some hfind
      rw [memberAt, hfind,
        lookUp?_members distinct given member (List.mem_of_find?_eq_some hfind)]

theorem memberAt_of_not_mem {entry : Option (Json → Json)}
    (foreign : key ∉ names forms) :
    memberAt forms entry given key =
      entry.bind fun entry => (lookUp? key given).map entry := by
  have hfind : (forms.find? fun member => member.name == key) = none := by
    refine List.find?_eq_none.2 fun member hmember same => foreign ?_
    exact List.mem_map.2 ⟨member, hmember, by simpa using same⟩
  rw [memberAt, hfind]

def kept (entry : Option (Json → Json)) (rest : Members) : Members :=
  (entry.map fun entry => entries entry rest).getD []

theorem lookUp?_kept (entry : Option (Json → Json)) (rest : Members) :
    lookUp? key (kept entry rest) =
      entry.bind fun entry => (lookUp? key rest).map entry := by
  cases entry with
  | none => rfl
  | some entry => exact lookUp?_entries key entry rest

theorem entryKeys_kept (entry : Option (Json → Json)) (rest : Members) :
    (entryKeys (kept entry rest)).Sublist (entryKeys rest) := by
  cases entry with
  | none => exact List.nil_sublist _
  | some entry =>
      have same : entryKeys (kept (some entry) rest) = entryKeys rest :=
        Layout.Faithful.entryKeys_entries entry rest
      exact same ▸ List.Sublist.refl _

theorem keysIncrease_kept (entry : Option (Json → Json)) {rest : Members}
    (increase : KeysIncrease rest) : KeysIncrease (kept entry rest) :=
  List.pairwise_map.1
    ((List.pairwise_map.2 increase).sublist (entryKeys_kept entry rest))

theorem keepsMembers {others : Members → Members}
    {entry : Option (Json → Json)} (distinct : (names forms).Nodup)
    (hothers : others = kept entry) :
    KeepsMembers (object forms others) forms entry := by
  subst hothers
  intro given increase
  have hkept := keysIncrease_kept entry (increase.without (names forms))
  have hforeign : ∀ found ∈
      entryKeys (kept entry (given.without (names forms))),
      found ∉ names forms := by
    intro found hfound
    exact Layout.Faithful.foreign_without _ _ found
      ((entryKeys_kept entry _).subset hfound)
  have hnodup : (entryKeys (members forms given ++
      kept entry (given.without (names forms)))).Nodup :=
    nodup_members_append distinct hkept hforeign
  refine ⟨_, rfl, keysIncrease_sortEntries _, fun key => ?_⟩
  rw [lookUp?_sortEntries hnodup, lookUp?_append, lookUp?_kept,
    lookUp?_without]
  by_cases hkey : key ∈ names forms
  · rw [memberAt_of_mem distinct hkey, if_pos hkey]
    cases entry <;> simp
  · rw [memberAt_of_not_mem hkey, if_neg hkey,
      lookUp?_members_eq_none hkey, Option.none_or]

theorem keepsMembers_closed (distinct : (names forms).Nodup) :
    KeepsMembers (object forms Extent.written.undeclared) forms none :=
  keepsMembers distinct rfl

theorem keepsMembers_open (entry : Json → Json)
    (distinct : (names forms).Nodup) :
    KeepsMembers (object forms (entries entry)) forms (some entry) :=
  keepsMembers distinct rfl

end Form

/-! ## Objects -/

/-- Every kind of object is stable, and the records with members that they do
not name or take from another record keep all of them in place. -/
theorem objects_stable :
    OpsRequest.codec.Stable OpsRequest.form OpsRequest.wholeSeconds ∧
      SchemaRequest.codec.Stable SchemaRequest.form
        SchemaRequest.wholeSeconds ∧
      Database.codec.Stable Database.form Database.wholeSeconds ∧
      CatalogVersion.codec.Stable CatalogVersion.form
        CatalogVersion.wholeSeconds ∧
      Form.KeepsMembers (OpsRequestSpec.form .written)
        (OpsRequestSpec.forms .written) (some id) ∧
      Form.KeepsMembers HorizontalScalingSpec.form [] (some id) ∧
      Form.KeepsMembers (VerticalScalingSpec.form .written) []
        (some (PodResources.form .written)) ∧
      Form.KeepsMembers VolumeExpansionSpec.form VolumeExpansionSpec.forms
        (some Form.quantity) ∧
      Form.KeepsMembers (ReconfigureTlsSpec.form .written)
        (ReconfigureTlsSpec.forms .written) none ∧
      Form.KeepsMembers Topology.form Topology.forms (some RoleSpec.form) := by
  have hspec : Extent.written.kept = Form.kept (some id) := by
    funext rest
    simp [Extent.kept, Form.kept, Form.entries]
  exact ⟨OpsRequest.faithful.stable, SchemaRequest.faithful.stable,
    Database.faithful.stable, CatalogVersion.faithful.stable,
    Form.keepsMembers (by decide) hspec,
    Form.keepsMembers_open _ (by decide), Form.keepsMembers_open _ (by decide),
    Form.keepsMembers_open _ (by decide), Form.keepsMembers_closed (by decide),
    Form.keepsMembers_open _ (by decide)⟩

/-- An expansion with a choice given as an object, an amount given as a number,
a reference given as an array, an absent member given as null, a time within a
second in another zone and a member that has no name. -/
def expansionGiven : Json :=
  .object
    [("metadata", .object
      [("name", .string "grow"),
        ("creationTimestamp", .string "2024-01-02T03:04:05.5+02:00")]),
      ("spec", .object
        [("type", .string "VolumeExpansion"),
          ("databaseRef", .array [.string "db"]),
          ("timeout", .null),
          ("volumeExpansion", .object
            [("mode", .object [("Online", .null)]), ("node", .integer 20)]),
          ("paused", .bool true)])]

def expansionWritten : Json :=
  .object
    [("metadata", .object
      [("creationTimestamp", .string "2024-01-02T01:04:05Z"),
        ("name", .string "grow")]),
      ("spec", .object
        [("databaseRef", .object [("name", .string "db")]),
          ("paused", .bool true),
          ("type", .string "VolumeExpansion"),
          ("volumeExpansion", .object
            [("mode", .string "Online"), ("node", .string "20")])])]

/-- A schema with references given as an array and with a member that has no name,
labels and an initialization given as null, a policy given as an object and a time
within a second in another zone. -/
def schemaGiven : Json :=
  .object
    [("metadata", .object
      [("name", .string "app"), ("labels", .null),
        ("creationTimestamp", .string "2024-01-02T03:04:05.5+02:00")]),
      ("spec", .object
        [("vaultRef", .object [("name", .string "vault"), ("kind", .null)]),
          ("databaseRef", .array [.string "db", .null]),
          ("init", .null),
          ("deletionPolicy", .object [("DoNotDelete", .null)])])]

def schemaWritten : Json :=
  .object
    [("metadata", .object
      [("creationTimestamp", .string "2024-01-02T01:04:05Z"),
        ("name", .string "app")]),
      ("spec", .object
        [("accessPolicy", .object [("subjects", .array [])]),
          ("databaseConfig", .object [("name", .string "")]),
          ("databaseRef", .object [("name", .string "db")]),
          ("deletionPolicy", .string "DoNotDelete"),
          ("vaultRef", .object [("name", .string "vault")])])]

theorem expansion_and_schema_respelled :
    OpsRequest.codec.Respells OpsRequest.wholeSeconds expansionGiven
        expansionWritten ∧
      SchemaRequest.codec.Respells SchemaRequest.wholeSeconds schemaGiven
        schemaWritten := by
  have hexpansion : OpsRequest.form expansionGiven.canonical = expansionWritten := by
    decide +kernel
  have hschema : SchemaRequest.form schemaGiven.canonical = schemaWritten := by
    decide +kernel
  obtain ⟨hrequests, hschemas, -⟩ := objects_stable
  rw [← hexpansion, ← hschema]
  exact ⟨hrequests.respells (by decide +kernel),
    hschemas.respells (by decide +kernel)⟩

end AdmissionGate
