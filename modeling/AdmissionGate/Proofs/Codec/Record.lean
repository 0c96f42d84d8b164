import AdmissionGate.Proofs.Codec.Member

/-!
# Faithful records

A layout is faithful to the forms of its members.  The law is carried along
while members are added; a complete layout whose member names are distinct
then gives a faithful codec.
-/

namespace AdmissionGate

variable {Whole Value Built : Type}

/-- The parts of a record are read from its members one by one.  What is built
from them is `made`, `split` takes the parts of a whole, and `settle` settles
each of them. -/
structure Layout.Faithful {Parts : Type} (likeness : Likeness)
    (layout : Layout Whole Built) (parts? : Members → Option Parts)
    (made : Parts → Built) (split : Whole → Parts) (forms : List MemberForm)
    (settle : Parts → Parts) : Prop where
  names : layout.names = Form.names forms
  built (members : Members) :
    layout.read? members = (parts? members).map made
  written {members : Members} {whole : Whole}
    (hmembers : ∀ member ∈ members, member.2.isCanonical = true)
    (read : parts? members = some (split whole)) :
    Json.canonicalMembers (layout.write whole) = Form.members forms members
  restored {members others : Members} {parts : Parts}
    (hmembers : ∀ member ∈ members, member.2.isCanonical = true)
    (read : parts? members = some parts)
    (same : ∀ member ∈ forms,
      (lookUp? member.name others).map likeness.normal =
        (member.form (lookUp? member.name members)).map likeness.normal) :
    parts? others = some (settle parts)
  settled {whole other : Whole} (same : split other = settle (split whole)) :
    layout.write other = layout.write whole

/-! ## Sorted forms -/

namespace Form

theorem lookUp?_entries (key : String) (entry : Json → Json)
    (given : Members) :
    lookUp? key (entries entry given) = (lookUp? key given).map entry :=
  lookUp?_map key entry given

theorem without_entries (names : List String) (entry : Json → Json)
    (given : Members) :
    Members.without names (entries entry given) =
      entries entry (Members.without names given) := by
  simp only [entries, Members.without, List.filter_map]
  rfl

variable {likeness : Likeness} {forms : List MemberForm}
  {given others extra : Members}

theorem nodup_members_append (distinct : (names forms).Nodup)
    (increase : KeysIncrease extra)
    (foreign : ∀ key ∈ entryKeys extra, key ∉ names forms) :
    (entryKeys (members forms given ++ extra)).Nodup := by
  rw [entryKeys_append, List.nodup_append]
  refine ⟨(entryKeys_members forms given).nodup distinct, increase.nodup, ?_⟩
  rintro key hkey _ hforeign rfl
  exact foreign key hforeign ((entryKeys_members forms given).subset hkey)

theorem found_of_same (distinct : (names forms).Nodup)
    (increase : KeysIncrease extra)
    (foreign : ∀ key ∈ entryKeys extra, key ∉ names forms)
    (same : entries likeness.normal others =
      entries likeness.normal (sortEntries (members forms given ++ extra))) :
    ∀ member ∈ forms, (lookUp? member.name others).map likeness.normal =
      (member.form (lookUp? member.name given)).map likeness.normal := by
  intro member hmember
  have hmissing : lookUp? member.name extra = none :=
    lookUp?_eq_none_iff.2 fun found =>
      foreign member.name found (List.mem_map_of_mem hmember)
  rw [← lookUp?_entries, same, lookUp?_entries,
    lookUp?_sortEntries (nodup_members_append distinct increase foreign),
    lookUp?_append, lookUp?_members distinct given member hmember, hmissing,
    Option.or_none]

theorem sortEntries_without (distinct : (names forms).Nodup)
    (increase : KeysIncrease extra)
    (foreign : ∀ key ∈ entryKeys extra, key ∉ names forms) :
    Members.without (names forms) (sortEntries (members forms given ++ extra)) =
      extra := by
  refine ((keysIncrease_sortEntries _).without _).ext increase ?_
  intro key
  rw [lookUp?_without,
    lookUp?_sortEntries (nodup_members_append distinct increase foreign),
    lookUp?_append]
  by_cases hkey : key ∈ names forms
  · rw [if_pos hkey]
    exact (lookUp?_eq_none_iff.2 fun found => foreign key found hkey).symm
  · rw [if_neg hkey, lookUp?_members_eq_none hkey, Option.none_or]

theorem without_of_same (distinct : (names forms).Nodup)
    (increase : KeysIncrease extra)
    (foreign : ∀ key ∈ entryKeys extra, key ∉ names forms)
    (same : entries likeness.normal others =
      entries likeness.normal (sortEntries (members forms given ++ extra))) :
    entries likeness.normal (Members.without (names forms) others) =
      entries likeness.normal extra := by
  rw [← without_entries, same, without_entries,
    sortEntries_without distinct increase foreign]

end Form

namespace Layout.Faithful

variable {likeness : Likeness} {Parts : Type}
  {parts? : Members → Option Parts} {split : Whole → Parts}
  {forms : List MemberForm} {settle : Parts → Parts}

/-! ## Adding members -/

theorem start (make : Built) :
    (Layout.start make : Layout Whole Built).Faithful likeness
      (fun _ => some ()) (fun _ => make) (fun _ => ()) [] id where
  names := rfl
  built _ := rfl
  written _ _ := rfl
  restored _ read _ := read
  settled _ := rfl

theorem member {layout : Layout Whole (Value → Built)}
    {made : Parts → Value → Built}
    (law : layout.Faithful likeness parts? made split forms settle)
    {field : Field Value} {form : MemberForm} {settlePart : Value → Value}
    (hfield : field.Faithful likeness form settlePart)
    (part : Whole → Value) :
    (layout.member field part).Faithful likeness
      (fun members => do return (← parts? members, ← field.get? members))
      (fun parts => made parts.1 parts.2)
      (fun whole => (split whole, part whole)) (forms ++ [form])
      (fun parts => (settle parts.1, settlePart parts.2)) where
  names := by
    simp [Layout.member, Form.names, law.names, hfield.name]
  built members := by
    simp only [Layout.member, law.built]
    cases parts? members <;> cases field.get? members <;> rfl
  written {members whole} hmembers read := by
    simp only [Option.bind_eq_bind, Option.bind_eq_some_iff, Option.pure_def,
      Option.some.injEq, Prod.mk.injEq] at read
    obtain ⟨_, hparts, _, hvalue, rfl, rfl⟩ := read
    have hgiven : ∀ json, lookUp? field.name members = some json →
        json.isCanonical = true :=
      fun _ found => Json.isCanonical_of_lookUp? hmembers found
    have hwritten := hfield.written hgiven hvalue
    have hput : Json.canonicalMembers (field.put (part whole)) =
        form.put members := by
      unfold Field.put MemberForm.put
      rw [hfield.name, ← hwritten]
      cases field.write (part whole) <;> rfl
    have hbefore := law.written hmembers hparts
    rw [Json.canonicalMembers_eq_map] at hput hbefore ⊢
    simp only [Layout.member, List.map_append, hput, hbefore]
    simp [Form.members]
  restored {members others parts} hmembers read same := by
    simp only [Option.bind_eq_bind, Option.bind_eq_some_iff, Option.pure_def,
      Option.some.injEq] at read ⊢
    obtain ⟨before, hbefore, value, hvalue, rfl⟩ := read
    have hgiven : ∀ json, lookUp? field.name members = some json →
        json.isCanonical = true :=
      fun _ found => Json.isCanonical_of_lookUp? hmembers found
    have hsame := same form
      (List.mem_append_right _ (List.mem_singleton_self _))
    rw [hfield.name] at hsame
    refine ⟨settle before, ?_, settlePart value,
      hfield.restored hgiven hvalue hsame, rfl⟩
    exact law.restored hmembers hbefore fun member hmember =>
      same member (List.mem_append_left _ hmember)
  settled {whole other} same := by
    obtain ⟨hbefore, hpart⟩ := Prod.mk.inj same
    simp only [Layout.member, Field.put, law.settled hbefore, hpart,
      hfield.settled]

theorem inline {layout : Layout Whole (Value → Built)}
    {made : Parts → Value → Built}
    (law : layout.Faithful likeness parts? made split forms settle)
    {inner : Layout Value Value} {InnerParts : Type}
    {innerParts? : Members → Option InnerParts}
    {innerMade : InnerParts → Value} {innerSplit : Value → InnerParts}
    {innerForms : List MemberForm} {innerSettle : InnerParts → InnerParts}
    (hinner : inner.Faithful likeness innerParts? innerMade innerSplit
      innerForms innerSettle)
    (part : Whole → Value) :
    (layout.inline inner part).Faithful likeness
      (fun members => do return (← parts? members, ← innerParts? members))
      (fun parts => made parts.1 (innerMade parts.2))
      (fun whole => (split whole, innerSplit (part whole)))
      (forms ++ innerForms)
      (fun parts => (settle parts.1, innerSettle parts.2)) where
  names := by
    simp [Layout.inline, Form.names, law.names, hinner.names]
  built members := by
    simp only [Layout.inline, law.built, hinner.built]
    cases parts? members <;> cases innerParts? members <;> rfl
  written {members whole} hmembers read := by
    simp only [Option.bind_eq_bind, Option.bind_eq_some_iff, Option.pure_def,
      Option.some.injEq, Prod.mk.injEq] at read
    obtain ⟨_, hparts, _, hinnerParts, rfl, rfl⟩ := read
    have hbefore := law.written hmembers hparts
    have hpart := hinner.written hmembers hinnerParts
    rw [Json.canonicalMembers_eq_map] at hpart hbefore ⊢
    simp only [Layout.inline, List.map_append, hpart, hbefore]
    simp [Form.members]
  restored {members others parts} hmembers read same := by
    simp only [Option.bind_eq_bind, Option.bind_eq_some_iff, Option.pure_def,
      Option.some.injEq] at read ⊢
    obtain ⟨before, hbefore, value, hvalue, rfl⟩ := read
    refine ⟨settle before, ?_, innerSettle value, ?_, rfl⟩
    · exact law.restored hmembers hbefore fun member hmember =>
        same member (List.mem_append_left _ hmember)
    · exact hinner.restored hmembers hvalue fun member hmember =>
        same member (List.mem_append_right _ hmember)
  settled {whole other} same := by
    obtain ⟨hbefore, hpart⟩ := Prod.mk.inj same
    simp only [Layout.inline, law.settled hbefore, hinner.settled hpart]

/-! ## Complete records -/

section Complete

variable {layout : Layout Whole Whole} {made : Parts → Whole} {whole : Whole}
  {members others : Members}

theorem parts_of_read
    (law : layout.Faithful likeness parts? made split forms settle)
    (hsplit : ∀ parts, split (made parts) = parts)
    (read : layout.read? members = some whole) :
    parts? members = some (split whole) := by
  rw [law.built, Option.map_eq_some_iff] at read
  obtain ⟨parts, hparts, rfl⟩ := read
  rw [hparts, hsplit]

theorem encoded
    (law : layout.Faithful likeness parts? made split forms settle)
    (hmembers : ∀ member ∈ members, member.2.isCanonical = true)
    (read : parts? members = some (split whole)) :
    (Json.object (layout.write whole)).canonical =
      Form.object forms Extent.written.undeclared (.object members) := by
  rw [Json.canonical, law.written hmembers read, Form.object,
    Extent.undeclared, List.append_nil]

theorem decoded
    (law : layout.Faithful likeness parts? made split forms settle)
    (distinct : (Form.names forms).Nodup)
    (hmembers : ∀ member ∈ members, member.2.isCanonical = true)
    (read : parts? members = some (split whole))
    (same : Form.entries likeness.normal others = Form.entries likeness.normal
      (sortEntries (Form.members forms members ++ []))) :
    layout.read? others = some (made (settle (split whole))) := by
  have hfound := Form.found_of_same distinct List.Pairwise.nil (by simp) same
  rw [law.built, law.restored hmembers read hfound, Option.map_some]

theorem object
    (law : layout.Faithful likeness parts? made split forms settle)
    (hsplit : ∀ parts, split (made parts) = parts)
    (distinct : (Form.names forms).Nodup) :
    layout.object.Faithful likeness
      (Form.object forms Extent.written.undeclared)
      (fun whole => made (settle (split whole))) where
  refusesNull := rfl
  written {json whole} hjson read := by
    cases json with
    | object members =>
        rw [Json.isCanonical_object] at hjson
        exact law.encoded hjson.2 (law.parts_of_read hsplit read)
    | _ => cases read
  restored {json other whole} hjson read same := by
    cases json with
    | object members =>
        rw [Json.isCanonical_object] at hjson
        obtain ⟨others, rfl, hothers⟩ := likeness.object same
        exact law.decoded distinct hjson.2 (law.parts_of_read hsplit read)
          hothers
    | _ => cases read
  settled whole := congrArg Json.object (law.settled (hsplit _))

theorem recordFrom
    (law : layout.Faithful likeness parts? made split forms settle)
    (hsplit : ∀ parts, split (made parts) = parts)
    (distinct : (Form.names forms).Nodup) (least : Nat) :
    (layout.recordFrom least).Faithful likeness
      (Form.record forms Extent.written.undeclared)
      (fun whole => made (settle (split whole))) := by
  -- Both spellings come down to members that are read as the whole.
  have spelled {json : Json} {whole : Whole} (hjson : json.isCanonical = true)
      (read : (layout.recordFrom least).decode? json = some whole) :
      ∃ members, (∀ member ∈ members, member.2.isCanonical = true) ∧
        parts? members = some (split whole) ∧
        Form.record forms Extent.written.undeclared json =
          Form.object forms Extent.written.undeclared (.object members) := by
    cases json with
    | object members =>
        rw [Json.isCanonical_object] at hjson
        exact ⟨members, hjson.2, law.parts_of_read hsplit read, rfl⟩
    | array items =>
        rw [Json.isCanonical_array] at hjson
        obtain ⟨members, hlisted, hread⟩ := Option.bind_eq_some_iff.1 read
        rw [Layout.listed?] at hlisted
        split at hlisted <;> cases hlisted
        refine ⟨_, ?_, law.parts_of_read hsplit hread, by rw [law.names]; rfl⟩
        exact fun member hmember => hjson member.2 (List.of_mem_zip hmember).2
    | _ => cases read
  refine ⟨rfl, ?_, ?_, ?_⟩
  · intro json whole hjson read
    obtain ⟨members, hmembers, hparts, hform⟩ := spelled hjson read
    rw [hform]
    exact law.encoded hmembers hparts
  · intro json other whole hjson read same
    obtain ⟨members, hmembers, hparts, hform⟩ := spelled hjson read
    rw [hform] at same
    obtain ⟨others, rfl, hothers⟩ := likeness.object same
    exact law.decoded distinct hmembers hparts hothers
  · exact fun whole => congrArg Json.object (law.settled (hsplit _))

end Complete

/-! ## Records that keep all other members -/

section Others

variable {Entry : Type} {layout : Layout Whole (Dict Entry → Whole)}
  {made : Parts → Dict Entry → Whole} {part : Whole → Dict Entry}

theorem entryKeys_entries (form : Json → Json) (members : Members) :
    entryKeys (Form.entries form members) = entryKeys members := by
  simp [Form.entries, entryKeys]

theorem foreign_without (names : List String) (members : Members) :
    ∀ key ∈ entryKeys (members.without names), key ∉ names := by
  intro key hkey
  obtain ⟨member, hmember, rfl⟩ := List.mem_map.1 hkey
  simpa [Members.without] using (List.mem_filter.1 hmember).2

theorem parts_of_readOthers
    (law : layout.Faithful likeness parts? made split forms settle)
    {entry : Codec Entry}
    (hsplit : ∀ parts values, split (made parts values) = parts)
    (hpart : ∀ parts values, part (made parts values) = values)
    {members : Members} {whole : Whole}
    (read : (layout.others entry part).read? members = some whole) :
    parts? members = some (split whole) ∧
      entry.decodeDict? (Members.without (Form.names forms) members) =
        some (part whole) := by
  simp only [Layout.others, law.built, law.names, Option.bind_eq_bind,
    Option.bind_eq_some_iff, Option.map_eq_some_iff, Option.pure_def,
    Option.some.injEq] at read
  obtain ⟨_, ⟨parts, hparts, rfl⟩, values, hvalues, rfl⟩ := read
  rw [hparts, hvalues, hsplit, hpart]
  exact ⟨rfl, rfl⟩

theorem readOthers_of_parts
    (law : layout.Faithful likeness parts? made split forms settle)
    {entry : Codec Entry} (part : Whole → Dict Entry) {members : Members}
    {parts : Parts} {values : Dict Entry} (hparts : parts? members = some parts)
    (hvalues : entry.decodeDict? (Members.without (Form.names forms) members) =
      some values) :
    (layout.others entry part).read? members = some (made parts values) := by
  simp only [Layout.others, law.built, law.names, hparts, hvalues]
  rfl

theorem writtenOthers
    (law : layout.Faithful likeness parts? made split forms settle)
    {entry : Codec Entry} {form : Json → Json} {members : Members}
    {whole : Whole}
    (hmembers : ∀ member ∈ members, member.2.isCanonical = true)
    (hparts : parts? members = some (split whole))
    (hextra : Json.canonicalMembers
      (entry.encodeEntries (part whole).entries) =
        Form.entries form (Members.without (Form.names forms) members)) :
    ((layout.others entry part).object.encode whole).canonical =
      Form.object forms (Form.entries form) (.object members) := by
  have hnamed := law.written hmembers hparts
  rw [Json.canonicalMembers_eq_map] at hextra hnamed
  simp only [Layout.object, Layout.others, Json.canonical,
    Json.canonicalMembers_eq_map, List.map_append, hnamed, hextra, Form.object]

theorem objectWith
    (law : layout.Faithful likeness parts? made split forms settle)
    {entry : Codec Entry} {form : Json → Json}
    (hentry : entry.Faithful likeness form id)
    (hsplit : ∀ parts values, split (made parts values) = parts)
    (hpart : ∀ parts values, part (made parts values) = values)
    (distinct : (Form.names forms).Nodup) :
    (layout.others entry part).object.Faithful likeness
      (Form.object forms (Form.entries form))
      (fun whole => made (settle (split whole)) (part whole)) where
  refusesNull := rfl
  written {json whole} hjson read := by
    cases json with
    | object members =>
        rw [Json.isCanonical_object] at hjson
        obtain ⟨hparts, hothers⟩ := law.parts_of_readOthers hsplit hpart read
        have hentries := Codec.Faithful.entries_of_decodeDict
          (hjson.1.without _) hothers
        refine law.writtenOthers hjson.2 hparts (hentry.entries_written ?_
          hentries)
        exact fun member h => hjson.2 member (List.mem_filter.1 h).1
    | _ => cases read
  restored {json other whole} hjson read same := by
    cases json with
    | object members =>
        rw [Json.isCanonical_object] at hjson
        obtain ⟨others, rfl, hothers⟩ := likeness.object same
        obtain ⟨hparts, hdict⟩ := law.parts_of_readOthers hsplit hpart read
        have hordered := hjson.1.without (Form.names forms)
        have hincrease := hordered.of_entryKeys
          (entryKeys_entries form _).symm
        have hforeign := foreign_without (Form.names forms) members
        rw [← entryKeys_entries form] at hforeign
        have hfound := Form.found_of_same distinct hincrease hforeign hothers
        have hextra := Form.without_of_same distinct hincrease hforeign hothers
        have hentries := hentry.entries_restored
          (fun member h => hjson.2 member (List.mem_filter.1 h).1)
          (Codec.Faithful.entries_of_decodeDict hordered hdict) hextra
        exact law.readOthers_of_parts part
          (law.restored hjson.2 hparts hfound)
          (Codec.Faithful.decodeDict_of_entries hentries)
    | _ => cases read
  settled whole := by
    have hnamed := law.settled (hsplit (settle (split whole)) (part whole))
    simp only [Layout.object, Layout.others, hnamed, hpart]

end Others

/-! ## Records that keep all other members as they are -/

section Kept

variable {layout : Layout Whole (Dict Json → Whole)}
  {made : Parts → Dict Json → Whole} (part : Whole → Dict Json)

theorem decodeEntries_json (members : Members) :
    Codec.json.decodeEntries? members = some members := by
  induction members with
  | nil => rfl
  | cons member rest ih =>
      simp only [Codec.decodeEntries?, ih]
      rfl

theorem kept_of_decodeDict {members : Members} {dict : Dict Json}
    (increase : KeysIncrease members)
    (read : Codec.json.decodeDict? members = some dict) :
    dict.entries = members := by
  have hentries := Codec.Faithful.entries_of_decodeDict increase read
  rw [decodeEntries_json] at hentries
  exact (Option.some.inj hentries).symm

/-- The named parts of a whole that is read, and what is kept beside them. -/
theorem parts_of_readKept
    (law : layout.Faithful likeness parts? made split forms settle)
    (hsplit : ∀ parts values, split (made parts values) = parts)
    (hpart : ∀ parts values, part (made parts values) = values)
    {members : Members} {whole : Whole} (increase : KeysIncrease members)
    (read : (layout.others .json part).read? members = some whole) :
    parts? members = some (split whole) ∧
      (part whole).entries = Members.without (Form.names forms) members := by
  obtain ⟨hparts, hothers⟩ := law.parts_of_readOthers hsplit hpart read
  exact ⟨hparts, kept_of_decodeDict (increase.without _) hothers⟩

theorem writtenKept
    (law : layout.Faithful likeness parts? made split forms settle)
    {members : Members} {whole : Whole}
    (hmembers : ∀ member ∈ members, member.2.isCanonical = true)
    (hparts : parts? members = some (split whole))
    (hkept : (part whole).entries =
      Members.without (Form.names forms) members) :
    ((layout.others .json part).object.encode whole).canonical =
      Form.object forms id (.object members) := by
  have hentries (kept : Members) : Form.entries id kept = kept := List.map_id _
  have hform : Form.object forms id (.object members) =
      Form.object forms (Form.entries id) (.object members) := by
    simp only [Form.object, hentries, id]
  rw [hform]
  refine law.writtenOthers hmembers hparts ?_
  rw [hkept, hentries]
  refine (congrArg Json.canonicalMembers (List.map_id _)).trans ?_
  refine Json.canonicalMembers_of_membersCanonical _ ?_
  rw [Json.membersCanonical_iff]
  exact fun member h => hmembers member (List.mem_filter.1 h).1

theorem parts_of_form
    (law : layout.Faithful likeness parts? made split forms settle)
    (distinct : (Form.names forms).Nodup) {members others : Members}
    {parts : Parts} (increase : KeysIncrease members)
    (hmembers : ∀ member ∈ members, member.2.isCanonical = true)
    (read : parts? members = some parts)
    (same : Form.entries likeness.normal others =
      Form.entries likeness.normal (sortEntries
        (Form.members forms members ++
          Members.without (Form.names forms) members))) :
    parts? others = some (settle parts) ∧
      Form.entries likeness.normal
          (Members.without (Form.names forms) others) =
        Form.entries likeness.normal
          (Members.without (Form.names forms) members) := by
  have hforeign := foreign_without (Form.names forms) members
  have hkept := increase.without (Form.names forms)
  have hfound := Form.found_of_same distinct hkept hforeign same
  exact ⟨law.restored hmembers read hfound,
    Form.without_of_same distinct hkept hforeign same⟩

theorem parts_iff_form
    (law : layout.Faithful .unsignedZeros parts? made split forms id)
    (distinct : (Form.names forms).Nodup) {members others : Members}
    {left right : Whole} (increase : KeysIncrease members)
    (hmembers : ∀ member ∈ members, member.2.isCanonical = true)
    (hleft : parts? members = some (split left))
    (increase' : KeysIncrease others)
    (hothers : ∀ member ∈ others, member.2.isCanonical = true)
    (hright : parts? others = some (split right)) :
    (split left = split right ∧
        Json.plainMembers (Members.without (Form.names forms) members) =
          Json.plainMembers (Members.without (Form.names forms) others)) ↔
      (Form.object forms id (.object members)).plain =
        (Form.object forms id (.object others)).plain := by
  simp only [Form.object, Json.plain, id, Json.object.injEq]
  constructor
  · rintro ⟨hparts, hkept⟩
    have hright' : parts? others = some (split left) := hparts ▸ hright
    have hnamed := (law.written hmembers hleft).symm.trans
      (law.written hothers hright')
    rw [hnamed, ← Json.sortEntries_plainMembers,
      ← Json.sortEntries_plainMembers, Json.plainMembers_append,
      Json.plainMembers_append, hkept]
  · intro same
    -- Both forms are read as their parts, and they are the same.
    rw [Json.plainMembers_eq_map, Json.plainMembers_eq_map] at same ⊢
    have hpartsLeft := law.parts_of_form distinct increase hmembers hleft
      same.symm
    have hpartsRight := law.parts_of_form distinct increase' hothers hright rfl
    refine ⟨?_, hpartsLeft.2.symm.trans hpartsRight.2⟩
    exact Option.some.inj (hpartsLeft.1.symm.trans hpartsRight.1)

theorem restoredKept (law : layout.Faithful .exact parts? made split forms id)
    (hmade : ∀ whole, made (split whole) (part whole) = whole)
    (distinct : (Form.names forms).Nodup) {members : Members} {whole : Whole}
    (increase : KeysIncrease members)
    (hmembers : ∀ member ∈ members, member.2.isCanonical = true)
    (hparts : parts? members = some (split whole))
    (hkept : (part whole).entries =
      Members.without (Form.names forms) members) :
    (layout.others .json part).object.decode?
      (Form.object forms id (.object members)) = some whole := by
  obtain ⟨hnamed, hothers⟩ :=
    law.parts_of_form distinct increase hmembers hparts rfl
  have hrest : Members.without (Form.names forms)
      (sortEntries (Form.members forms members ++
        Members.without (Form.names forms) members)) = (part whole).entries := by
    simpa [Form.entries, Likeness.exact, hkept] using hothers
  have hdict := Codec.Faithful.decodeDict_of_entries
    ((decodeEntries_json _).trans (congrArg some hrest))
  have hread := law.readOthers_of_parts part hnamed hdict
  rw [id, hmade] at hread
  exact hread

theorem objectKeeping
    (law : ∀ likeness, layout.Faithful likeness parts? made split forms id)
    (hsplit : ∀ parts values, split (made parts values) = parts)
    (hpart : ∀ parts values, part (made parts values) = values)
    (hmade : ∀ whole, made (split whole) (part whole) = whole)
    (distinct : (Form.names forms).Nodup) :
    (layout.others .json part).object.FaithfulUpTo (Form.object forms id)
      (fun left right => split left = split right ∧
        Json.plainMembers (part left).entries =
          Json.plainMembers (part right).entries) := by
  refine ⟨?_, ?_, ?_⟩
  · intro json whole hjson read
    cases json with
    | object members =>
        rw [Json.isCanonical_object] at hjson
        obtain ⟨hparts, hkept⟩ :=
          (law .exact).parts_of_readKept part hsplit hpart hjson.1 read
        exact (law .exact).writtenKept part hjson.2 hparts hkept
    | _ => cases read
  · intro json whole hjson read
    cases json with
    | object members =>
        rw [Json.isCanonical_object] at hjson
        obtain ⟨hparts, hkept⟩ :=
          (law .exact).parts_of_readKept part hsplit hpart hjson.1 read
        exact (law .exact).restoredKept part hmade distinct hjson.1 hjson.2
          hparts hkept
    | _ => cases read
  · intro json other left right hjson hother readLeft readRight
    cases json with
    | object members =>
        cases other with
        | object others =>
            rw [Json.isCanonical_object] at hjson hother
            obtain ⟨hleft, hleftKept⟩ :=
              (law .exact).parts_of_readKept part hsplit hpart hjson.1 readLeft
            obtain ⟨hright, hrightKept⟩ :=
              (law .exact).parts_of_readKept part hsplit hpart hother.1
                readRight
            rw [hleftKept, hrightKept]
            exact (law .unsignedZeros).parts_iff_form distinct hjson.1 hjson.2
              hleft hother.1 hother.2 hright
        | _ => cases readRight
    | _ => cases readLeft

end Kept

end Layout.Faithful
end AdmissionGate
