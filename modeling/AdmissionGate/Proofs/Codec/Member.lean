import AdmissionGate.Proofs.Codec.Faithful

/-!
# Faithful members

What the members of records owe to their forms: each is written in its form,
left out where the form has nothing, and read again from it.
-/

namespace AdmissionGate

variable {Value : Type}

structure Field.Faithful (likeness : Likeness) (field : Field Value)
    (form : MemberForm) (settle : Value → Value) : Prop where
  name : form.name = field.name
  written {given : Option Json} {value : Value}
    (hgiven : ∀ json, given = some json → json.isCanonical = true)
    (read : field.read? given = some value) :
    (field.write value).map Json.canonical = form.form given
  restored {given other : Option Json} {value : Value}
    (hgiven : ∀ json, given = some json → json.isCanonical = true)
    (read : field.read? given = some value)
    (same : other.map likeness.normal =
      (form.form given).map likeness.normal) :
    field.read? other = some (settle value)
  settled (value : Value) : field.write (settle value) = field.write value

namespace Field.Faithful

variable {likeness : Likeness} {codec : Codec Value} {form : Json → Json}
  {settle : Value → Value}

theorem required (name : String) (law : codec.Faithful likeness form settle) :
    (Field.required name codec).Faithful likeness (.required name form)
      settle where
  name := rfl
  written {given value} hgiven read := by
    cases given with
    | none => cases read
    | some json => exact congrArg some (law.written (hgiven json rfl) read)
  restored {given other value} hgiven read same := by
    cases given with
    | none => cases read
    | some json =>
        obtain ⟨json', rfl, hjson'⟩ := Option.map_eq_some_iff.1 same
        exact law.restored (hgiven json rfl) read hjson'
  settled value := congrArg some (law.settled value)

theorem defaulted (name : String) (law : codec.Faithful likeness form settle)
    {default : Value} {written : Json} (hwritten : written.isCanonical = true)
    (read : codec.decode? written = some default)
    (hform : form written = written) :
    (Field.defaulted name codec default).Faithful likeness
      (.defaulted name form written) settle where
  name := rfl
  written {given value} hgiven hread := by
    cases given with
    | none =>
        cases hread
        exact congrArg some ((law.written hwritten read).trans hform)
    | some json => exact congrArg some (law.written (hgiven json rfl) hread)
  restored {given other value} hgiven hread same := by
    obtain ⟨json', rfl, hjson'⟩ := Option.map_eq_some_iff.1 same
    cases given with
    | none =>
        cases hread
        refine law.restored hwritten read ?_
        rw [hform]
        exact hjson'
    | some json => exact law.restored (hgiven json rfl) hread hjson'
  settled value := congrArg some (law.settled value)

theorem optional_read {name : String} {json : Json} (present : json ≠ .null) :
    (Field.optional name codec).read? (some json) =
      (codec.decode? json).map some := by
  cases json <;> first | rfl | exact absurd rfl present

theorem optional_form {name : String} {json : Json} (present : json ≠ .null) :
    (MemberForm.optional name form).form (some json) = some (form json) := by
  cases json <;> first | rfl | exact absurd rfl present

theorem settlingOptional (name : String)
    (law : codec.Faithful likeness form settle) :
    (Field.optional name codec).Faithful likeness (.optional name form)
      (Option.map settle) where
  name := rfl
  written {given value} hgiven read := by
    rcases given with _ | json
    · cases read
      rfl
    by_cases hnull : json = .null
    · subst hnull
      cases read
      rfl
    · rw [optional_read hnull] at read
      obtain ⟨value', hvalue, rfl⟩ := Option.map_eq_some_iff.1 read
      rw [optional_form hnull, ← law.written (hgiven json rfl) hvalue]
      rfl
  restored {given other value} hgiven read same := by
    rcases given with _ | json
    · cases read
      cases other <;> cases same
      rfl
    by_cases hnull : json = .null
    · subst hnull
      cases read
      cases other <;> cases same
      rfl
    · rw [optional_read hnull] at read
      rw [optional_form hnull] at same
      obtain ⟨value', hvalue, rfl⟩ := Option.map_eq_some_iff.1 read
      obtain ⟨json', rfl, hjson'⟩ := Option.map_eq_some_iff.1 same
      have hrestored := law.restored (hgiven json rfl) hvalue hjson'
      -- A null in its place would stand for an absent member.
      have hpresent : json' ≠ .null := by
        rintro rfl
        rw [law.refusesNull] at hrestored
        cases hrestored
      rw [optional_read hpresent, hrestored]
      rfl
  settled value := by cases value <;> simp [Field.optional, law.settled]

theorem optional (name : String) (law : codec.Faithful likeness form id) :
    (Field.optional name codec).Faithful likeness (.optional name form) id := by
  simpa using settlingOptional name law

theorem optionalJson (name : String) :
    (Field.optional name .json).Faithful .exact (.optional name id) id where
  name := rfl
  written {given value} hgiven read := by
    rcases given with _ | json
    · cases read
      rfl
    · have hcanonical := Json.canonical_of_isCanonical json (hgiven json rfl)
      cases json <;> cases read <;>
        first | rfl | exact congrArg some hcanonical
  restored {given other value} _ read same := by
    have hother : other = (MemberForm.optional name id).form given := by
      simpa [Likeness.exact] using same
    rw [hother]
    rcases given with _ | json
    · exact read
    · cases json <;> exact read
  settled _ := rfl

theorem lenientString (name : String) :
    (Field.lenientString name).Faithful likeness (.lenientString name) id where
  name := rfl
  written {given value} _ read := by
    rcases given with _ | json
    · cases read
      rfl
    · cases json <;> cases read <;> rfl
  restored {given other value} _ read same := by
    have htext : other = some (.string value) := by
      rcases given with _ | json
      · cases read
        obtain ⟨json', rfl, hjson'⟩ := Option.map_eq_some_iff.1 same
        exact congrArg some (likeness.string hjson')
      · cases json <;> cases read <;>
          (obtain ⟨json', rfl, hjson'⟩ := Option.map_eq_some_iff.1 same
           exact congrArg some (likeness.string hjson'))
    rw [htext]
    rfl
  settled _ := rfl

/-! ## Collections that are left out when empty -/

theorem sparse {field : Field Value} {default : Value} {empty : Json}
    (law : codec.Faithful likeness form id)
    (hnone : field.read? none = some default)
    (hsome : ∀ json, field.read? (some json) = codec.decode? json)
    (hdefault : field.write default = none)
    (hwrite : ∀ value, value ≠ default →
      field.write value = some (codec.encode value))
    (hempty : ∀ value, (codec.encode value).canonical = empty ↔
      value = default) :
    field.Faithful likeness (.sparse field.name form empty) id where
  name := rfl
  written {given value} hgiven read := by
    rcases given with _ | json
    · cases hnone.symm.trans read
      rw [hdefault]
      rfl
    · have hwritten := law.written (hgiven json rfl) (hsome json ▸ read)
      have hform : form json = empty ↔ value = default :=
        hwritten ▸ hempty value
      simp only [MemberForm.sparse, Option.bind_some]
      by_cases hvalue : value = default
      · rw [if_pos (hform.2 hvalue), hvalue, hdefault]
        rfl
      · rw [if_neg (mt hform.1 hvalue), hwrite value hvalue, ← hwritten]
        rfl
  restored {given other value} hgiven read same := by
    rcases given with _ | json
    · cases other <;> cases same
      exact read
    · have hread := hsome json ▸ read
      have hwritten := law.written (hgiven json rfl) hread
      simp only [MemberForm.sparse, Option.bind_some] at same
      split at same
      · rename_i hform
        cases other <;> cases same
        rw [(hempty value).1 (hwritten.trans hform)]
        exact hnone
      · obtain ⟨json', rfl, hjson'⟩ := Option.map_eq_some_iff.1 same
        rw [hsome]
        exact law.restored (hgiven json rfl) hread hjson'
  settled _ := rfl

theorem listed (name : String) (law : codec.Faithful likeness form id) :
    (Field.listed name codec).Faithful likeness
      (.sparse name (Form.list form) (.array [])) id := by
  refine sparse law.list rfl (fun _ => rfl) rfl ?_ ?_
  · intro values hvalues
    cases values with
    | nil => exact absurd rfl hvalues
    | cons first rest => rfl
  · intro values
    cases values <;> simp [Codec.list, Json.canonical, Json.canonicalItems]

theorem mapped (name : String) (law : codec.Faithful likeness form id) :
    (Field.mapped name codec).Faithful likeness
      (.sparse name (Form.dict form) (.object [])) id := by
  refine sparse law.dict rfl (fun _ => rfl) rfl ?_ ?_
  · rintro ⟨entries, increase⟩ hvalues
    cases entries with
    | nil => exact absurd rfl hvalues
    | cons first rest => rfl
  · rintro ⟨entries, increase⟩
    have hordered : KeysIncrease
        (Json.canonicalMembers (codec.encodeEntries entries)) := by
      refine increase.of_entryKeys ?_
      simp [Json.canonicalMembers_eq_map, Codec.encodeEntries, entryKeys]
    simp only [Codec.dict, Json.canonical]
    rw [sortEntries_of_keysIncrease hordered]
    simp [Json.canonicalMembers_eq_map, Codec.encodeEntries, Dict.ext_iff,
      Dict.empty]

end Field.Faithful
end AdmissionGate
