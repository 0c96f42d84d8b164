import AdmissionGate.Proofs.Json.Entries

/-!
# Recovery

What is written of a value is read as this value again.  The laws here carry this
from scalars through lists and members to records whose names are distinct.
-/

namespace AdmissionGate

variable {Whole Value Built : Type}

/-! ## Scalars and lists -/

def Codec.Recovers (codec : Codec Value) (value : Value) : Prop :=
  codec.decode? (codec.encode value) = some value

namespace Codec.Recovers

theorem string (text : String) : Codec.string.Recovers text := rfl

theorem bool (value : Bool) : Codec.bool.Recovers value := rfl

theorem unsigned {largest value : Nat} (fits : value ≤ largest) :
    (Codec.unsigned largest).Recovers value := by
  simp [Codec.Recovers, Codec.unsigned, Json.integer?, fits]

theorem list {item : Codec Value} {values : List Value}
    (recovers : ∀ value ∈ values, item.Recovers value) :
    item.list.Recovers values := by
  simp only [Codec.Recovers, Codec.list, Json.array?, Option.bind_some]
  induction values with
  | nil => rfl
  | cons value rest ih =>
      obtain ⟨hvalue, hrest⟩ := List.forall_mem_cons.1 recovers
      simp only [List.map_cons, decodeItems?, show item.decode? _ = _ from hvalue,
        ih hrest]
      rfl

end Codec.Recovers

/-! ## Members -/

def Field.Recovers (field : Field Value) (value : Value) : Prop :=
  field.read? (field.write value) = some value

namespace Field

theorem entryKeys_put (field : Field Value) (value : Value) :
    (entryKeys (field.put value)).Sublist [field.name] := by
  unfold put
  split <;> simp

theorem lookUp?_put (field : Field Value) (value : Value) :
    lookUp? field.name (field.put value) = field.write value := by
  unfold put
  split <;> simp_all [lookUp?]

theorem lookUp?_put_of_ne {field : Field Value} {key : String}
    (other : field.name ≠ key) (value : Value) :
    lookUp? key (field.put value) = none := by
  refine lookUp?_eq_none_iff.2 fun found => other ?_
  exact (List.mem_singleton.1 ((entryKeys_put field value).subset found)).symm

namespace Recovers

variable {name : String} {codec : Codec Value} {value : Value}

theorem required (h : codec.Recovers value) :
    (Field.required name codec).Recovers value := h

theorem sparse [DecidableEq Value] {default : Value} (h : codec.Recovers value) :
    (Field.sparse name codec default).Recovers value := by
  by_cases same : value = default
  · simp [Field.Recovers, Field.sparse, same]
  · simpa [Field.Recovers, Field.sparse, same, Codec.Recovers] using h

theorem absent {value : Option Value} (none : value = none) :
    (Field.optional name codec).Recovers value := by
  subst none
  rfl

/-- A null would be taken for an absent member. -/
theorem optional {value : Option Value}
    (h : ∀ held, value = some held → codec.Recovers held)
    (present : ∀ held, codec.encode held ≠ .null) :
    (Field.optional name codec).Recovers value := by
  cases value with
  | none => exact absent rfl
  | some held =>
      have hread : codec.decode? (codec.encode held) = some held := h held rfl
      unfold Field.Recovers Field.optional
      dsimp only [Option.map_some]
      split
      · rename_i absent
        cases absent
      · rename_i absent
        exact absurd (Option.some.inj absent) (present held)
      · rename_i same
        rw [← Option.some.inj same, hread]
        rfl

theorem listed {values : List Value}
    (h : ∀ value ∈ values, codec.Recovers value) :
    (Field.listed name codec).Recovers values := by
  cases values with
  | nil => rfl
  | cons first rest => exact Codec.Recovers.list h

theorem unmapped {values : Dict Value} (none : values = .empty) :
    (Field.mapped name codec).Recovers values := by
  subst none
  rfl

end Recovers
end Field

/-! ## Records -/

def Layout.Keyed (layout : Layout Whole Built) : Prop :=
  ∀ whole, (entryKeys (layout.write whole)).Sublist layout.names

namespace Layout.Keyed

theorem start (make : Built) : (Layout.start make : Layout Whole Built).Keyed :=
  fun _ => List.nil_sublist _

theorem member {layout : Layout Whole (Value → Built)} (keyed : layout.Keyed)
    {field : Field Value} {part : Whole → Value} :
    (layout.member field part).Keyed := by
  intro whole
  simp only [Layout.member, entryKeys_append]
  exact (keyed whole).append (field.entryKeys_put _)

theorem inline {layout : Layout Whole (Value → Built)} (keyed : layout.Keyed)
    {inner : Layout Value Value} {part : Whole → Value} (hinner : inner.Keyed) :
    (layout.inline inner part).Keyed := by
  intro whole
  simp only [Layout.inline, entryKeys_append]
  exact (keyed whole).append (hinner _)

end Layout.Keyed

/-- The parts of a record are read again from members that hold under its names
what is written of it. -/
structure Layout.Recovers (layout : Layout Whole Built) (whole : Whole)
    (built : Built) : Prop where
  keyed : layout.Keyed
  read {members : Members}
    (same : ∀ name ∈ layout.names,
      lookUp? name members = lookUp? name (layout.write whole)) :
    layout.read? members = some built

namespace Layout.Recovers

variable {whole : Whole}

theorem start (make : Built) :
    (Layout.start make : Layout Whole Built).Recovers whole make where
  keyed := .start make
  read _ := rfl

theorem missing {layout : Layout Whole Built} {built : Built}
    (law : layout.Recovers whole built) {key : String}
    (foreign : key ∉ layout.names) : lookUp? key (layout.write whole) = none :=
  lookUp?_eq_none_iff.2 fun found => foreign ((law.keyed whole).subset found)

theorem member {layout : Layout Whole (Value → Built)} {make : Value → Built}
    (law : layout.Recovers whole make) {field : Field Value}
    {part : Whole → Value} (hfield : field.Recovers (part whole))
    (fresh : field.name ∉ layout.names) :
    (layout.member field part).Recovers whole (make (part whole)) where
  keyed := law.keyed.member
  read {members} same := by
    simp only [Layout.member, List.mem_append, List.mem_singleton,
      lookUp?_append] at same
    have hbefore : layout.read? members = some make := by
      refine law.read fun name hname => ?_
      have hother : field.name ≠ name := fun equal => fresh (equal ▸ hname)
      rw [same name (.inl hname), Field.lookUp?_put_of_ne hother,
        Option.or_none]
    have hvalue : field.get? members = some (part whole) := by
      rw [Field.get?, same field.name (.inr rfl), law.missing fresh,
        Option.none_or, Field.lookUp?_put]
      exact hfield
    simp only [Layout.member, hbefore, hvalue]
    rfl

theorem inline {layout : Layout Whole (Value → Built)} {make : Value → Built}
    (law : layout.Recovers whole make) {inner : Layout Value Value}
    {part : Whole → Value} (hinner : inner.Recovers (part whole) (part whole))
    (fresh : ∀ name ∈ layout.names, name ∉ inner.names) :
    (layout.inline inner part).Recovers whole (make (part whole)) where
  keyed := law.keyed.inline hinner.keyed
  read {members} same := by
    simp only [Layout.inline, List.mem_append, lookUp?_append] at same
    have hbefore : layout.read? members = some make := by
      refine law.read fun name hname => ?_
      rw [same name (.inl hname), hinner.missing (fresh name hname),
        Option.or_none]
    have hpart : inner.read? members = some (part whole) := by
      refine hinner.read fun name hname => ?_
      have hother : name ∉ layout.names := fun found => fresh name found hname
      rw [same name (.inr hname), law.missing hother, Option.none_or]
    simp only [Layout.inline, hbefore, hpart]
    rfl

theorem recordFrom {layout : Layout Whole Whole}
    (law : layout.Recovers whole whole) (least : Nat) :
    (layout.recordFrom least).Recovers whole :=
  law.read fun _ _ => rfl

end Layout.Recovers
end AdmissionGate
