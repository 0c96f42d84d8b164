import AdmissionGate.SchemaRequest.Kind

/-!
# Lower case

Lower case is a matter of Unicode.  For a comparison with a name in ASCII it is
enough to know what becomes of ASCII, and that nothing else ends up there but
the Kelvin sign, which becomes a `k`.
-/

namespace AdmissionGate

namespace Text

/-- What a text may become in lower case, one character after the other.  The
piece that stands for a character may depend on the characters around it. -/
inductive Lowers : List Char → List Char → Prop where
  | nil : Lowers [] []
  | ascii {head : Char} {rest lowered : List Char} (inside : head.toNat < 128)
      (tail : Lowers rest lowered) :
      Lowers (head :: rest) (head.toLower :: lowered)
  | kelvin {rest lowered : List Char} (tail : Lowers rest lowered) :
      Lowers ('\u212a' :: rest) ('k' :: lowered)
  | other {head : Char} {piece rest lowered : List Char}
      (outside : 128 ≤ head.toNat) (stays : ∃ mark ∈ piece, 128 ≤ mark.toNat)
      (tail : Lowers rest lowered) : Lowers (head :: rest) (piece ++ lowered)

structure LowerCase where
  text : String → String
  lowers (name : String) : Lowers name.toList (text name).toList

theorem toLower_of_outside {character : Char} (h : 128 ≤ character.toNat) :
    character.toLower = character := by
  unfold Char.toLower
  refine dif_neg ?_
  rintro ⟨-, hcapital⟩
  have hcode : character.toNat ≤ 90 := UInt32.le_iff_toNat_le.1 hcapital
  omega

theorem toList_toLower (name : String) :
    name.toLower.toList = name.toList.map Char.toLower :=
  String.toList_map

def LowerCase.ofAscii : LowerCase where
  text := String.toLower
  lowers name := by
    rw [toList_toLower]
    induction name.toList with
    | nil => exact .nil
    | cons head rest ih =>
        rw [List.map_cons]
        by_cases inside : head.toNat < 128
        · exact .ascii inside ih
        · have outside := Nat.le_of_not_lt inside
          rw [toLower_of_outside outside]
          have stays : ∃ mark ∈ [head], 128 ≤ mark.toNat :=
            ⟨head, List.mem_singleton_self head, outside⟩
          exact .other outside stays ih

/-! ## Comparison -/

def AsciiOnly (letter : Char) : Prop := letter.toNat < 128 ∧ letter ≠ 'k'

instance (letter : Char) : Decidable (AsciiOnly letter) :=
  inferInstanceAs (Decidable (_ ∧ _))

theorem Lowers.eq_iff {text lowered name : List Char}
    (lowers : Lowers text lowered) (only : ∀ letter ∈ name, AsciiOnly letter) :
    lowered = name ↔ text.map Char.toLower = name := by
  induction lowers generalizing name with
  | nil => rfl
  | ascii _ _ ih =>
      cases name with
      | nil => simp
      | cons letter rest =>
          rw [List.forall_mem_cons] at only
          simp only [List.map_cons, List.cons.injEq, ih only.2]
  | kelvin _ _ =>
      -- The name has neither a `k` nor the Kelvin sign.
      constructor
      · rintro rfl
        exact absurd rfl (only 'k' List.mem_cons_self).2
      · rintro rfl
        exact absurd (only _ List.mem_cons_self).1 (by decide)
  | other outside stays _ _ =>
      constructor
      · rintro rfl
        obtain ⟨mark, hmark, hstays⟩ := stays
        have hinside := (only mark (List.mem_append_left _ hmark)).1
        omega
      · rintro rfl
        have hinside := (only _ List.mem_cons_self).1
        rw [toLower_of_outside outside] at hinside
        omega

theorem LowerCase.text_eq_iff (lower : LowerCase) {text name : String}
    (only : ∀ letter ∈ name.toList, AsciiOnly letter) :
    lower.text text = name ↔ text.toLower = name := by
  rw [← String.toList_inj, (lower.lowers text).eq_iff only,
    ← toList_toLower, String.toList_inj]

end Text

/-! ## Reserved names -/

namespace SchemaKind

theorem asciiOnly_of_mem_reservedNames {kind : SchemaKind} {name : String}
    (h : name ∈ kind.reservedNames) :
    ∀ letter ∈ name.toList, Text.AsciiOnly letter := by
  have hall : (kind.reservedNames.all fun name =>
      name.toList.all fun letter => decide (Text.AsciiOnly letter)) = true := by
    cases kind <;> decide
  simp only [List.all_eq_true, decide_eq_true_eq] at hall
  exact hall name h

/-- A name is reserved if its lower case is, whatever becomes of characters
outside of ASCII. -/
theorem isReserved_iff (lower : Text.LowerCase) (kind : SchemaKind)
    (name : String) :
    kind.isReserved name = true ↔ lower.text name ∈ kind.reservedNames := by
  rw [isReserved, List.contains_iff_mem]
  constructor
  · intro hreserved
    have only := asciiOnly_of_mem_reservedNames hreserved
    rwa [(lower.text_eq_iff only).2 rfl]
  · intro hreserved
    have only := asciiOnly_of_mem_reservedNames hreserved
    rwa [(lower.text_eq_iff only).1 rfl]

end SchemaKind
end AdmissionGate
