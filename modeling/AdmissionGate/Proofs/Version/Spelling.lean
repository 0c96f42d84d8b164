import AdmissionGate.Proofs.Text.Numeral
import AdmissionGate.Version

/-!
# Spelled versions

The texts that are versions.  Between the blanks stand any number of marks v, one
to three numerals with points between them, and at the end whatever begins with a
hyphen or a plus sign.  A text is read exactly as it is spelled.
-/

namespace AdmissionGate.Version

open Text

/-! ## Grammar -/

structure SpellsNumber (digits : List Char) (value : Nat) : Prop where
  nonempty : digits ≠ []
  decimal : ∀ digit ∈ digits, digit.isDigit = true
  plain : digits.head? = some '0' → digits = ['0']
  value_eq : valueOfDigits digits = value
  bounded : value ≤ maxUInt64

/-- The numbers that are left out are zero. -/
inductive SpellsNumbers : List Char → Version → Prop
  | one {major : List Char} {first : Nat} (hmajor : SpellsNumber major first) :
      SpellsNumbers major ⟨first, 0, 0⟩
  | two {major minor : List Char} {first second : Nat}
      (hmajor : SpellsNumber major first) (hminor : SpellsNumber minor second) :
      SpellsNumbers (major ++ '.' :: minor) ⟨first, second, 0⟩
  | three {major minor patch : List Char} {first second third : Nat}
      (hmajor : SpellsNumber major first) (hminor : SpellsNumber minor second)
      (hpatch : SpellsNumber patch third) :
      SpellsNumbers (major ++ '.' :: (minor ++ '.' :: patch))
        ⟨first, second, third⟩

/-- The name of a distribution or of a build, or nothing. -/
def IsSuffix (text : List Char) : Prop :=
  ∀ character ∈ text.head?, character = '-' ∨ character = '+'

def SpelledBy (version : Version) (text : List Char) : Prop :=
  ∃ marks numbers suffix, text = marks ++ (numbers ++ suffix) ∧
    (∀ mark ∈ marks, mark = 'v') ∧ SpellsNumbers numbers version ∧ IsSuffix suffix

def Denotes (text : String) (version : Version) : Prop :=
  version.SpelledBy (trim text.toList)

/-! ## Numerals -/

section

variable {digits : List Char} {value : Nat}

theorem numeral?_eq_some_iff :
    numeral? digits = some value ↔ SpellsNumber digits value := by
  have hplain : (digits.head? = some '0' → digits.length = 1) ↔
      (digits.head? = some '0' → digits = ['0']) := by
    cases digits with
    | nil => simp
    | cons digit rest =>
        simp only [List.head?_cons, Option.some.injEq, List.length_cons,
          Nat.add_eq_right, List.length_eq_zero_iff, List.cons.injEq]
        exact imp_congr_right fun hzero => (and_iff_right hzero).symm
  have hguard : (digits.isEmpty || !digits.all Char.isDigit ||
        (digits.head? == some '0' && digits.length != 1)) = true ↔
      ¬ (digits ≠ [] ∧ (∀ digit ∈ digits, digit.isDigit = true) ∧
        (digits.head? = some '0' → digits = ['0'])) := by
    rw [← hplain]
    simp [or_assoc, imp_iff_not_or]
  unfold numeral?
  split
  · rename_i hinvalid
    refine iff_of_false nofun fun h => hguard.1 hinvalid ?_
    exact ⟨h.nonempty, h.decimal, h.plain⟩
  · rename_i hvalid
    obtain ⟨hnonempty, hdecimal, hzero⟩ := Decidable.not_not.1 (mt hguard.2 hvalid)
    simp only [boundedValue?, Option.ite_none_right_eq_some, Option.some.injEq]
    constructor
    · rintro ⟨hbounded, rfl⟩
      exact ⟨hnonempty, hdecimal, hzero, rfl, hbounded⟩
    · rintro ⟨-, -, -, rfl, hbounded⟩
      exact ⟨hbounded, rfl⟩

theorem SpellsNumber.point_not_mem (spells : SpellsNumber digits value) :
    '.' ∉ digits := by
  intro hmember
  cases spells.decimal '.' hmember

theorem SpellsNumber.exists_cons (spells : SpellsNumber digits value) :
    ∃ digit rest, digits = digit :: rest ∧ digit.isDigit = true := by
  cases digits with
  | nil => exact absurd rfl spells.nonempty
  | cons digit rest => exact ⟨digit, rest, rfl, spells.decimal _ List.mem_cons_self⟩

end

/-! ## Parts between separators -/

section

variable {separator : Char} {text part next : List Char}
  {parts : List (List Char)}

theorem splitParts_eq_splitOn :
    splitParts separator text = text.splitOn separator := by
  induction text with
  | nil => rfl
  | cons head rest ih =>
      rw [List.splitOn_cons_eq_if_modifyHead, splitParts, ih]
      cases hrest : rest.splitOn separator with
      | nil => exact absurd hrest (List.splitOn_ne_nil _ _)
      | cons part parts => simp

theorem splitParts_of_not_mem (h : separator ∉ text) :
    splitParts separator text = [text] := by
  rw [splitParts_eq_splitOn, List.splitOn_eq_singleton h]

theorem splitParts_append_cons (h : separator ∉ part) :
    splitParts separator (part ++ separator :: text) =
      part :: splitParts separator text := by
  simp only [splitParts_eq_splitOn, List.splitOn_append_cons_self_of_not_mem h]

theorem splitParts_ne_nil : splitParts separator text ≠ [] := by
  rw [splitParts_eq_splitOn]
  exact List.splitOn_ne_nil _ _

theorem splitParts_eq_singleton_iff :
    splitParts separator text = [part] ↔ text = part ∧ separator ∉ part := by
  constructor
  · intro h
    by_cases hseparator : separator ∈ text
    · obtain ⟨front, rest, rfl, hfront⟩ := List.eq_append_cons_of_mem hseparator
      rw [splitParts_append_cons hfront] at h
      exact absurd (List.cons.inj h).2 splitParts_ne_nil
    · rw [splitParts_of_not_mem hseparator] at h
      cases h
      exact ⟨rfl, hseparator⟩
  · rintro ⟨rfl, hseparator⟩
    exact splitParts_of_not_mem hseparator

theorem splitParts_eq_cons_cons_iff :
    splitParts separator text = part :: next :: parts ↔
      ∃ rest, text = part ++ separator :: rest ∧ separator ∉ part ∧
        splitParts separator rest = next :: parts := by
  constructor
  · intro h
    by_cases hseparator : separator ∈ text
    · obtain ⟨front, rest, rfl, hfront⟩ := List.eq_append_cons_of_mem hseparator
      rw [splitParts_append_cons hfront] at h
      obtain ⟨rfl, hrest⟩ := List.cons.inj h
      exact ⟨rest, rfl, hfront, hrest⟩
    · rw [splitParts_of_not_mem hseparator] at h
      cases h
  · rintro ⟨rest, rfl, hpart, hrest⟩
    rw [splitParts_append_cons hpart, hrest]

end

theorem SpellsNumber.splitParts {digits : List Char} {value : Nat}
    (spells : SpellsNumber digits value) : splitParts '.' digits = [digits] :=
  splitParts_of_not_mem spells.point_not_mem

theorem SpellsNumber.splitParts_append {digits : List Char} {value : Nat}
    (spells : SpellsNumber digits value) (rest : List Char) :
    Version.splitParts '.' (digits ++ '.' :: rest) =
      digits :: Version.splitParts '.' rest :=
  splitParts_append_cons spells.point_not_mem

/-! ## Numbers -/

section

variable {numbers : List Char} {version : Version}

theorem SpellsNumber.character_append {digits rest : List Char} {value : Nat}
    (spells : SpellsNumber digits value)
    (hrest : ∀ character ∈ rest, character.isDigit = true ∨ character = '.')
    {character : Char} (h : character ∈ digits ++ '.' :: rest) :
    character.isDigit = true ∨ character = '.' := by
  rcases List.mem_append.1 h with hdigit | htail
  · exact .inl (spells.decimal _ hdigit)
  · rcases List.mem_cons.1 htail with rfl | hlater
    · exact .inr rfl
    · exact hrest _ hlater

theorem SpellsNumbers.character (spells : SpellsNumbers numbers version)
    {character : Char} (h : character ∈ numbers) :
    character.isDigit = true ∨ character = '.' := by
  cases spells with
  | one hmajor => exact .inl (hmajor.decimal _ h)
  | two hmajor hminor =>
      refine hmajor.character_append ?_ h
      exact fun character h => .inl (hminor.decimal _ h)
  | three hmajor hminor hpatch =>
      refine hmajor.character_append (fun character h => ?_) h
      refine hminor.character_append ?_ h
      exact fun character h => .inl (hpatch.decimal _ h)

theorem SpellsNumbers.exists_cons (spells : SpellsNumbers numbers version) :
    ∃ digit rest, numbers = digit :: rest ∧ digit.isDigit = true := by
  cases spells with
  | one hmajor => exact hmajor.exists_cons
  | two hmajor =>
      obtain ⟨digit, rest, rfl, hdigit⟩ := hmajor.exists_cons
      exact ⟨digit, _, rfl, hdigit⟩
  | three hmajor =>
      obtain ⟨digit, rest, rfl, hdigit⟩ := hmajor.exists_cons
      exact ⟨digit, _, rfl, hdigit⟩

/-! ## Reading -/

theorem ofText?_eq_some_iff_core {text : String} :
    ofText? text = some version ↔ SpellsNumbers (core text) version := by
  unfold ofText?
  generalize core text = numbers
  constructor
  · intro h
    split at h
    · rename_i major hparts
      obtain ⟨rfl, -⟩ := splitParts_eq_singleton_iff.1 hparts
      simp only [Option.bind_eq_bind, Option.bind_eq_some_iff,
        numeral?_eq_some_iff] at h
      obtain ⟨first, hmajor, ⟨⟩⟩ := h
      exact .one hmajor
    · rename_i major minor hparts
      obtain ⟨rest, rfl, -, hrest⟩ := splitParts_eq_cons_cons_iff.1 hparts
      obtain ⟨rfl, -⟩ := splitParts_eq_singleton_iff.1 hrest
      simp only [Option.bind_eq_bind, Option.bind_eq_some_iff,
        numeral?_eq_some_iff] at h
      obtain ⟨first, hmajor, second, hminor, ⟨⟩⟩ := h
      exact .two hmajor hminor
    · rename_i major minor patch hparts
      obtain ⟨rest, rfl, -, hrest⟩ := splitParts_eq_cons_cons_iff.1 hparts
      obtain ⟨rest, rfl, -, hrest⟩ := splitParts_eq_cons_cons_iff.1 hrest
      obtain ⟨rfl, -⟩ := splitParts_eq_singleton_iff.1 hrest
      simp only [Option.bind_eq_bind, Option.bind_eq_some_iff,
        numeral?_eq_some_iff] at h
      obtain ⟨first, hmajor, second, hminor, third, hpatch, ⟨⟩⟩ := h
      exact .three hmajor hminor hpatch
    · cases h
  · intro spells
    cases spells with
    | one hmajor =>
        rw [hmajor.splitParts]
        simp [numeral?_eq_some_iff.2 hmajor]
    | two hmajor hminor =>
        rw [hmajor.splitParts_append, hminor.splitParts]
        simp [numeral?_eq_some_iff.2 hmajor, numeral?_eq_some_iff.2 hminor]
    | three hmajor hminor hpatch =>
        rw [hmajor.splitParts_append, hminor.splitParts_append, hpatch.splitParts]
        simp [numeral?_eq_some_iff.2 hmajor, numeral?_eq_some_iff.2 hminor,
          numeral?_eq_some_iff.2 hpatch]

theorem denotes_iff_core {text : String} :
    Denotes text version ↔ SpellsNumbers (core text) version := by
  unfold Denotes core
  generalize trim text.toList = text
  constructor
  · rintro ⟨marks, numbers, suffix, rfl, hmarks, hnumbers, hsuffix⟩
    have hmark : ∀ mark ∈ marks, (mark == 'v') = true := by simpa using hmarks
    have hhead : ∀ character ∈ (numbers ++ suffix).head?,
        (character == 'v') = false := by
      obtain ⟨digit, rest, rfl, hdigit⟩ := hnumbers.exists_cons
      rintro _ ⟨⟩
      rw [beq_eq_false_iff_ne]
      rintro rfl
      cases hdigit
    have hinside : ∀ character ∈ numbers,
        (character != '-' && character != '+') = true := by
      intro character h
      rcases hnumbers.character h with hdigit | rfl
      · simpa using ne_sign_of_isDigit hdigit
      · rfl
    have hstop : ∀ character ∈ suffix.head?,
        (character != '-' && character != '+') = false := by
      intro character h
      rcases hsuffix character h with rfl | rfl <;> rfl
    rw [List.dropWhile_append_of_pos hmark, dropWhile_eq_self_of_stop hhead,
      List.takeWhile_append_of_pos hinside, takeWhile_eq_nil_of_stop hstop,
      List.append_nil]
    exact hnumbers
  · intro hnumbers
    refine ⟨text.takeWhile (· == 'v'), _, (text.dropWhile (· == 'v')).dropWhile
      fun character => character != '-' && character != '+', ?_, ?_, hnumbers, ?_⟩
    · simp only [List.takeWhile_append_dropWhile]
    · intro mark h
      simpa using List.all_eq_true.1 List.all_takeWhile mark h
    · intro character h
      have hstop := List.head?_dropWhile_not
        (fun character => character != '-' && character != '+')
        (text.dropWhile (· == 'v'))
      rw [h] at hstop
      simpa [imp_iff_not_or] using hstop

theorem ofText?_eq_some_iff {text : String} :
    ofText? text = some version ↔ Denotes text version := by
  rw [ofText?_eq_some_iff_core, denotes_iff_core]

end

end AdmissionGate.Version
