import AdmissionGate.Proofs.Version.Order
import AdmissionGate.Proofs.Version.Spelling

/-!
# Leniency of versions

What a version may leave out and what may be added to it.  Numbers that are left out
count as zeros, as if they had been written.  A suffix counts for nothing, whatever
is in it.  By what they denote, the texts that are versions are in order.
-/

namespace AdmissionGate.Version

open Text

/-! ## Filling up -/

inductive SpellsRelease : List Char → Version → Prop
  | mk {major minor patch : List Char} {first second third : Nat}
      (hmajor : SpellsNumber major first) (hminor : SpellsNumber minor second)
      (hpatch : SpellsNumber patch third) :
      SpellsRelease (major ++ '.' :: (minor ++ '.' :: patch))
        ⟨first, second, third⟩

/-- Numbers that are left out are written as zeros. -/
def padded (numbers : List Char) : List Char :=
  match numbers.count '.' with
  | 0 => numbers ++ ".0.0".toList
  | 1 => numbers ++ ".0".toList
  | _ => numbers

section

variable {numbers : List Char} {version : Version}

theorem SpellsRelease.spellsNumbers (spells : SpellsRelease numbers version) :
    SpellsNumbers numbers version := by
  cases spells with
  | mk hmajor hminor hpatch => exact .three hmajor hminor hpatch

theorem spellsNumber_zero_iff {value : Nat} :
    SpellsNumber ['0'] value ↔ value = 0 := by
  constructor
  · intro spells
    exact spells.value_eq.symm
  · rintro rfl
    refine ⟨List.cons_ne_nil _ _, fun digit h => ?_, fun _ => rfl, rfl, Nat.zero_le _⟩
    rw [List.mem_singleton.1 h]
    rfl

theorem spellsRelease_iff : SpellsRelease numbers version ↔
    ∃ major minor patch, splitParts '.' numbers = [major, minor, patch] ∧
      SpellsNumber major version.major ∧ SpellsNumber minor version.minor ∧
      SpellsNumber patch version.patch := by
  constructor
  · rintro ⟨hmajor, hminor, hpatch⟩
    refine ⟨_, _, _, ?_, hmajor, hminor, hpatch⟩
    rw [hmajor.splitParts_append, hminor.splitParts_append, hpatch.splitParts]
  · rintro ⟨major, minor, patch, hparts, hmajor, hminor, hpatch⟩
    obtain ⟨rest, rfl, -, hrest⟩ := splitParts_eq_cons_cons_iff.1 hparts
    obtain ⟨rest, rfl, -, hrest⟩ := splitParts_eq_cons_cons_iff.1 hrest
    obtain ⟨rfl, -⟩ := splitParts_eq_singleton_iff.1 hrest
    exact .mk hmajor hminor hpatch

theorem SpellsNumbers.padded (spells : SpellsNumbers numbers version) :
    SpellsRelease (padded numbers) version := by
  have hzero : SpellsNumber ['0'] 0 := spellsNumber_zero_iff.2 rfl
  cases spells with
  | one hmajor =>
      have hmajor' := List.count_eq_zero.2 hmajor.point_not_mem
      simp only [Version.padded, hmajor']
      exact .mk hmajor hzero hzero
  | two hmajor hminor =>
      have hmajor' := List.count_eq_zero.2 hmajor.point_not_mem
      have hminor' := List.count_eq_zero.2 hminor.point_not_mem
      simp only [Version.padded, List.count_append, List.count_cons_self, hmajor',
        hminor', List.append_assoc, List.cons_append]
      exact .mk hmajor hminor hzero
  | three hmajor hminor hpatch =>
      have hmajor' := List.count_eq_zero.2 hmajor.point_not_mem
      have hminor' := List.count_eq_zero.2 hminor.point_not_mem
      have hpatch' := List.count_eq_zero.2 hpatch.point_not_mem
      simp only [Version.padded, List.count_append, List.count_cons_self, hmajor',
        hminor', hpatch']
      exact .mk hmajor hminor hpatch

/-- The parts of what is filled up tell which of them were added. -/
theorem spellsNumbers_of_padded
    (spells : SpellsRelease (Version.padded numbers) version) :
    SpellsNumbers numbers version := by
  obtain ⟨first, second, third⟩ := version
  obtain ⟨major, minor, patch, hparts, hmajor, hminor, hpatch⟩ :=
    spellsRelease_iff.1 spells
  unfold Version.padded at hparts
  split at hparts
  · rename_i hcount
    have hfilled : splitParts '.' (numbers ++ ".0.0".toList) =
        [numbers, ['0'], ['0']] :=
      splitParts_append_cons (List.count_eq_zero.1 hcount)
    cases hfilled.symm.trans hparts
    cases spellsNumber_zero_iff.1 hminor
    cases spellsNumber_zero_iff.1 hpatch
    exact .one hmajor
  · rename_i hcount
    have hpoint : '.' ∈ numbers := List.count_pos_iff.1 (by omega)
    obtain ⟨front, back, rfl, hfront⟩ := List.eq_append_cons_of_mem hpoint
    have hback : '.' ∉ back := by
      rw [List.count_append, List.count_cons_self] at hcount
      exact List.count_eq_zero.1 (by omega)
    have hfilled : splitParts '.' (front ++ '.' :: back ++ ".0".toList) =
        [front, back, ['0']] := by
      rw [List.append_assoc, List.cons_append, splitParts_append_cons hfront]
      exact congrArg _ (splitParts_append_cons hback)
    cases hfilled.symm.trans hparts
    cases spellsNumber_zero_iff.1 hpatch
    exact .two hmajor hminor
  · exact (spellsRelease_iff.2
      ⟨major, minor, patch, hparts, hmajor, hminor, hpatch⟩).spellsNumbers

theorem spellsRelease_padded_iff :
    SpellsRelease (Version.padded numbers) version ↔
      SpellsNumbers numbers version :=
  ⟨spellsNumbers_of_padded, SpellsNumbers.padded⟩

end

/-! ## Suffixes -/

section

variable {text : List Char} (hsuffix : IsSuffix text)

include hsuffix

theorem IsSuffix.not_isBlank :
    ∀ character ∈ text.head?, isBlank character = false := by
  intro character h
  rcases hsuffix character h with rfl | rfl <;> rfl

theorem IsSuffix.trimEnd : IsSuffix (trimEnd text) := by
  have hblank := hsuffix.not_isBlank
  cases text with
  | nil => exact hsuffix
  | cons head rest =>
      have hkept : Text.trimEnd ([head] ++ rest) = [head] ++ Text.trimEnd rest :=
        trimEnd_append_of_stop hblank
      rw [← List.singleton_append, hkept]
      exact hsuffix

end

theorem core_append {stem suffix : String}
    (stop : ∀ character ∈ stem.toList.getLast?, isBlank character = false)
    (hsuffix : IsSuffix suffix.toList) : core (stem ++ suffix) = core stem := by
  have hlast : ∀ character ∈ (trimStart stem.toList).getLast?,
      isBlank character = false :=
    fun character h => stop character (mem_getLast?_of_trimStart h)
  have hstem : trim stem.toList = trimStart stem.toList :=
    trimEnd_eq_self_of_stop hlast
  have hjoined : trim (stem ++ suffix).toList =
      trim stem.toList ++ trimEnd suffix.toList := by
    rw [hstem, ← trimEnd_append_of_stop hlast, String.toList_append]
    exact congrArg trimEnd (dropWhile_append_of_stop hsuffix.not_isBlank)
  have hmark : ∀ character ∈ (trimEnd suffix.toList).head?,
      (character == 'v') = false := by
    intro character h
    rcases hsuffix.trimEnd character h with rfl | rfl <;> rfl
  have hsign : ∀ character ∈ (trimEnd suffix.toList).head?,
      (character != '-' && character != '+') = false := by
    intro character h
    rcases hsuffix.trimEnd character h with rfl | rfl <;> rfl
  rw [core, hjoined, dropWhile_append_of_stop hmark, takeWhile_append_of_stop hsign,
    core]

theorem ofText?_append {stem suffix : String}
    (stop : ∀ character ∈ stem.toList.getLast?, isBlank character = false)
    (hsuffix : IsSuffix suffix.toList) :
    ofText? (stem ++ suffix) = ofText? stem := by
  rw [ofText?, core_append stop hsuffix, ofText?]

/-! ## Order -/

def Readable (text : String) : Prop :=
  ∃ version, Denotes text version

theorem Denotes.unique {text : String} {version other : Version}
    (h : Denotes text version) (h' : Denotes text other) : version = other := by
  rw [← ofText?_eq_some_iff] at h h'
  exact Option.some_inj.1 (h.symm.trans h')

theorem atLeast_iff_denotes {text minimum : String} :
    atLeast text minimum = true ↔ ∃ version least, Denotes text version ∧
      Denotes minimum least ∧ least.numbers ≤ version.numbers := by
  simp only [atLeast_iff, Reaches, ofText?_eq_some_iff, exists_and_left]

structure OrdersReadable (reaches : String → String → Bool) : Prop where
  refl (text : String) : Readable text → reaches text text = true
  trans (first second third : String) : reaches first second = true →
    reaches second third = true → reaches first third = true
  total (first second : String) : Readable first → Readable second →
    reaches first second = true ∨ reaches second first = true

theorem ordersReadable_atLeast : OrdersReadable atLeast where
  refl text := by
    rintro ⟨version, hversion⟩
    exact atLeast_iff_denotes.2 ⟨version, version, hversion, hversion, le_rfl⟩
  trans first second third hfirst hsecond := by
    obtain ⟨high, middle, hhigh, hmiddle, hle⟩ := atLeast_iff_denotes.1 hfirst
    obtain ⟨middle', low, hmiddle', hlow, hle'⟩ := atLeast_iff_denotes.1 hsecond
    cases hmiddle.unique hmiddle'
    exact atLeast_iff_denotes.2 ⟨high, low, hhigh, hlow, hle'.trans hle⟩
  total first second := by
    rintro ⟨version, hversion⟩ ⟨other, hother⟩
    rcases le_total other.numbers version.numbers with hle | hle
    · exact .inl (atLeast_iff_denotes.2 ⟨_, _, hversion, hother, hle⟩)
    · exact .inr (atLeast_iff_denotes.2 ⟨_, _, hother, hversion, hle⟩)

/-! ## Strict readers -/

def Unsigned (text : List Char) : Prop :=
  ∀ character ∈ text, character ≠ '-' ∧ character ≠ '+'

/-- A reader of three numbers.  What it makes of a pre-release or of a build is its
own affair. -/
def IsStrict (strict : List Char → Option Version) : Prop :=
  ∀ text, Unsigned text →
    ∀ version, strict text = some version ↔ SpellsRelease text version

theorem unsigned_core (text : String) : Unsigned (core text) := by
  intro character h
  simpa using List.all_eq_true.1 List.all_takeWhile character h

theorem Unsigned.padded {numbers : List Char} (h : Unsigned numbers) :
    Unsigned (padded numbers) := by
  have happend {zeros : List Char} (hzeros : Unsigned zeros) :
      Unsigned (numbers ++ zeros) := by
    intro character hmember
    rcases List.mem_append.1 hmember with hmember | hmember
    · exact h character hmember
    · exact hzeros character hmember
  unfold Version.padded
  split
  · exact happend (by simp [Unsigned])
  · exact happend (by simp [Unsigned])
  · exact h

theorem IsStrict.padded_core {strict : List Char → Option Version}
    (h : IsStrict strict) (text : String) :
    strict (padded (core text)) = ofText? text := by
  refine Option.ext fun version => ?_
  rw [h _ (unsigned_core text).padded, spellsRelease_padded_iff,
    ofText?_eq_some_iff_core]

/-! ## The language of versions -/

/-- The versions that are read are those that are spelled.  Filling up the numbers
and reading them strictly comes to the same, and no suffix has a say in it.  By what
they denote, the readable texts are in order. -/
theorem read_as_spelled :
    (∀ text version, ofText? text = some version ↔ Denotes text version) ∧
    (∀ strict, IsStrict strict →
      ∀ text, strict (padded (core text)) = ofText? text) ∧
    (∀ stem suffix : String,
      (∀ character ∈ stem.toList.getLast?, isBlank character = false) →
      IsSuffix suffix.toList → ofText? (stem ++ suffix) = ofText? stem) ∧
    (∀ text minimum, atLeast text minimum = true ↔
      ∃ version least, Denotes text version ∧ Denotes minimum least ∧
        least.numbers ≤ version.numbers) ∧
    OrdersReadable atLeast := by
  refine ⟨fun text version => ofText?_eq_some_iff, ?_, ?_, ?_, ?_⟩
  · exact fun strict hstrict text => hstrict.padded_core text
  · exact fun stem suffix stop hsuffix => ofText?_append stop hsuffix
  · exact fun text minimum => atLeast_iff_denotes
  · exact ordersReadable_atLeast

/-! ### A version with its distribution -/

def release? (text : List Char) : Option Version :=
  match splitParts '.' text with
  | [major, minor, patch] => do
      return ⟨← numeral? major, ← numeral? minor, ← numeral? patch⟩
  | _ => none

theorem isStrict_release? : IsStrict release? := by
  intro text _ version
  rw [spellsRelease_iff]
  unfold release?
  split
  · rename_i major minor patch hparts
    simp only [hparts, Option.bind_eq_bind, Option.bind_eq_some_iff,
      numeral?_eq_some_iff, List.cons.injEq, and_true]
    constructor
    · rintro ⟨first, hmajor, second, hminor, third, hpatch, ⟨⟩⟩
      exact ⟨_, _, _, ⟨rfl, rfl, rfl⟩, hmajor, hminor, hpatch⟩
    · rintro ⟨_, _, _, ⟨rfl, rfl, rfl⟩, hmajor, hminor, hpatch⟩
      exact ⟨_, hmajor, _, hminor, _, hpatch, rfl⟩
  · rename_i hparts
    refine iff_of_false nofun ?_
    rintro ⟨major, minor, patch, hthree, -⟩
    exact hparts major minor patch hthree

/-- The points of the suffix are not counted among those of the numbers. -/
theorem distribution_passed_over :
    Denotes " vv8.0-debian.12 " ⟨8, 0, 0⟩ ∧
      release? (padded (core "vv8.0-debian.12")) = some ⟨8, 0, 0⟩ ∧
      ofText? ("8.0" ++ "-debian.12") = some ⟨8, 0, 0⟩ ∧
      atLeast "8.0-debian.12" "v8" = true ∧ ¬ Readable "8.0.12.1" := by
  obtain ⟨hread, hstrict, hsuffix, hatLeast, -⟩ := read_as_spelled
  have hdenotes : Denotes "8.0-debian.12" ⟨8, 0, 0⟩ :=
    (hread _ _).1 (by decide +kernel)
  have hdenotes' : Denotes "v8" ⟨8, 0, 0⟩ := (hread _ _).1 (by decide +kernel)
  refine ⟨(hread _ _).1 (by decide +kernel), ?_, ?_, ?_, ?_⟩
  · rw [hstrict release? isStrict_release?]
    decide +kernel
  · have hstem : ∀ character ∈ "8.0".toList.getLast?, isBlank character = false := by
      rintro _ ⟨⟩
      rfl
    rw [hsuffix "8.0" "-debian.12" hstem (by simp [IsSuffix])]
    decide +kernel
  · exact (hatLeast _ _).2 ⟨_, _, hdenotes, hdenotes', le_rfl⟩
  · rintro ⟨version, hversion⟩
    have hunread : ofText? "8.0.12.1" = none := by decide +kernel
    cases hunread.symm.trans ((hread _ _).2 hversion)

end AdmissionGate.Version
