import AdmissionGate.Proofs.Version.Constraint
import AdmissionGate.Proofs.Version.Spelling

/-!
# Bare versions

A constraint that is a version stands for this version alone, however it is
spelled, and never for the range that its text would be.  Every other constraint is
a range.
-/

namespace AdmissionGate.Version

open Text

/-! ## Characters -/

/-- What may stand in a bare version: nothing that is a sign of a range, except
for the letters of wildcards. -/
def IsBareCharacter (character : Char) : Prop :=
  character.isAlphanum = true ∨ character = '.' ∨ character = '-' ∨
    character = '+'

structure Bare (constraint : String) (exact : Version) : Prop where
  characters : ∀ character ∈ trim constraint.toList, IsBareCharacter character
  head : ∃ character ∈ (trim constraint.toList).head?,
    character.isDigit = true ∨ character = 'v'
  denotes : Denotes constraint exact

/-- The ways to write a version without blanks inside. -/
inductive BareSpelling : List Char → Version → Prop
  | mk {lead marks numbers suffix trail : List Char} {exact : Version}
      (hlead : Blank lead) (hmarks : ∀ mark ∈ marks, mark = 'v')
      (hnumbers : SpellsNumbers numbers exact) (hsuffix : IsSuffix suffix)
      (hcharacters : ∀ character ∈ suffix, IsBareCharacter character)
      (htrail : Blank trail) :
      BareSpelling (lead ++ (marks ++ (numbers ++ suffix) ++ trail)) exact

theorem looksBare_iff {text : List Char} : looksBare text = true ↔
    (∀ character ∈ text, IsBareCharacter character) ∧
      ∃ character ∈ text.head?, character.isDigit = true ∨ character = 'v' := by
  simp [looksBare, IsBareCharacter, Option.any_eq_true, or_assoc]

theorem bareVersion?_eq_some_iff {constraint : String} {exact : Version} :
    bareVersion? constraint = some exact ↔ Bare constraint exact := by
  rw [bareVersion?, Option.ite_none_right_eq_some, looksBare_iff,
    ofText?_eq_some_iff]
  constructor
  · rintro ⟨⟨hcharacters, hhead⟩, hdenotes⟩
    exact ⟨hcharacters, hhead, hdenotes⟩
  · intro bare
    exact ⟨⟨bare.characters, bare.head⟩, bare.denotes⟩

theorem bareVersion?_eq_none_iff {constraint : String} :
    bareVersion? constraint = none ↔ ∀ exact, ¬ Bare constraint exact := by
  simp only [Option.eq_none_iff_forall_ne_some, ne_eq, bareVersion?_eq_some_iff]

/-! ## Spellings -/

theorem isBlank_of_isAlpha {letter : Char} (h : letter.isAlpha = true) :
    isBlank letter = false := by
  have hcode : (65 ≤ letter.toNat ∧ letter.toNat ≤ 90) ∨
      (97 ≤ letter.toNat ∧ letter.toNat ≤ 122) := by
    have hletter : (decide ('A'.val ≤ letter.val ∧ letter.val ≤ 'Z'.val) ||
        (decide ('a'.val ≤ letter.val) && decide (letter.val ≤ 'z'.val))) = true := h
    simpa [UInt32.le_iff_toNat_le] using hletter
  simp only [isBlank, Bool.or_eq_false_iff, Bool.and_eq_false_iff,
    decide_eq_false_iff_not, beq_eq_false_iff_ne]
  omega

theorem IsBareCharacter.not_isBlank {character : Char}
    (h : IsBareCharacter character) : isBlank character = false := by
  rcases h with hletter | rfl | rfl | rfl
  · rcases Bool.or_eq_true_iff.1 hletter with halpha | hdigit
    · exact isBlank_of_isAlpha halpha
    · exact isBlank_of_isDigit hdigit
  · rfl
  · rfl
  · rfl

theorem BareSpelling.bare {constraint : String} {exact : Version}
    (spelling : BareSpelling constraint.toList exact) : Bare constraint exact := by
  generalize htext : constraint.toList = text at spelling
  obtain ⟨hlead, hmarks, hnumbers, hsuffix, hsuffixed, htrail⟩ := spelling
  rename_i lead marks numbers suffix trail
  have hcharacters : ∀ character ∈ marks ++ (numbers ++ suffix),
      IsBareCharacter character := by
    intro character h
    simp only [List.mem_append] at h
    rcases h with hmark | hnumber | hlast
    · rw [hmarks character hmark]
      exact .inl rfl
    · rcases hnumbers.character hnumber with hdigit | hpoint
      · exact .inl (by simp [Char.isAlphanum, hdigit])
      · exact .inr (.inl hpoint)
    · exact hsuffixed character hlast
  have htrim : trim constraint.toList = marks ++ (numbers ++ suffix) := by
    rw [htext]
    refine trim_append_of_stop hlead htrail ?_ ?_
    · exact fun character h =>
        (hcharacters character (List.mem_of_mem_head? h)).not_isBlank
    · exact fun character h =>
        (hcharacters character (List.mem_of_mem_getLast? h)).not_isBlank
  refine ⟨by rwa [htrim], ?_, ?_⟩
  · rw [htrim]
    cases marks with
    | cons mark marks => exact ⟨mark, rfl, .inr (hmarks mark List.mem_cons_self)⟩
    | nil =>
        obtain ⟨digit, rest, rfl, hdigit⟩ := hnumbers.exists_cons
        exact ⟨digit, rfl, .inl hdigit⟩
  · rw [Denotes, htrim]
    exact ⟨marks, numbers, suffix, rfl, hmarks, hnumbers, hsuffix⟩

theorem Bare.spelling {constraint : String} {exact : Version}
    (bare : Bare constraint exact) : BareSpelling constraint.toList exact := by
  obtain ⟨lead, trail, hlead, htrail, htext⟩ := exists_eq_trim constraint.toList
  obtain ⟨marks, numbers, suffix, htrim, hmarks, hnumbers, hsuffix⟩ := bare.denotes
  rw [htext, htrim]
  refine .mk hlead hmarks hnumbers hsuffix (fun character h => ?_) htrail
  apply bare.characters character
  simp [htrim, h]

/-! ## Answers -/

section

variable [RangeReader] {text constraint : String} {version : Version}

theorem satisfies?_of_bare {exact : Version} (denotes : Denotes text version)
    (bare : Bare constraint exact) :
    satisfies? text constraint = some (decide (version = exact)) := by
  have hversion := ofText?_eq_some_iff.2 denotes
  have hexact := bareVersion?_eq_some_iff.2 bare
  simp [satisfies?, hversion, hexact, beq_eq_decide]

theorem satisfies?_of_range (denotes : Denotes text version)
    (ranged : ∀ exact, ¬ Bare constraint exact) :
    satisfies? text constraint =
      (RangeReader.read? (trim constraint.toList)).map (· version) := by
  have hversion := ofText?_eq_some_iff.2 denotes
  have hranged := bareVersion?_eq_none_iff.2 ranged
  simp only [satisfies?, hversion, hranged, Option.bind_eq_bind, Option.bind_some,
    Option.pure_def, Option.map_eq_bind]
  rfl

theorem satisfies?_of_unread (unread : ∀ version, ¬ Denotes text version) :
    satisfies? text constraint = none := by
  have hnone : ofText? text = none := by
    simpa only [Option.eq_none_iff_forall_ne_some, ne_eq, ofText?_eq_some_iff]
  simp [satisfies?, hnone]

theorem satisfies?_congr_of_bare {other : String} {exact : Version}
    (bare : Bare constraint exact) (bare' : Bare other exact) :
    satisfies? text constraint = satisfies? text other := by
  have hexact := bareVersion?_eq_some_iff.2 bare
  have hexact' := bareVersion?_eq_some_iff.2 bare'
  simp only [satisfies?, hexact, hexact']

end

/-- However ranges are read, a bare version is satisfied by itself alone, any other
constraint by the range that it is, and nothing by a text that is no version.  The
answer does not depend on how a bare version is spelled. -/
theorem bare_means_itself [RangeReader] (text constraint : String) :
    (∀ version, Denotes text version →
      (∀ exact, Bare constraint exact →
        satisfies? text constraint = some (decide (version = exact))) ∧
      ((∀ exact, ¬ Bare constraint exact) →
        satisfies? text constraint =
          (RangeReader.read? (trim constraint.toList)).map (· version))) ∧
    ((∀ version, ¬ Denotes text version) → satisfies? text constraint = none) ∧
    ∀ exact, (Bare constraint exact ↔ BareSpelling constraint.toList exact) ∧
      ∀ other, Bare constraint exact → Bare other exact →
        satisfies? text constraint = satisfies? text other := by
  refine ⟨fun version denotes => ⟨?_, ?_⟩, satisfies?_of_unread,
    fun exact => ⟨⟨Bare.spelling, BareSpelling.bare⟩, ?_⟩⟩
  · exact fun exact bare => satisfies?_of_bare denotes bare
  · exact satisfies?_of_range denotes
  · exact fun other bare bare' => satisfies?_congr_of_bare bare bare'

/-! ### A version and its patches -/

/-- As a range the text would allow the patch.  With a wildcard it is a range, which
ends before the next version.  A name is neither. -/
theorem bare_excludes_patches :
    satisfies? "8.0.35" "8.0" = some false ∧
      satisfies? "8.0.35" " v8-debian.12 " = satisfies? "8.0.35" "8.0" ∧
      (∃ range, Range.ofText? "8.0".toList = some range ∧
        range.admits ⟨8, 0, 35⟩ = true) ∧
      satisfies? "8.0.35" "8.x" = some true ∧
      satisfies? "9.0.0" "8.x" = some false ∧
      satisfies? "8.0.35" "newest" = none ∧
      satisfies? "latest" "8.0" = none := by
  have hpatch : Denotes "8.0.35" ⟨8, 0, 35⟩ :=
    ofText?_eq_some_iff.1 (by decide +kernel)
  have hnext : Denotes "9.0.0" ⟨9, 0, 0⟩ :=
    ofText?_eq_some_iff.1 (by decide +kernel)
  have height : SpellsNumber ['8'] 8 :=
    numeral?_eq_some_iff.1 (by decide +kernel)
  have hzero : SpellsNumber ['0'] 0 :=
    numeral?_eq_some_iff.1 (by decide +kernel)
  have hminor : BareSpelling "8.0".toList ⟨8, 0, 0⟩ :=
    @BareSpelling.mk [] [] _ [] [] _ (by simp [Blank]) (by simp)
      (.two height hzero) (by simp [IsSuffix]) (by simp) (by simp [Blank])
  have hmajor : BareSpelling " v8-debian.12 ".toList ⟨8, 0, 0⟩ :=
    @BareSpelling.mk [' '] ['v'] _ "-debian.12".toList [' '] _ (by simp [Blank, isBlank])
      (by simp) (.one height) (by simp [IsSuffix]) (by simp [IsBareCharacter])
      (by simp [Blank, isBlank])
  have hranged : ∀ exact, ¬ Bare "8.x" exact :=
    bareVersion?_eq_none_iff.1 (by decide +kernel)
  have hnamed : ∀ exact, ¬ Bare "newest" exact :=
    bareVersion?_eq_none_iff.1 (by decide +kernel)
  have hunread : ∀ version, ¬ Denotes "latest" version := by
    intro version hversion
    cases (ofText?_eq_some_iff.2 hversion).symm.trans
      (show ofText? "latest" = none by decide +kernel)
  obtain ⟨hread, -, hspelled⟩ := bare_means_itself "8.0.35" "8.0"
  obtain ⟨-, -, hspelled'⟩ := bare_means_itself "8.0.35" " v8-debian.12 "
  obtain ⟨hwithin, -, -⟩ := bare_means_itself "8.0.35" "8.x"
  obtain ⟨hbeyond, -, -⟩ := bare_means_itself "9.0.0" "8.x"
  obtain ⟨hname, -, -⟩ := bare_means_itself "8.0.35" "newest"
  have hbare : Bare "8.0" ⟨8, 0, 0⟩ := (hspelled _).1.2 hminor
  have hbare' : Bare " v8-debian.12 " ⟨8, 0, 0⟩ := (hspelled' _).1.2 hmajor
  refine ⟨(hread _ hpatch).1 _ hbare, (hspelled' _).2 _ hbare' hbare, ?_, ?_, ?_,
    ?_, (bare_means_itself "latest" "8.0").2.1 hunread⟩
  · exact ⟨_, rfl, by decide +kernel⟩
  · rw [(hwithin _ hpatch).2 hranged]
    decide +kernel
  · rw [(hbeyond _ hnext).2 hranged]
    decide +kernel
  · rw [(hname _ hpatch).2 hnamed]
    decide +kernel

end AdmissionGate.Version
