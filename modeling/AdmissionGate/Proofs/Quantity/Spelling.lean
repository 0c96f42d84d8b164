import AdmissionGate.Proofs.Text.Numeral
import AdmissionGate.Quantity

/-!
# Spelled quantities

The texts that are quantities: a sign, digits with a point before, among or after
them, and a suffix.  Each part but the digits may be left out.  A text is read
exactly as it is spelled.
-/

namespace AdmissionGate.Quantity

open Text

/-! ## Grammar -/

def Digits (text : List Char) : Prop :=
  ∀ digit ∈ text, digit.isDigit = true

inductive SpellsSign : List Char → Bool → Prop
  | absent : SpellsSign [] false
  | plus : SpellsSign ['+'] false
  | minus : SpellsSign ['-'] true

inductive SpellsNumber : List Char → List Char → List Char → Prop
  | whole {digits : List Char} (hdigits : Digits digits)
      (nonempty : digits ≠ []) : SpellsNumber digits digits []
  | point {whole fraction : List Char} (hwhole : Digits whole)
      (hfraction : Digits fraction) (nonempty : whole ≠ [] ∨ fraction ≠ []) :
      SpellsNumber (whole ++ '.' :: fraction) whole fraction

def suffixes : List (String × Suffix) :=
  [("", .decimal 0), ("n", .decimal (-9)), ("u", .decimal (-6)),
    ("m", .decimal (-3)), ("k", .decimal 3), ("M", .decimal 6),
    ("G", .decimal 9), ("T", .decimal 12), ("P", .decimal 15),
    ("E", .decimal 18), ("Ki", .binary 1), ("Mi", .binary 2),
    ("Gi", .binary 3), ("Ti", .binary 4), ("Pi", .binary 5), ("Ei", .binary 6)]

inductive SpellsSuffix : List Char → Suffix → Prop
  | listed {name : String} {suffix : Suffix} (h : (name, suffix) ∈ suffixes) :
      SpellsSuffix name.toList suffix
  | exponent {mark : Char} {sign digits : List Char} {negative : Bool}
      (hmark : mark = 'e' ∨ mark = 'E') (hsign : SpellsSign sign negative)
      (hdigits : Digits digits) (nonempty : digits ≠ []) :
      SpellsSuffix (mark :: (sign ++ digits))
        (.decimal (if negative then -(valueOfDigits digits : Int)
          else valueOfDigits digits))

def Written.SpelledBy (written : Written) (text : List Char) : Prop :=
  ∃ sign number suffix, text = sign ++ (number ++ suffix) ∧
    SpellsSign sign written.negative ∧
    SpellsNumber number written.whole written.fraction ∧
    SpellsSuffix suffix written.suffix

/-! ## Signs -/

theorem spellsSign_of_readSign {text rest : List Char} {negative : Bool}
    (read : readSign text = (negative, rest)) :
    ∃ sign, text = sign ++ rest ∧ SpellsSign sign negative := by
  unfold readSign at read
  split at read <;> cases read
  · exact ⟨_, rfl, .minus⟩
  · exact ⟨_, rfl, .plus⟩
  · exact ⟨_, rfl, .absent⟩

theorem readSign_of_spells {sign rest : List Char} {negative : Bool}
    (spells : SpellsSign sign negative)
    (stop : ∀ character ∈ rest.head?, character ≠ '-' ∧ character ≠ '+') :
    readSign (sign ++ rest) = (negative, rest) := by
  cases spells with
  | plus => rfl
  | minus => rfl
  | absent =>
      rw [List.nil_append]
      unfold readSign
      split
      · exact absurd rfl (stop '-' rfl).1
      · exact absurd rfl (stop '+' rfl).2
      · rfl

/-! ## Numbers -/

theorem spellsNumber_of_readNumber? {text whole fraction rest : List Char}
    (read : readNumber? text = some ((whole, fraction), rest)) :
    ∃ number, text = number ++ rest ∧ SpellsNumber number whole fraction := by
  have htext := leadingDigits_append_afterDigits text
  have hwhole : Digits (leadingDigits text) :=
    fun _ => isDigit_of_mem_leadingDigits
  unfold readNumber? at read
  dsimp only at read
  split at read
  · rename_i rest hpoint
    have hrest := leadingDigits_append_afterDigits rest
    have hfraction : Digits (leadingDigits rest) :=
      fun _ => isDigit_of_mem_leadingDigits
    split at read <;> cases read
    rename_i hdigits
    have nonempty : leadingDigits text ≠ [] ∨ leadingDigits rest ≠ [] := by
      simpa [Decidable.imp_iff_not_or] using hdigits
    refine ⟨_, ?_, .point hwhole hfraction nonempty⟩
    rw [List.append_assoc, List.cons_append, hrest, ← hpoint, htext]
  · split at read <;> cases read
    rename_i hdigits
    exact ⟨_, htext.symm, .whole hwhole (by simpa using hdigits)⟩

theorem readNumber?_of_spells {number whole fraction rest : List Char}
    (spells : SpellsNumber number whole fraction)
    (stop : ∀ character ∈ rest.head?,
      character.isDigit = false ∧ character ≠ '.') :
    readNumber? (number ++ rest) = some ((whole, fraction), rest) := by
  have hstop : ∀ character ∈ rest.head?, character.isDigit = false :=
    fun character h => (stop character h).1
  cases spells with
  | whole hdigits nonempty =>
      have hlead := leadingDigits_append_of_stop hdigits hstop
      have hafter := afterDigits_append_of_stop hdigits hstop
      unfold readNumber?
      rw [hafter, hlead]
      split
      · exact absurd rfl (stop '.' rfl).2
      · simp [nonempty]
  | point hwhole hfraction nonempty =>
      have hpoint : ∀ character ∈ ('.' :: (fraction ++ rest)).head?,
          character.isDigit = false := by
        simp
      have hlead := leadingDigits_append_of_stop hwhole hpoint
      have hafter := afterDigits_append_of_stop hwhole hpoint
      have hlead' := leadingDigits_append_of_stop hfraction hstop
      have hafter' := afterDigits_append_of_stop hfraction hstop
      rw [List.append_assoc, List.cons_append, readNumber?, hafter]
      simp only [hlead, hlead', hafter']
      rcases nonempty with hnonempty | hnonempty <;> simp [hnonempty]

/-! ## Suffixes -/

theorem namedSuffix?_eq_some_iff {text : List Char} {suffix : Suffix} :
    namedSuffix? text = some suffix ↔
      ∃ name, (name, suffix) ∈ suffixes ∧ name.toList = text := by
  constructor
  · intro h
    unfold namedSuffix? at h
    split at h <;> cases h <;>
      exact ⟨String.ofList _, by decide, String.toList_ofList⟩
  · rintro ⟨name, h, rfl⟩
    have hall : ∀ entry ∈ suffixes,
        namedSuffix? entry.1.toList = some entry.2 := by
      decide
    exact hall _ h

theorem letter_of_mem_suffixes {name : String} {suffix : Suffix}
    (h : (name, suffix) ∈ suffixes) :
    ∀ character ∈ name.toList,
      character.isDigit = false ∧ character ≠ '.' := by
  have hall : ∀ entry ∈ suffixes, entry.1.toList.all (fun character =>
      !character.isDigit && character != '.') = true := by
    decide
  intro character hcharacter
  simpa using List.all_eq_true.1 (hall _ h) character hcharacter

theorem exponentSuffix?_eq_some_iff {text : List Char} {suffix : Suffix} :
    exponentSuffix? text = some suffix ↔
      ∃ mark sign digits negative, text = mark :: (sign ++ digits) ∧
        (mark = 'e' ∨ mark = 'E') ∧ SpellsSign sign negative ∧ Digits digits ∧
        digits ≠ [] ∧
        suffix = .decimal (if negative then -(valueOfDigits digits : Int)
          else valueOfDigits digits) := by
  constructor
  · intro h
    cases text with
    | nil => cases h
    | cons mark rest =>
        cases hread : readSign rest with
        | mk negative digits =>
            obtain ⟨sign, hrest, hsign⟩ := spellsSign_of_readSign hread
            simp only [exponentSuffix?, hread] at h
            split at h <;> cases h
            rename_i hexponent
            obtain ⟨hmark, hnonempty, hdigits⟩ := hexponent
            exact ⟨mark, sign, digits, negative, by rw [hrest], hmark, hsign,
              List.all_eq_true.1 hdigits, by simpa using hnonempty, rfl⟩
  · rintro ⟨mark, sign, digits, negative, rfl, hmark, hsign, hdigits, hnonempty,
      rfl⟩
    have hread : readSign (sign ++ digits) = (negative, digits) := by
      refine readSign_of_spells hsign fun character h => ?_
      exact ne_sign_of_isDigit (hdigits character (List.mem_of_mem_head? h))
    have hall : digits.all Char.isDigit = true := List.all_eq_true.2 hdigits
    simp [exponentSuffix?, hread, hmark, hnonempty, hall]

/-- No exponent is in the list, so the order of the two does not matter. -/
theorem suffix?_eq_some_iff {text : List Char} {suffix : Suffix} :
    suffix? text = some suffix ↔ SpellsSuffix text suffix := by
  rw [suffix?, Option.or_eq_some_iff]
  constructor
  · rintro (hnamed | ⟨-, hexponent⟩)
    · obtain ⟨name, h, rfl⟩ := namedSuffix?_eq_some_iff.1 hnamed
      exact .listed h
    · obtain ⟨mark, sign, digits, negative, rfl, hmark, hsign, hdigits,
        hnonempty, rfl⟩ := exponentSuffix?_eq_some_iff.1 hexponent
      exact .exponent hmark hsign hdigits hnonempty
  · intro spells
    cases spells with
    | listed h => exact .inl (namedSuffix?_eq_some_iff.2 ⟨_, h, rfl⟩)
    | exponent hmark hsign hdigits hnonempty =>
        refine .inr ⟨?_, exponentSuffix?_eq_some_iff.2
          ⟨_, _, _, _, rfl, hmark, hsign, hdigits, hnonempty, rfl⟩⟩
        -- An exponent has a digit, and no listed suffix has one.
        refine Option.eq_none_iff_forall_ne_some.2 fun suffix hnamed => ?_
        obtain ⟨name, h, hname⟩ := namedSuffix?_eq_some_iff.1 hnamed
        obtain ⟨digit, hdigit⟩ := List.exists_mem_of_ne_nil _ hnonempty
        have hmember : digit ∈ name.toList := by simp [hname, hdigit]
        have hletter := (letter_of_mem_suffixes h digit hmember).1
        cases hletter.symm.trans (hdigits digit hdigit)

theorem SpellsSuffix.head {text : List Char} {suffix : Suffix}
    (spells : SpellsSuffix text suffix) :
    ∀ character ∈ text.head?, character.isDigit = false ∧ character ≠ '.' := by
  cases spells with
  | listed h =>
      exact fun character hhead =>
        letter_of_mem_suffixes h character (List.mem_of_mem_head? hhead)
  | exponent hmark =>
      rintro _ ⟨⟩
      rcases hmark with rfl | rfl <;> decide

/-! ## Quantities -/

theorem SpellsNumber.head {number whole fraction : List Char}
    (spells : SpellsNumber number whole fraction) (rest : List Char) :
    ∀ character ∈ (number ++ rest).head?,
      character ≠ '-' ∧ character ≠ '+' := by
  cases spells with
  | whole hdigits nonempty =>
      cases number with
      | nil => exact absurd rfl nonempty
      | cons digit digits =>
          rintro _ ⟨⟩
          exact ne_sign_of_isDigit (hdigits digit List.mem_cons_self)
  | point hwhole =>
      cases whole with
      | nil =>
          rintro _ ⟨⟩
          decide
      | cons digit digits =>
          rintro _ ⟨⟩
          exact ne_sign_of_isDigit (hwhole digit List.mem_cons_self)

theorem written?_eq_some_iff {quantity : Quantity} {written : Written} :
    quantity.written? = some written ↔
      written.SpelledBy (trim quantity.text.toList) := by
  unfold written?
  generalize trim quantity.text.toList = text
  constructor
  · intro h
    cases hsign : readSign text with
    | mk negative afterSign =>
        simp only [hsign, Option.bind_eq_bind, Option.bind_eq_some_iff] at h
        obtain ⟨⟨⟨whole, fraction⟩, afterNumber⟩, hnumber, suffix, hsuffix, h⟩ := h
        cases h
        obtain ⟨sign, rfl, hspells⟩ := spellsSign_of_readSign hsign
        obtain ⟨number, rfl, hspells'⟩ := spellsNumber_of_readNumber? hnumber
        exact ⟨sign, number, afterNumber, rfl, hspells, hspells',
          suffix?_eq_some_iff.1 hsuffix⟩
  · rintro ⟨sign, number, suffix, rfl, hsign, hnumber, hsuffix⟩
    have hread := readSign_of_spells hsign (hnumber.head suffix)
    have hread' := readNumber?_of_spells hnumber hsuffix.head
    have hread'' := suffix?_eq_some_iff.2 hsuffix
    simp only [hread, hread', hread'', Option.bind_eq_bind, Option.bind_some]
    rfl

end AdmissionGate.Quantity
