import AdmissionGate.Proofs.Text.Blank
import AdmissionGate.Text.Numeral
import Mathlib.Algebra.Group.Nat.Defs

/-!
# Runs of digits

What is read of a run of digits that stands in front of another text, and the
number that two runs denote together.
-/

namespace AdmissionGate.Text

theorem isBlank_of_isDigit {digit : Char} (h : digit.isDigit = true) :
    isBlank digit = false := by
  have hlow : 48 ≤ digit.toNat ∧ digit.toNat ≤ 57 := by
    simpa [Char.isDigit, Char.le_def, UInt32.le_iff_toNat_le] using h
  simp only [isBlank, Bool.or_eq_false_iff, Bool.and_eq_false_iff,
    decide_eq_false_iff_not, beq_eq_false_iff_ne]
  omega

theorem ne_sign_of_isDigit {character : Char} (h : character.isDigit = true) :
    character ≠ '-' ∧ character ≠ '+' := by
  constructor <;> rintro rfl <;> cases h

/-! ## Runs in front of a text -/

theorem isDigit_of_mem_leadingDigits {text : List Char} {digit : Char}
    (h : digit ∈ leadingDigits text) : digit.isDigit = true :=
  List.all_eq_true.1 List.all_takeWhile digit h

theorem leadingDigits_append {digits rest : List Char}
    (hdigits : ∀ digit ∈ digits, digit.isDigit = true) :
    leadingDigits (digits ++ rest) = digits ++ leadingDigits rest :=
  List.takeWhile_append_of_pos hdigits

theorem afterDigits_append {digits rest : List Char}
    (hdigits : ∀ digit ∈ digits, digit.isDigit = true) :
    afterDigits (digits ++ rest) = afterDigits rest :=
  List.dropWhile_append_of_pos hdigits

theorem leadingDigits_eq_nil {text : List Char}
    (stop : ∀ character ∈ text.head?, character.isDigit = false) :
    leadingDigits text = [] :=
  takeWhile_eq_nil_of_stop stop

theorem afterDigits_eq_self {text : List Char}
    (stop : ∀ character ∈ text.head?, character.isDigit = false) :
    afterDigits text = text :=
  dropWhile_eq_self_of_stop stop

section

variable {digits rest : List Char}
  (hdigits : ∀ digit ∈ digits, digit.isDigit = true)
  (stop : ∀ character ∈ rest.head?, character.isDigit = false)

include hdigits stop

theorem leadingDigits_append_of_stop :
    leadingDigits (digits ++ rest) = digits := by
  rw [leadingDigits_append hdigits, leadingDigits_eq_nil stop, List.append_nil]

theorem afterDigits_append_of_stop : afterDigits (digits ++ rest) = rest := by
  rw [afterDigits_append hdigits, afterDigits_eq_self stop]

end

/-! ## Values -/

theorem valueOfDigits_append (front back : List Char) :
    valueOfDigits (front ++ back) =
      valueOfDigits front * 10 ^ back.length + valueOfDigits back := by
  have hvalue (digits : List Char) :
      valueOfDigits digits = Nat.ofDigitChars 10 digits 0 := rfl
  rw [hvalue, hvalue, hvalue, Nat.ofDigitChars_append,
    Nat.ofDigitChars_eq_ofDigitChars_zero, Nat.mul_comm]

/-! ## Limits -/

theorem fitsSigned_iff {largest : Nat} {value : Int} :
    fitsSigned largest value = true ↔
      -(largest : Int) - 1 ≤ value ∧ value ≤ largest := by
  simp [fitsSigned]

end AdmissionGate.Text
