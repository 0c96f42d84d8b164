import AdmissionGate.Proofs.Quantity.Spelling
import Mathlib.Algebra.Order.Field.Power
import Mathlib.Data.Rat.Floor
import Mathlib.Tactic.FieldSimp
import Mathlib.Tactic.Positivity

/-!
# Values of quantities

The rational number that a quantity denotes, and its count of billionths, which
is the number rounded away from zero.  Rounding keeps the order, so that a
greater count is a greater number.
-/

namespace AdmissionGate.Quantity

open Text

/-! ## Rational values -/

def Suffix.factor : Suffix → ℚ
  | .decimal exponent => 10 ^ exponent
  | .binary power => 1024 ^ power

def Suffix.exponent : Suffix → Int
  | .decimal exponent => exponent
  | .binary _ => 0

def Suffix.power : Suffix → Nat
  | .decimal _ => 0
  | .binary power => power

theorem Suffix.factor_eq (suffix : Suffix) :
    suffix.factor = 10 ^ suffix.exponent * 1024 ^ suffix.power := by
  cases suffix <;> simp [factor, exponent, power]

namespace Written

def digits (written : Written) : Nat :=
  valueOfDigits (written.whole ++ written.fraction)

/-- The places by which the digits are moved to become billionths. -/
def shift (written : Written) : Int :=
  written.suffix.exponent + 9 - written.fraction.length

def number (written : Written) : ℚ :=
  valueOfDigits written.whole +
    valueOfDigits written.fraction / 10 ^ written.fraction.length

def magnitude (written : Written) : ℚ :=
  written.number * written.suffix.factor

def value (written : Written) : ℚ :=
  if written.negative then -written.magnitude else written.magnitude

theorem magnitude_nonneg (written : Written) : 0 ≤ written.magnitude := by
  have hnumber : 0 ≤ written.number := by
    unfold number
    positivity
  have hfactor : 0 ≤ written.suffix.factor := by
    cases written.suffix <;> simp only [Suffix.factor] <;> positivity
  exact mul_nonneg hnumber hfactor

theorem number_eq (written : Written) :
    written.number = written.digits / 10 ^ written.fraction.length := by
  rw [number, digits, valueOfDigits_append]
  push_cast
  field_simp

/-- The digits are taken as a whole number, so that the shift undoes the point. -/
theorem magnitude_mul_billion (written : Written) :
    written.magnitude * 10 ^ 9 =
      (written.digits * 1024 ^ written.suffix.power : ℕ) *
        10 ^ written.shift := by
  have hten : (10 : ℚ) ≠ 0 := by norm_num
  have hshift : (10 : ℚ) ^ written.shift =
      10 ^ written.suffix.exponent * 10 ^ 9 / 10 ^ written.fraction.length := by
    rw [shift, zpow_sub₀ hten, zpow_add₀ hten, zpow_natCast]
    rfl
  rw [magnitude, number_eq, Suffix.factor_eq, hshift]
  push_cast
  ring

end Written

def Denotes (quantity : Quantity) (value : ℚ) : Prop :=
  ∃ written : Written, written.SpelledBy (trim quantity.text.toList) ∧
    written.value = value

theorem Denotes.unique {quantity : Quantity} {value other : ℚ}
    (h : quantity.Denotes value) (h' : quantity.Denotes other) :
    value = other := by
  obtain ⟨written, hspelled, rfl⟩ := h
  obtain ⟨written', hspelled', rfl⟩ := h'
  have hread := written?_eq_some_iff.2 hspelled
  have hread' := written?_eq_some_iff.2 hspelled'
  rw [Option.some.inj (hread.symm.trans hread')]

/-! ## Rounding -/

def roundAway (value : ℚ) : ℤ :=
  if value < 0 then ⌊value⌋ else ⌈value⌉

theorem roundAway_mono {value other : ℚ} (h : value ≤ other) :
    roundAway value ≤ roundAway other := by
  unfold roundAway
  split <;> split
  · exact Int.floor_mono h
  · rename_i hneg hnonneg
    have hfloor : ⌊value⌋ ≤ 0 := by
      simpa using Int.floor_mono hneg.le
    exact hfloor.trans (Int.ceil_nonneg (not_lt.1 hnonneg))
  · rename_i hnonneg hneg
    exact absurd (h.trans_lt hneg) hnonneg
  · exact Int.ceil_mono h

theorem roundAway_of_nonneg {value : ℚ} (h : 0 ≤ value) :
    roundAway value = ⌈value⌉ :=
  if_neg (not_lt.2 h)

theorem roundAway_neg (value : ℚ) : roundAway (-value) = -roundAway value := by
  rcases lt_trichotomy value 0 with hneg | rfl | hpos
  · simp [roundAway, hneg, hneg.le, Int.ceil_neg]
  · simp [roundAway]
  · simp [roundAway, hpos, hpos.le, Int.floor_neg]

theorem roundAway_intCast (count : ℤ) : roundAway (count : ℚ) = count := by
  simp [roundAway]

theorem divideUp_eq_ceil (numerator : Nat) {denominator : Nat}
    (hpos : 0 < denominator) :
    (divideUp numerator denominator : ℤ) =
      ⌈(numerator : ℚ) / denominator⌉ := by
  have hpos' : (0 : ℚ) < denominator := by exact_mod_cast hpos
  have hsplit : (numerator : ℚ) = (numerator / denominator : ℕ) * denominator +
      (numerator % denominator : ℕ) := by
    exact_mod_cast (Nat.div_add_mod' numerator denominator).symm
  have hrest : ((numerator % denominator : ℕ) : ℚ) < denominator := by
    exact_mod_cast Nat.mod_lt numerator hpos
  symm
  rw [Int.ceil_eq_iff, lt_div_iff₀ hpos', div_le_iff₀ hpos', divideUp]
  generalize numerator / denominator = quotient at hsplit
  split
  · rename_i hzero
    rw [hzero] at hsplit
    push_cast at hsplit ⊢
    constructor <;> linarith
  · rename_i hnonzero
    have hrest' : (0 : ℚ) < (numerator % denominator : ℕ) := by
      exact_mod_cast Nat.pos_of_ne_zero hnonzero
    push_cast at hsplit hrest' ⊢
    constructor <;> linarith

theorem ceil_eq_one {numerator denominator : Nat} (hpos : 0 < numerator)
    (hle : numerator ≤ denominator) :
    ⌈(numerator : ℚ) / denominator⌉ = 1 := by
  have hnumerator : (0 : ℚ) < numerator := by exact_mod_cast hpos
  have hle' : (numerator : ℚ) ≤ denominator := by exact_mod_cast hle
  have hdenominator : (0 : ℚ) < denominator := hnumerator.trans_le hle'
  rw [Int.ceil_eq_iff]
  constructor
  · simpa using div_pos hnumerator hdenominator
  · simpa using (div_le_one hdenominator).2 hle'

/-- A divisor that does not fit is cut off, which is too small to be seen in the
rounded result. -/
theorem shiftDecimal?_eq_some {magnitude result : Nat} {shift : Int}
    (bound : magnitude ≤ maxInt128)
    (h : shiftDecimal? magnitude shift = some result) :
    (result : ℤ) = ⌈(magnitude : ℚ) * 10 ^ shift⌉ := by
  unfold shiftDecimal? at h
  split at h
  · rename_i hshift
    obtain ⟨power, rfl⟩ := Int.eq_ofNat_of_zero_le hshift
    have hresult : result = magnitude * 10 ^ power := by
      split at h
      · simp only [atMost?, Int.toNat_natCast, Option.ite_none_right_eq_some,
          Option.some.injEq] at h
        exact h.2.symm
      · cases h
    rw [hresult, zpow_natCast]
    exact_mod_cast (Int.ceil_natCast (R := ℚ) (magnitude * 10 ^ power)).symm
  · rename_i hshift
    obtain ⟨power, hpower⟩ : ∃ power : Nat, shift = -power :=
      ⟨shift.natAbs, by omega⟩
    have hscaled : (magnitude : ℚ) * 10 ^ shift =
        magnitude / (10 ^ power : ℕ) := by
      rw [hpower, zpow_neg, zpow_natCast, ← div_eq_mul_inv]
      push_cast
      rfl
    have habs : shift.natAbs = power := by omega
    rw [hscaled]
    rw [habs] at h
    split at h <;> cases h
    · exact divideUp_eq_ceil magnitude (Nat.pow_pos (by decide))
    · rename_i hpower
      have hlimit : maxInt128 ≤ 10 ^ power := by
        have hleast : maxInt128 ≤ 10 ^ 39 := by decide
        refine hleast.trans (Nat.pow_le_pow_right (by decide) ?_)
        simp only [greatestPower] at hpower
        omega
      rw [divideUp_eq_ceil magnitude (by decide)]
      rcases Nat.eq_zero_or_pos magnitude with rfl | hpos
      · simp
      · rw [ceil_eq_one hpos bound, ceil_eq_one hpos (bound.trans hlimit)]

theorem Written.magnitude?_eq (written : Written) :
    written.magnitude? =
      (boundedValue? maxInt128 (written.whole ++ written.fraction)).bind
        fun digits =>
          if fitsSigned maxInt32 written.suffix.exponent &&
              fitsSigned maxInt32 written.fraction.length &&
              fitsSigned maxInt32 (written.suffix.exponent + 9) &&
              fitsSigned maxInt32 written.shift then
            (atMost? maxInt128 (digits * 1024 ^ written.suffix.power)).bind
              fun scaled => shiftDecimal? scaled written.shift
          else none := by
  unfold Written.magnitude? Written.shift
  cases written.suffix <;> rfl

theorem magnitude?_eq_some {written : Written} {result : Nat}
    (h : written.magnitude? = some result) :
    (result : ℤ) = ⌈written.magnitude * 10 ^ 9⌉ := by
  simp only [Written.magnitude?_eq, boundedValue?, atMost?,
    Option.bind_eq_some_iff, Option.ite_none_right_eq_some,
    Option.some.injEq] at h
  obtain ⟨_, ⟨-, rfl⟩, -, _, ⟨bound, rfl⟩, hresult⟩ := h
  rw [shiftDecimal?_eq_some bound hresult, Written.magnitude_mul_billion]
  rfl

theorem nanos?_of_spelled {quantity : Quantity} {written : Written}
    (spelled : written.SpelledBy (trim quantity.text.toList)) :
    quantity.nanos? = written.magnitude?.map fun magnitude : ℕ =>
      if written.negative then -(magnitude : ℤ) else magnitude := by
  rw [nanos?, written?_eq_some_iff.2 spelled]
  simp only [Option.bind_eq_bind, Option.bind_some]
  cases written.magnitude? <;> rfl

theorem nanos?_eq_some {quantity : Quantity} {nanos : Int}
    (h : quantity.nanos? = some nanos) :
    ∃ value, quantity.Denotes value ∧ nanos = roundAway (value * 10 ^ 9) := by
  obtain ⟨written, hwritten, -⟩ := Option.bind_eq_some_iff.1 h
  have spelled := written?_eq_some_iff.1 hwritten
  refine ⟨written.value, ⟨written, spelled, rfl⟩, ?_⟩
  rw [nanos?_of_spelled spelled, Option.map_eq_some_iff] at h
  obtain ⟨magnitude, hmagnitude, rfl⟩ := h
  have hnonneg : 0 ≤ written.magnitude * 10 ^ 9 :=
    mul_nonneg written.magnitude_nonneg (by norm_num)
  have hrounded : (magnitude : ℤ) = roundAway (written.magnitude * 10 ^ 9) := by
    rw [roundAway_of_nonneg hnonneg, magnitude?_eq_some hmagnitude]
  cases hnegative : written.negative with
  | false => simp [Written.value, hnegative, hrounded]
  | true => simp [Written.value, hnegative, hrounded, roundAway_neg]

theorem nanos?_eq_roundAway {quantity : Quantity} {nanos : Int} {value : ℚ}
    (h : quantity.nanos? = some nanos) (hvalue : quantity.Denotes value) :
    nanos = roundAway (value * 10 ^ 9) := by
  obtain ⟨value', hvalue', hnanos⟩ := nanos?_eq_some h
  rw [hnanos, hvalue'.unique hvalue]

theorem compare?_eq_some_iff {left right : Quantity} {order : Ordering} :
    left.compare? right = some order ↔
      ∃ nanos nanos', left.nanos? = some nanos ∧ right.nanos? = some nanos' ∧
        order.Compares nanos nanos' := by
  simp only [compare?, Option.bind_eq_bind, Option.bind_eq_some_iff,
    Option.pure_def, Option.some.injEq, compare_iff, exists_and_left]

theorem lt_of_nanos_lt {quantity other : Quantity} {nanos nanos' : Int}
    {value value' : ℚ} (h : quantity.nanos? = some nanos)
    (h' : other.nanos? = some nanos') (less : nanos < nanos')
    (hvalue : quantity.Denotes value) (hvalue' : other.Denotes value') :
    value < value' := by
  rw [nanos?_eq_roundAway h hvalue, nanos?_eq_roundAway h' hvalue'] at less
  refine lt_of_not_ge fun hle => ?_
  have hscaled : value' * 10 ^ 9 ≤ value * 10 ^ 9 :=
    mul_le_mul_of_nonneg_right hle (by norm_num)
  exact absurd (roundAway_mono hscaled) (not_le.2 less)

end AdmissionGate.Quantity
