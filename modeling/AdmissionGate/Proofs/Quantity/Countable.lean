import AdmissionGate.Proofs.Quantity.Value

/-!
# Countable quantities

A quantity has a count of billionths only if all that is computed on the way to
the count fits as well.  Where no digit is wasted, this is no condition: the count
exists if it fits.
-/

namespace AdmissionGate.Quantity

open Text

namespace Written

/-! ## What has to fit -/

/-- Exponents fit 32 bits; the digits and what they are multiplied by fit 128. -/
structure Countable (written : Written) : Prop where
  digits : written.digits ≤ maxInt128
  exponent : fitsSigned maxInt32 written.suffix.exponent = true
  places : fitsSigned maxInt32 written.fraction.length = true
  raised : fitsSigned maxInt32 (written.suffix.exponent + 9) = true
  shift : fitsSigned maxInt32 written.shift = true
  scaled : written.digits * 1024 ^ written.suffix.power ≤ maxInt128
  factor : 0 ≤ written.shift → 10 ^ written.shift.toNat ≤ maxInt128
  count : 0 ≤ written.shift →
    written.digits * 1024 ^ written.suffix.power * 10 ^ written.shift.toNat ≤
      maxInt128

end Written

theorem ten_pow_le_iff (power : Nat) :
    10 ^ power ≤ maxInt128 ↔ power ≤ greatestPower := by
  have hgreatest : 10 ^ greatestPower ≤ maxInt128 := by decide
  have hbeyond : maxInt128 < 10 ^ (greatestPower + 1) := by decide
  constructor
  · intro h
    have hlt := (Nat.pow_lt_pow_iff_right (by decide)).1 (h.trans_lt hbeyond)
    exact Nat.le_of_lt_succ hlt
  · exact fun h => (Nat.pow_le_pow_right (by decide) h).trans hgreatest

theorem shiftDecimal?_isSome_iff {magnitude : Nat} {shift : Int} :
    (shiftDecimal? magnitude shift).isSome = true ↔
      (0 ≤ shift → 10 ^ shift.toNat ≤ maxInt128 ∧
        magnitude * 10 ^ shift.toNat ≤ maxInt128) := by
  unfold shiftDecimal?
  split
  · rename_i hshift
    rw [ten_pow_le_iff]
    split
    · rename_i hpower
      simp [atMost?, hshift, hpower]
    · rename_i hpower
      simp [hshift, hpower]
  · rename_i hshift
    split <;> simp [hshift]

theorem magnitude?_isSome_iff {written : Written} :
    written.magnitude?.isSome = true ↔ written.Countable := by
  simp only [Written.magnitude?_eq, boundedValue?, atMost?,
    Option.isSome_iff_exists, Option.bind_eq_some_iff,
    Option.ite_none_right_eq_some, Option.some.injEq, Bool.and_eq_true]
  constructor
  · rintro ⟨_, _, ⟨hdigits, rfl⟩, ⟨⟨⟨hexponent, hplaces⟩, hraised⟩, hshift⟩, _,
      ⟨hscaled, rfl⟩, hresult⟩
    have hcount := shiftDecimal?_isSome_iff.1
      (Option.isSome_iff_exists.2 ⟨_, hresult⟩)
    exact ⟨hdigits, hexponent, hplaces, hraised, hshift, hscaled,
      fun h => (hcount h).1, fun h => (hcount h).2⟩
  · intro countable
    obtain ⟨result, hresult⟩ := Option.isSome_iff_exists.1
      (shiftDecimal?_isSome_iff.2 fun h => ⟨countable.factor h, countable.count h⟩)
    exact ⟨result, _, ⟨countable.digits, rfl⟩, ⟨⟨⟨countable.exponent,
      countable.places⟩, countable.raised⟩, countable.shift⟩, _,
      ⟨countable.scaled, rfl⟩, hresult⟩

theorem nanos?_isSome_iff {quantity : Quantity} {written : Written}
    (spelled : written.SpelledBy (trim quantity.text.toList)) :
    quantity.nanos?.isSome = true ↔ written.Countable := by
  rw [← magnitude?_isSome_iff, nanos?_of_spelled spelled, Option.isSome_map]

theorem nanos?_eq_some_roundAway {quantity : Quantity} {written : Written}
    (spelled : written.SpelledBy (trim quantity.text.toList))
    (countable : written.Countable) :
    quantity.nanos? = some (roundAway (written.value * 10 ^ 9)) := by
  obtain ⟨nanos, hnanos⟩ :=
    Option.isSome_iff_exists.1 ((nanos?_isSome_iff spelled).2 countable)
  rw [hnanos, nanos?_eq_roundAway hnanos ⟨written, spelled, rfl⟩]

/-! ## No digit wasted -/

namespace Written

/-- A quantity other than zero, without digits below the billionths.  Its digits
can be numbered. -/
structure Plain (written : Written) : Prop where
  nonzero : written.digits ≠ 0
  coarse : 0 ≤ written.shift
  short : written.fraction.length + greatestPower ≤ maxInt32

theorem Plain.abs_roundAway {written : Written} (plain : written.Plain) :
    |roundAway (written.value * 10 ^ 9)| =
      (written.digits * 1024 ^ written.suffix.power *
        10 ^ written.shift.toNat : ℕ) := by
  have hcount : written.magnitude * 10 ^ 9 =
      (written.digits * 1024 ^ written.suffix.power *
        10 ^ written.shift.toNat : ℕ) := by
    obtain ⟨places, hplaces⟩ := Int.eq_ofNat_of_zero_le plain.coarse
    rw [magnitude_mul_billion, hplaces, zpow_natCast, Int.toNat_natCast]
    push_cast
    rfl
  generalize written.digits * 1024 ^ written.suffix.power *
    10 ^ written.shift.toNat = count at hcount
  have hrounded : roundAway (written.magnitude * 10 ^ 9) = count := by
    rw [hcount, roundAway_of_nonneg (Nat.cast_nonneg count), Int.ceil_natCast]
  unfold value
  split
  · rw [neg_mul, roundAway_neg, hrounded, abs_neg, Nat.abs_cast]
  · rw [hrounded, Nat.abs_cast]

theorem Plain.countable_iff {written : Written} (plain : written.Plain) :
    written.Countable ↔ |roundAway (written.value * 10 ^ 9)| ≤ maxInt128 := by
  rw [plain.abs_roundAway, Nat.cast_le]
  refine ⟨fun countable => countable.count plain.coarse, fun bound => ?_⟩
  have hpower : 0 < 1024 ^ written.suffix.power := Nat.pow_pos (by decide)
  have hten : 0 < 10 ^ written.shift.toNat := Nat.pow_pos (by decide)
  have hdigits := Nat.pos_of_ne_zero plain.nonzero
  have hscaled : written.digits * 1024 ^ written.suffix.power ≤ maxInt128 :=
    (Nat.le_mul_of_pos_right _ hten).trans bound
  have hfactor : 10 ^ written.shift.toNat ≤ maxInt128 :=
    (Nat.le_mul_of_pos_left _ (Nat.mul_pos hdigits hpower)).trans bound
  -- The shift is small, and so is the exponent that it comes from.
  have hsmall := (ten_pow_le_iff _).1 hfactor
  have hexponent : written.suffix.exponent =
      written.shift + written.fraction.length - 9 := by
    unfold shift
    omega
  have hcoarse := plain.coarse
  have hshort := plain.short
  have hlimit : maxInt32 = 2147483647 := rfl
  have hgreatest : greatestPower = 38 := rfl
  exact {
    digits := (Nat.le_mul_of_pos_right _ hpower).trans hscaled
    exponent := fitsSigned_iff.2 (by omega)
    places := fitsSigned_iff.2 (by omega)
    raised := fitsSigned_iff.2 (by omega)
    shift := fitsSigned_iff.2 (by omega)
    scaled := hscaled
    factor := fun _ => hfactor
    count := fun _ => bound }

end Written

/-- A spelled quantity has its count exactly if it is countable, and a plain one
exactly if the count fits. -/
theorem counted_iff_countable {quantity : Quantity} {written : Written}
    (spelled : written.SpelledBy (trim quantity.text.toList)) :
    (written.Countable →
      quantity.nanos? = some (roundAway (written.value * 10 ^ 9))) ∧
    (¬ written.Countable → quantity.nanos? = none) ∧
    (written.Plain →
      (written.Countable ↔
        |roundAway (written.value * 10 ^ 9)| ≤ maxInt128)) := by
  refine ⟨nanos?_eq_some_roundAway spelled, fun uncountable => ?_,
    Written.Plain.countable_iff⟩
  rw [← Option.not_isSome_iff_eq_none, nanos?_isSome_iff spelled]
  exact uncountable

/-! ### A zero with an exponent -/

def zeroWritten : Written := ⟨false, ['0'], [], .decimal 30⟩

def gibibytesWritten : Written := ⟨false, ['1'], ['5'], .binary 3⟩

theorem value_zeroWritten : zeroWritten.value = 0 := by
  simp [zeroWritten, Written.value, Written.magnitude, Written.number,
    valueOfDigits, digitValue]

theorem value_gibibytesWritten :
    gibibytesWritten.value * 10 ^ 9 = (1610612736000000000 : ℤ) := by
  have hwhole : valueOfDigits ['1'] = 1 := by decide
  have hfraction : valueOfDigits ['5'] = 5 := by decide
  norm_num [gibibytesWritten, Written.value, Written.magnitude, Written.number,
    Suffix.factor, hwhole, hfraction]

/-- A zero is not counted when its power of ten does not fit.  Half a gibibyte
more than one has no digit to spare, and it fits. -/
theorem zero_uncounted :
    Quantity.Denotes ⟨"0e30"⟩ 0 ∧ Quantity.nanos? ⟨"0e30"⟩ = none ∧
      Quantity.nanos? ⟨"1.5Gi"⟩ = some 1610612736000000000 := by
  have hzero : zeroWritten.SpelledBy (trim (Quantity.mk "0e30").text.toList) :=
    written?_eq_some_iff.1 (by decide +kernel)
  have hhalf :
      gibibytesWritten.SpelledBy (trim (Quantity.mk "1.5Gi").text.toList) :=
    written?_eq_some_iff.1 (by decide +kernel)
  have huncountable : ¬ zeroWritten.Countable :=
    fun countable => absurd (countable.factor (by decide)) (by decide)
  have hplain : gibibytesWritten.Plain :=
    ⟨by decide, by decide, by decide⟩
  have hcountable : gibibytesWritten.Countable := by
    rw [(counted_iff_countable hhalf).2.2 hplain, value_gibibytesWritten,
      roundAway_intCast]
    decide
  refine ⟨⟨_, hzero, value_zeroWritten⟩,
    (counted_iff_countable hzero).2.1 huncountable, ?_⟩
  rw [(counted_iff_countable hhalf).1 hcountable, value_gibibytesWritten,
    roundAway_intCast]

end AdmissionGate.Quantity
