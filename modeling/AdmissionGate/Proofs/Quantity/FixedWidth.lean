import AdmissionGate.Proofs.Quantity.Countable

/-!
# Counting in integers of fixed width

A count is computed in signed integers of 128 bits, its exponent in integers of
32.  Here the steps are taken one at a time.  Most are checked and give up when
their result does not fit.  The others would wrap around; they never do, so that
the steps together give the count that is computed with whole numbers.
-/

namespace AdmissionGate.Quantity

open Text

/-! ## Steps -/

/-- How a computation ends without a result: a check has failed, or a step without
a check has left the integers at hand. -/
inductive Halt where
  | gaveUp
  | wrapped
deriving DecidableEq, Repr

def checked (largest : Nat) (value : Int) : Except Halt Int :=
  if fitsSigned largest value then .ok value else .error .gaveUp

def unchecked (largest : Nat) (value : Int) : Except Halt Int :=
  if fitsSigned largest value then .ok value else .error .wrapped

def divide (numerator divisor : Int) : Except Halt (Int × Int) :=
  if divisor = 0 then .error .wrapped
  else do
    return (← unchecked maxInt128 (numerator.tdiv divisor),
      numerator.tmod divisor)

/-- The digits are taken from the left, and the number is checked twice for
each. -/
def readDigits (digits : List Char) : Except Halt Int :=
  digits.foldlM (fun value digit => do
    let raised ← checked maxInt128 (value * 10)
    checked maxInt128 (raised + digitValue digit)) 0

/-- A power that does not fit is replaced by the greatest integer when it is
divided by. -/
def moveDigits (count shift : Int) : Except Halt Int :=
  let power := checked maxInt128 (10 ^ shift.natAbs)
  if 0 ≤ shift then do
    checked maxInt128 (count * (← power))
  else do
    let (quotient, rest) ← divide count (power.toOption.getD maxInt128)
    unchecked maxInt128 (quotient + if rest = 0 then 0 else 1)

def Written.checkedShift (written : Written) : Except Halt Int := do
  let exponent ← checked maxInt32 written.suffix.exponent
  let places ← checked maxInt32 written.fraction.length
  let raised ← checked maxInt32 (exponent + 9)
  checked maxInt32 (raised - places)

def Written.stepwise (written : Written) : Except Halt Int := do
  let digits ← readDigits (written.whole ++ written.fraction)
  let shift ← written.checkedShift
  let factor ← checked maxInt128 (1024 ^ written.suffix.power)
  let scaled ← checked maxInt128 (digits * factor)
  let count ← moveDigits scaled shift
  if written.negative then unchecked maxInt128 (-count) else return count

def stepwise (quantity : Quantity) : Except Halt Int :=
  match quantity.written? with
  | some written => written.stepwise
  | none => .error .gaveUp

/-! ## Single steps -/

@[simp] theorem ok_bind {Result Next : Type} (result : Result)
    (next : Result → Except Halt Next) :
    (Except.ok result >>= next) = next result :=
  rfl

@[simp] theorem error_bind {Result Next : Type} (halt : Halt)
    (next : Result → Except Halt Next) :
    ((Except.error halt : Except Halt Result) >>= next) = .error halt :=
  rfl

def settled : Option Nat → Except Halt Int
  | some result => .ok result
  | none => .error .gaveUp

@[simp] theorem settled_some (result : Nat) :
    settled (some result) = .ok (result : Int) := rfl

@[simp] theorem settled_none : settled none = .error .gaveUp := rfl

theorem checked_natCast (largest value : Nat) :
    checked largest value = settled (atMost? largest value) := by
  unfold checked atMost?
  by_cases h : value ≤ largest
  · rw [if_pos h, if_pos (fitsSigned_iff.2 (by omega)), settled_some]
  · rw [if_neg h, if_neg (mt fitsSigned_iff.1 (by omega)), settled_none]

theorem unchecked_natCast {largest value : Nat} (h : value ≤ largest) :
    unchecked largest value = .ok (value : Int) :=
  if_pos (fitsSigned_iff.2 (by omega))

/-! ## Digits -/

theorem valueOfDigits_concat (digits : List Char) (digit : Char) :
    valueOfDigits (digits ++ [digit]) =
      valueOfDigits digits * 10 + digitValue digit := by
  simp [valueOfDigits, Nat.mul_comm]

theorem readDigits_concat (digits : List Char) (digit : Char) :
    readDigits (digits ++ [digit]) = (do
      let value ← readDigits digits
      let raised ← checked maxInt128 (value * 10)
      checked maxInt128 (raised + digitValue digit)) := by
  simp [readDigits]

/-- The number only grows, so that it fits at every step if it does at the end. -/
theorem readDigits_eq (digits : List Char) :
    readDigits digits = settled (boundedValue? maxInt128 digits) := by
  induction digits using List.reverseRecOn with
  | nil => rfl
  | append_singleton front digit ih =>
      rw [readDigits_concat, ih, boundedValue?, boundedValue?,
        valueOfDigits_concat]
      generalize valueOfDigits front = value
      have hraised : (value : Int) * 10 = (value * 10 : ℕ) := by simp
      by_cases hvalue : value ≤ maxInt128
      · rw [if_pos hvalue, settled_some, ok_bind, hraised, checked_natCast,
          atMost?]
        by_cases htimes : value * 10 ≤ maxInt128
        · rw [if_pos htimes, settled_some, ok_bind, ← Nat.cast_add,
            checked_natCast, atMost?]
        · rw [if_neg htimes, if_neg (by omega), settled_none, error_bind]
      · rw [if_neg hvalue, if_neg (by omega), settled_none, error_bind]

/-! ## Powers of ten -/

theorem checked_ten_pow (power : Nat) :
    checked maxInt128 (10 ^ power) =
      settled (if power ≤ greatestPower then some (10 ^ power) else none) := by
  have hcast : (10 : Int) ^ power = (10 ^ power : ℕ) := by simp
  rw [hcast, checked_natCast, atMost?]
  simp only [ten_pow_le_iff]

theorem divide_natCast {numerator divisor : Nat}
    (bound : numerator ≤ maxInt128) (nonzero : divisor ≠ 0) :
    divide numerator divisor =
      .ok ((numerator / divisor : ℕ), (numerator % divisor : ℕ)) := by
  have hquotient : numerator / divisor ≤ maxInt128 :=
    (Nat.div_le_self _ _).trans bound
  rw [divide, if_neg (by exact_mod_cast nonzero), ← Int.ofNat_tdiv,
    unchecked_natCast hquotient, ← Int.ofNat_tmod]
  rfl

theorem divideUp_le (numerator : Nat) {divisor : Nat} (pos : 0 < divisor) :
    divideUp numerator divisor ≤ numerator := by
  have hsplit := Nat.div_add_mod numerator divisor
  have hquotient := Nat.le_mul_of_pos_left (numerator / divisor) pos
  unfold divideUp
  split <;> omega

theorem roundUp_natCast {numerator divisor : Nat}
    (bound : numerator ≤ maxInt128) (pos : 0 < divisor) :
    (do
      let (quotient, rest) ← divide numerator divisor
      unchecked maxInt128 (quotient + if rest = 0 then 0 else 1)) =
      .ok (divideUp numerator divisor : Int) := by
  have hrounded : ((numerator / divisor : ℕ) : Int) +
      (if ((numerator % divisor : ℕ) : Int) = 0 then 0 else 1) =
        divideUp numerator divisor := by
    rw [divideUp, Nat.cast_add]
    simp only [Nat.cast_eq_zero, Nat.cast_ite, Nat.cast_zero, Nat.cast_one]
  rw [divide_natCast bound pos.ne', ok_bind]
  simp only [hrounded]
  exact unchecked_natCast ((divideUp_le numerator pos).trans bound)

theorem moveDigits_eq {count : Nat} (bound : count ≤ maxInt128) (shift : Int) :
    moveDigits count shift = settled (shiftDecimal? count shift) := by
  rw [moveDigits, shiftDecimal?, checked_ten_pow]
  by_cases hshift : 0 ≤ shift
  · have habs : shift.natAbs = shift.toNat := by omega
    rw [if_pos hshift, if_pos hshift, habs]
    by_cases hpower : shift.toNat ≤ greatestPower
    · rw [if_pos hpower, if_pos hpower, settled_some, ok_bind, ← Nat.cast_mul,
        checked_natCast]
      rfl
    · rw [if_neg hpower, if_neg hpower, settled_none, error_bind]
  · rw [if_neg hshift, if_neg hshift]
    by_cases hpower : shift.natAbs ≤ greatestPower
    · rw [if_pos hpower, if_pos hpower, settled_some]
      exact roundUp_natCast bound (Nat.pow_pos (by decide))
    · rw [if_neg hpower, if_neg hpower, settled_none]
      exact roundUp_natCast bound (by decide)

/-! ## All steps -/

theorem checked_bind {Next : Type} (largest : Nat) (value : Int)
    (next : Int → Except Halt Next) :
    (checked largest value >>= next) =
      if fitsSigned largest value then next value else .error .gaveUp := by
  unfold checked
  split <;> rfl

theorem Written.checkedShift_eq (written : Written) :
    written.checkedShift =
      if fitsSigned maxInt32 written.suffix.exponent &&
          fitsSigned maxInt32 written.fraction.length &&
          fitsSigned maxInt32 (written.suffix.exponent + 9) &&
          fitsSigned maxInt32 written.shift then .ok written.shift
      else .error .gaveUp := by
  simp only [checkedShift, checked_bind, Bool.and_eq_true, and_assoc, ite_and]
  rfl

theorem checked_factor {power : Nat} (small : power ≤ 6) :
    checked maxInt128 (1024 ^ power) = .ok (1024 ^ power : ℕ) := by
  have hle : 1024 ^ power ≤ maxInt128 :=
    (Nat.pow_le_pow_right (by decide) small).trans (by decide)
  have hcast : (1024 : Int) ^ power = (1024 ^ power : ℕ) := by simp
  rw [hcast, checked_natCast, atMost?, if_pos hle, settled_some]

theorem le_of_shiftDecimal? {magnitude result : Nat} {shift : Int}
    (bound : magnitude ≤ maxInt128)
    (h : shiftDecimal? magnitude shift = some result) : result ≤ maxInt128 := by
  unfold shiftDecimal? at h
  split at h
  · split at h
    · obtain ⟨hfits, hresult⟩ := Option.ite_none_right_eq_some.1 h
      exact Option.some.inj hresult ▸ hfits
    · cases h
  · split at h <;> cases h
    · exact (divideUp_le _ (Nat.pow_pos (by decide))).trans bound
    · exact (divideUp_le _ (by decide)).trans bound

/-- A sign turned around fits, since the least integer lies further from zero than
the greatest. -/
theorem unchecked_neg {count : Nat} (h : count ≤ maxInt128) :
    unchecked maxInt128 (-count) = .ok (-count : Int) :=
  if_pos (fitsSigned_iff.2 (by omega))

theorem Written.stepwise_eq {written : Written}
    (small : written.suffix.power ≤ 6) :
    written.stepwise = settled written.magnitude? >>= fun magnitude =>
      .ok (if written.negative then -magnitude else magnitude) := by
  rw [stepwise, readDigits_eq, magnitude?_eq, checkedShift_eq,
    checked_factor small]
  cases boundedValue? maxInt128 (written.whole ++ written.fraction) with
  | none => rfl
  | some digits =>
      rw [settled_some, ok_bind, Option.bind_some]
      split
      case isFalse => rfl
      rw [ok_bind, ok_bind, ← Nat.cast_mul, checked_natCast, atMost?]
      split
      case isFalse => rfl
      rename_i bound
      rw [settled_some, ok_bind, moveDigits_eq bound, Option.bind_some]
      cases hcount : shiftDecimal? (digits * 1024 ^ written.suffix.power)
          written.shift with
      | none => rfl
      | some count =>
          rw [settled_some, ok_bind, ok_bind,
            unchecked_neg (le_of_shiftDecimal? bound hcount)]
          cases written.negative <;> rfl

theorem SpellsSuffix.power_le {text : List Char} {suffix : Suffix}
    (spells : SpellsSuffix text suffix) : suffix.power ≤ 6 := by
  cases spells with
  | listed h =>
      have hall : ∀ entry ∈ suffixes, entry.2.power ≤ 6 := by decide
      exact hall _ h
  | exponent => exact Nat.zero_le 6

theorem stepwise_eq (quantity : Quantity) :
    quantity.stepwise = quantity.nanos?.elim (.error .gaveUp) .ok := by
  unfold stepwise
  cases hwritten : quantity.written? with
  | none => rw [nanos?, hwritten]; rfl
  | some written =>
      have spelled := written?_eq_some_iff.1 hwritten
      have hsmall : written.suffix.power ≤ 6 := by
        obtain ⟨_, _, _, -, -, -, hsuffix⟩ := spelled
        exact hsuffix.power_le
      dsimp only
      rw [Written.stepwise_eq hsmall, nanos?_of_spelled spelled]
      cases written.magnitude? <;> rfl

end AdmissionGate.Quantity
