import AdmissionGate.Binary64.Decimal

/-!
# Decimals from 64-bit arithmetic

A short decimal that reads back as a given number, found with significands of 64
bits.  The upper end of the numbers that read back is scaled by a power of ten
until it has between four and 32 bits before the point.  Its digits are cut off
at the first place where the part cut off is narrower than the numbers that read
back; then the last digit is taken down towards the number, but only within
eight places after the scaled point.  The decimal is nearly always the shortest,
and need not be the nearest of its length.
-/

namespace AdmissionGate.Binary64

/-! ## Scaled significands -/

/-- The number `significand * 2 ^ exponent`. -/
structure Scaled where
  significand : Nat
  exponent : Int
deriving DecidableEq, Repr

namespace Scaled

def width : Nat := 64

/-- The same number with a significand of 64 bits. -/
def normalized (scaled : Scaled) : Scaled :=
  let shift := width - 1 - scaled.significand.log2
  ⟨scaled.significand * Nat.pow 2 shift, scaled.exponent - shift⟩

/-- The same number with an exponent that is not greater. -/
def lowered (scaled : Scaled) (exponent : Int) : Scaled :=
  ⟨scaled.significand * Nat.pow 2 (scaled.exponent - exponent).toNat, exponent⟩

/-- The upper 64 bits of a product, rounded to the nearest. -/
def times (left right : Scaled) : Scaled where
  significand :=
    (left.significand * right.significand + Nat.pow 2 (width - 1)) /
      Nat.pow 2 width
  exponent := left.exponent + right.exponent + width

/-- A quotient with a significand of 64 bits, rounded to the nearest. -/
def ofRatio (numerator denominator : Nat) : Scaled :=
  let guess : Int := (numerator.log2 : Int) - denominator.log2 - width
  let rounded := fun (exponent : Int) =>
    roundHalfEven (numerator * Nat.pow 2 (-exponent).toNat)
      (denominator * Nat.pow 2 exponent.toNat)
  if rounded guess < Nat.pow 2 width then ⟨rounded guess, guess⟩
  else ⟨rounded (guess + 1), guess + 1⟩

def powerOfTen (place : Int) : Scaled :=
  ofRatio (Nat.pow 10 place.toNat) (Nat.pow 10 (-place).toNat)

end Scaled

/-! ## The numbers that read back -/

def middle (number : Binary64) : Scaled :=
  Scaled.normalized ⟨number.significand, number.scale⟩

def upperEnd (number : Binary64) : Scaled :=
  Scaled.normalized ⟨2 * number.significand + 1, number.scale - 1⟩

/-- Below a power of two the next number is only half as far. -/
def lowerEnd (number : Binary64) : Scaled :=
  let lower : Scaled :=
    if number.significand = exponentWeight then
      ⟨4 * number.significand - 1, number.scale - 2⟩
    else ⟨2 * number.significand - 1, number.scale - 1⟩
  lower.lowered number.upperEnd.exponent

/-- The power of ten, one of every eighth, that brings the point of a number
with this exponent into its upper 32 bits. -/
def scalingPlace (exponent : Int) : Int :=
  let least := -((61 + exponent) * 30103 / 100000) + 347
  (least / 8 + 1) * 8 - 348

/-! ## Digits -/

/-- Takes the last digit down while that brings the decimal nearer to the target
and leaves it inside the numbers that read back.  The distances are from their
upper end. -/
def takeDown (unit width target : Nat) : (digits rest : Nat) → Nat
  | 0, _ => 0
  | digits + 1, rest =>
    if rest < target ∧ unit ≤ width - rest ∧
        (rest + unit < target ∨ rest + unit - target < target - rest) then
      takeDown unit width target digits (rest + unit)
    else digits + 1

/-- Where the digits of the upper end are cut off, and the numbers in question
below that end. -/
structure Window where
  high : Nat
  width : Nat
  target : Nat
  one : Nat
deriving DecidableEq, Repr

namespace Window

/-- Cuts before the point, from the highest place down. -/
def cutWhole? (window : Window) : Nat → Option (Nat × Int)
  | 0 => none
  | place + 1 =>
    let unit := Nat.pow 10 place * window.one
    let rest := window.high % unit
    if rest ≤ window.width then
      some (takeDown unit window.width window.target (window.high / unit) rest,
        place)
    else cutWhole? window place

/-- How many places after the point are near enough to take the last digit
down. -/
def nearPlaces : Nat := 8

/-- Cuts after the point, over a number of places. -/
def cutFraction (window : Window) (place : Nat) : Nat → Nat × Int
  | 0 => (window.high * Nat.pow 10 place / window.one, -place)
  | places + 1 =>
    let scale := Nat.pow 10 place
    let digits := window.high * scale / window.one
    let rest := window.high * scale % window.one
    if rest < window.width * scale then
      let target := if place ≤ nearPlaces then window.target * scale else 0
      (takeDown window.one (window.width * scale) target digits rest, -place)
    else cutFraction window (place + 1) places

def cut (window : Window) : Nat × Int :=
  match window.cutWhole? (toString (window.high / window.one)).length with
  | some found => found
  | none => window.cutFraction 1 20

end Window

/-- The window of a number under a scaling; each end is drawn in by one. -/
def window (number : Binary64) (scaling : Scaled) : Window :=
  let high := (number.upperEnd.times scaling).significand - 1
  let low := (number.lowerEnd.times scaling).significand + 1
  { high
    width := high - low
    target := high - (number.middle.times scaling).significand
    one := Nat.pow 2 (-(number.upperEnd.times scaling).exponent).toNat }

def shortDecimal (number : Binary64) : Decimal :=
  if number.isZero then ⟨0, 0⟩
  else
    let place := scalingPlace number.upperEnd.exponent
    let (digits, cut) := (number.window (Scaled.powerOfTen place)).cut
    ⟨digits, cut - place⟩

end AdmissionGate.Binary64
