import AdmissionGate.Text.Numeral

/-!
# Binary floating-point numbers

Numbers of the IEEE 754 binary64 format, as bit patterns.  Every operation
computes the exact quotient of two natural numbers and rounds once, to the
nearest representable value and to the even one of two that are equally near.
-/

namespace AdmissionGate

structure Binary64 where
  bits : UInt64
deriving DecidableEq, Repr, Inhabited

namespace Binary64

/-! ## Parts of a pattern -/

/-- The weight of the lowest bit of the exponent field, which is also the least
significand of a normal number. -/
def exponentWeight : Nat := Nat.pow 2 52

def signWeight : Nat := Nat.pow 2 63

def isNegative (number : Binary64) : Bool :=
  number.bits.toNat / signWeight == 1

def exponentField (number : Binary64) : Nat :=
  number.bits.toNat / exponentWeight % 2048

def fractionField (number : Binary64) : Nat :=
  number.bits.toNat % exponentWeight

/-- The magnitude of a finite number is its significand times two to its
scale. -/
def significand (number : Binary64) : Nat :=
  if number.exponentField = 0 then number.fractionField
  else exponentWeight + number.fractionField

def scale (number : Binary64) : Int :=
  (max number.exponentField 1 : Nat) - 1075

def isZero (number : Binary64) : Bool :=
  number.significand == 0

def numerator (number : Binary64) : Nat :=
  number.significand * Nat.pow 2 number.scale.toNat

def denominator (number : Binary64) : Nat :=
  Nat.pow 2 (-number.scale).toNat

/-! ## Rounding a quotient -/

def zero (negative : Bool) : Binary64 :=
  ⟨if negative then 0x8000000000000000 else 0⟩

def roundHalfEven (numerator denominator : Nat) : Nat :=
  let quotient := numerator / denominator
  let twice := 2 * (numerator % denominator)
  if twice < denominator then quotient
  else if denominator < twice then quotient + 1
  else quotient + quotient % 2

/-- The binary exponent of the last place of the format at the size of the
quotient. -/
def lastPlace (numerator denominator : Nat) : Int :=
  let guess :=
    max (-1074 : Int) ((numerator.log2 : Int) - denominator.log2 - 53)
  let quotient :=
    numerator * Nat.pow 2 (-guess).toNat / (denominator * Nat.pow 2 guess.toNat)
  if 2 * exponentWeight ≤ quotient then guess + 1 else guess

/-- The pattern of the magnitude nearest to a quotient, none beyond the finite
range. -/
def nearestPattern? (numerator denominator : Nat) : Option Nat :=
  if numerator = 0 then some 0
  else
    let place := lastPlace numerator denominator
    let rounded := roundHalfEven (numerator * Nat.pow 2 (-place).toNat)
      (denominator * Nat.pow 2 place.toNat)
    let pattern := (place + 1074).toNat * exponentWeight + rounded
    if pattern < 2047 * exponentWeight then some pattern else none

def ofRatio? (negative : Bool) (numerator denominator : Nat) :
    Option Binary64 :=
  (nearestPattern? numerator denominator).map fun pattern =>
    ⟨UInt64.ofNat (if negative then signWeight + pattern else pattern)⟩

/-! ## Arithmetic -/

def ofInt? (value : Int) : Option Binary64 :=
  ofRatio? (value < 0) value.natAbs 1

def mul? (left right : Binary64) : Option Binary64 :=
  ofRatio? (left.isNegative != right.isNegative)
    (left.numerator * right.numerator) (left.denominator * right.denominator)

def div? (left right : Binary64) : Option Binary64 :=
  ofRatio? (left.isNegative != right.isNegative)
    (left.numerator * right.denominator) (left.denominator * right.numerator)

def addMagnitudes? (left right : Binary64) : Option Binary64 :=
  ofRatio? false
    (left.numerator * right.denominator + right.numerator * left.denominator)
    (left.denominator * right.denominator)

def powerOfTen? (exponent : Nat) : Option Binary64 :=
  ofRatio? false (Nat.pow 10 exponent) 1

/-! ## Comparison -/

/-- Equality of the numbers denoted: the two zeros are equal. -/
def sameNumber (left right : Binary64) : Bool :=
  left == right || (left.isZero && right.isZero)

def magnitudeLe (left right : Binary64) : Bool :=
  left.numerator * right.denominator ≤ right.numerator * left.denominator

end Binary64
end AdmissionGate
