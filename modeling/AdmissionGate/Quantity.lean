import AdmissionGate.Json.Codec
import AdmissionGate.Text.Blank

/-!
# Resource quantities

Amounts such as `500m`, `1.5Gi` or `2e3`, compared exactly as counts of
billionths.  What lies below a billionth is rounded away from zero, and counts
beyond 128 bits have no value.
-/

namespace AdmissionGate

structure Quantity where
  text : String
deriving DecidableEq, Repr

namespace Quantity

open Text

/-! ## Written form -/

/-- What a suffix multiplies by: a power of ten or a power of 1024. -/
inductive Suffix where
  | decimal (exponent : Int)
  | binary (power : Nat)
deriving DecidableEq, Repr

structure Written where
  negative : Bool
  whole : List Char
  fraction : List Char
  suffix : Suffix
deriving DecidableEq, Repr

def namedSuffix? : List Char → Option Suffix
  | [] => some (.decimal 0)
  | ['n'] => some (.decimal (-9))
  | ['u'] => some (.decimal (-6))
  | ['m'] => some (.decimal (-3))
  | ['k'] => some (.decimal 3)
  | ['M'] => some (.decimal 6)
  | ['G'] => some (.decimal 9)
  | ['T'] => some (.decimal 12)
  | ['P'] => some (.decimal 15)
  | ['E'] => some (.decimal 18)
  | ['K', 'i'] => some (.binary 1)
  | ['M', 'i'] => some (.binary 2)
  | ['G', 'i'] => some (.binary 3)
  | ['T', 'i'] => some (.binary 4)
  | ['P', 'i'] => some (.binary 5)
  | ['E', 'i'] => some (.binary 6)
  | _ => none

def readSign : List Char → Bool × List Char
  | '-' :: rest => (true, rest)
  | '+' :: rest => (false, rest)
  | text => (false, text)

def exponentSuffix? : List Char → Option Suffix
  | mark :: rest =>
    let (negative, digits) := readSign rest
    if (mark = 'e' ∨ mark = 'E') ∧ ¬ digits.isEmpty ∧
        digits.all Char.isDigit then
      let exponent : Int := valueOfDigits digits
      some (.decimal (if negative then -exponent else exponent))
    else none
  | [] => none

def suffix? (text : List Char) : Option Suffix :=
  (namedSuffix? text).or (exponentSuffix? text)

def readNumber? (text : List Char) :
    Option ((List Char × List Char) × List Char) :=
  let whole := leadingDigits text
  match afterDigits text with
  | '.' :: rest =>
    if whole.isEmpty && (leadingDigits rest).isEmpty then none
    else some ((whole, leadingDigits rest), afterDigits rest)
  | rest => if whole.isEmpty then none else some ((whole, []), rest)

def written? (quantity : Quantity) : Option Written := do
  let (negative, text) := readSign (trim quantity.text.toList)
  let ((whole, fraction), text) ← readNumber? text
  return ⟨negative, whole, fraction, ← suffix? text⟩

/-! ## Value in billionths -/

def divideUp (numerator denominator : Nat) : Nat :=
  numerator / denominator + (if numerator % denominator = 0 then 0 else 1)

def atMost? (limit value : Nat) : Option Nat :=
  if value ≤ limit then some value else none

/-- The greatest power of ten that fits 128 bits. -/
def greatestPower : Nat := 38

/-- The magnitude times a power of ten.  A divisor beyond 128 bits counts as the
greatest one. -/
def shiftDecimal? (magnitude : Nat) (shift : Int) : Option Nat :=
  if 0 ≤ shift then
    if shift.toNat ≤ greatestPower then
      atMost? maxInt128 (magnitude * Nat.pow 10 shift.toNat)
    else none
  else if shift.natAbs ≤ greatestPower then
    some (divideUp magnitude (Nat.pow 10 shift.natAbs))
  else some (divideUp magnitude maxInt128)

def Written.magnitude? (written : Written) : Option Nat := do
  let mantissa ← boundedValue? maxInt128 (written.whole ++ written.fraction)
  let (exponent, power) : Int × Nat :=
    match written.suffix with
    | .decimal exponent => (exponent, 0)
    | .binary power => (0, power)
  let shift := exponent + 9 - written.fraction.length
  if fitsSigned maxInt32 exponent &&
      fitsSigned maxInt32 written.fraction.length &&
      fitsSigned maxInt32 (exponent + 9) && fitsSigned maxInt32 shift then
    shiftDecimal? (← atMost? maxInt128 (mantissa * Nat.pow 1024 power)) shift
  else none

def nanos? (quantity : Quantity) : Option Int := do
  let written ← quantity.written?
  let magnitude : Int ← written.magnitude?
  return if written.negative then -magnitude else magnitude

/-- The value in whole units, rounded once to a binary number of billionths and
once more by the division. -/
def units? (quantity : Quantity) : Option Binary64 := do
  let billion ← Binary64.powerOfTen? 9
  (← Binary64.ofInt? (← quantity.nanos?)).div? billion

def isValid (quantity : Quantity) : Bool :=
  quantity.nanos?.isSome

def compare? (left right : Quantity) : Option Ordering := do
  return compare (← left.nanos?) (← right.nanos?)

/-! ## Codec -/

/-- A quantity is written as text and read from text or from an integer. -/
def codec : Codec Quantity where
  encode quantity := .string quantity.text
  decode?
    | .string text => some ⟨text⟩
    | .integer value => some ⟨toString value⟩
    | _ => none

end Quantity
end AdmissionGate
