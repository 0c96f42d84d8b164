/-!
# Decimal numerals

Runs of the digits 0 to 9 and the natural number that such a run denotes.
-/

namespace AdmissionGate.Text

/-! ## Values -/

def digitValue (digit : Char) : Nat :=
  digit.toNat - '0'.toNat

def valueOfDigits (digits : List Char) : Nat :=
  digits.foldl (fun value digit => 10 * value + digitValue digit) 0

def boundedValue? (limit : Nat) (digits : List Char) : Option Nat :=
  let value := valueOfDigits digits
  if value ≤ limit then some value else none

/-! ## Runs -/

def leadingDigits (text : List Char) : List Char :=
  text.takeWhile Char.isDigit

def afterDigits (text : List Char) : List Char :=
  text.dropWhile Char.isDigit

@[simp] theorem leadingDigits_append_afterDigits (text : List Char) :
    leadingDigits text ++ afterDigits text = text := by
  simp [leadingDigits, afterDigits]

/-! ## Limits of fixed-width integers -/

def maxUInt8 : Nat := Nat.pow 2 8 - 1
def maxUInt16 : Nat := Nat.pow 2 16 - 1
def maxUInt32 : Nat := Nat.pow 2 32 - 1
def maxUInt64 : Nat := Nat.pow 2 64 - 1
def maxInt32 : Nat := Nat.pow 2 31 - 1
def maxInt64 : Nat := Nat.pow 2 63 - 1
def maxInt128 : Nat := Nat.pow 2 127 - 1

/-- Whether an integer lies in the signed range whose largest member is
given. -/
def fitsSigned (largest : Nat) (value : Int) : Bool :=
  -(largest : Int) - 1 ≤ value && value ≤ (largest : Int)

end AdmissionGate.Text
