import AdmissionGate.Text.Blank
import AdmissionGate.Text.Numeral

/-!
# Versions

Software versions of three numbers, read leniently: marks `v` before them and a
distribution or build suffix after them are passed over, and missing numbers are
zero.
-/

namespace AdmissionGate

structure Version where
  major : Nat
  minor : Nat
  patch : Nat
deriving DecidableEq, Repr

namespace Version

open Text

/-! ## Reading -/

def splitParts (separator : Char) : List Char → List (List Char)
  | [] => [[]]
  | head :: rest =>
    if head = separator then [] :: splitParts separator rest
    else
      match splitParts separator rest with
      | part :: parts => (head :: part) :: parts
      | [] => [[head]]

def numeral? (digits : List Char) : Option Nat :=
  if digits.isEmpty || !digits.all Char.isDigit ||
      (digits.head? == some '0' && digits.length != 1)
  then none
  else boundedValue? maxUInt64 digits

/-- The text between the marks `v` and the suffix. -/
def core (text : String) : List Char :=
  ((trim text.toList).dropWhile (· == 'v')).takeWhile fun character =>
    character != '-' && character != '+'

def ofText? (text : String) : Option Version :=
  match splitParts '.' (core text) with
  | [major] => do return ⟨← numeral? major, 0, 0⟩
  | [major, minor] => do return ⟨← numeral? major, ← numeral? minor, 0⟩
  | [major, minor, patch] => do
    return ⟨← numeral? major, ← numeral? minor, ← numeral? patch⟩
  | _ => none

def toText (version : Version) : String :=
  toString version.major ++ "." ++ toString version.minor ++ "." ++
    toString version.patch

/-! ## Order -/

def le (left right : Version) : Bool :=
  left.major < right.major ||
    (left.major == right.major &&
      (left.minor < right.minor ||
        (left.minor == right.minor && left.patch ≤ right.patch)))

def atLeast (text minimum : String) : Bool :=
  match ofText? text, ofText? minimum with
  | some version, some minimum => minimum.le version
  | _, _ => false

end Version
end AdmissionGate
