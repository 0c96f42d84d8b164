import AdmissionGate.Json
import AdmissionGate.Text.Numeral

/-!
# Outlines of JSON texts

A JSON text as far as it can be read.  Strings and numbers are kept as written,
since what is passed over need not denote a value; a container that breaks off
keeps what stands before the break.  Values may nest 127 deep.  Integers that
fit 64 bits stay integers; every other number becomes the binary number that the
digits, read as one integer of at most 64 bits and then scaled by one power of
ten, come to.
-/

namespace AdmissionGate.Json

open Text

/-! ## Strings -/

/-- A piece of a string as written: a character, or a code unit given by
number. -/
inductive Piece where
  | plain (character : Char)
  | unit (value : Nat)
deriving DecidableEq, Repr

def isHighSurrogate (unit : Nat) : Bool := 0xD800 ≤ unit && unit ≤ 0xDBFF

def isLowSurrogate (unit : Nat) : Bool := 0xDC00 ≤ unit && unit ≤ 0xDFFF

/-- The characters that pieces denote.  A surrogate must be one half of a
pair. -/
def joinPieces : List Piece → Option (List Char)
  | [] => some []
  | .plain character :: rest => (joinPieces rest).map (character :: ·)
  | .unit high :: .unit low :: rest =>
    if isHighSurrogate high then
      if isLowSurrogate low then
        (joinPieces rest).map
          (Char.ofNat (0x10000 + (high - 0xD800) * 0x400 + (low - 0xDC00)) :: ·)
      else none
    else if isLowSurrogate high then none
    else (joinPieces (.unit low :: rest)).map (Char.ofNat high :: ·)
  | .unit unit :: rest =>
    if isHighSurrogate unit || isLowSurrogate unit then none
    else (joinPieces rest).map (Char.ofNat unit :: ·)

def text? (pieces : List Piece) : Option String :=
  (joinPieces pieces).map String.ofList

/-! ## Numbers -/

/-- A number as written: the digits before and after the point and the exponent
part. -/
structure Numeral where
  negative : Bool
  whole : List Char
  fraction : Option (List Char)
  exponent : Option (Bool × List Char)
deriving DecidableEq, Repr

/-- The longest run of leading digits whose value fits 64 bits, and the digits
left over. -/
def fillSignificand (significand : Nat) : List Char → Nat × List Char
  | [] => (significand, [])
  | digit :: rest =>
    let longer := significand * 10 + digitValue digit
    if longer ≤ maxUInt64 then fillSignificand longer rest
    else (significand, digit :: rest)

/-- A significand scaled by a power of ten, the power rounded before it is
applied and applied in steps of at most 308 places. -/
def scaleByTen? (number : Binary64) (exponent : Int) : Nat → Option Binary64
  | 0 => some number
  | steps + 1 =>
    if exponent.natAbs ≤ 308 then do
      let power ← Binary64.powerOfTen? exponent.natAbs
      if 0 ≤ exponent then number.mul? power else number.div? power
    else if number.isZero then some number
    else if 0 ≤ exponent then none
    else do
      let power ← Binary64.powerOfTen? 308
      scaleByTen? (← number.div? power) (exponent + 308) steps

def signed (negative : Bool) (magnitude : Binary64) : Binary64 :=
  if negative then ⟨magnitude.bits ||| 0x8000000000000000⟩ else magnitude

/-- The binary number of a numeral, none beyond the finite range. -/
def Numeral.float? (numeral : Numeral) : Option Binary64 := do
  let fraction := numeral.fraction.getD []
  let (significand, unread) := fillSignificand 0 numeral.whole
  let (significand, unreadFraction) := fillSignificand significand fraction
  let place : Int :=
    (unread.length + unreadFraction.length : Nat) - (fraction.length : Int)
  let digits := numeral.exponent.getD (false, [])
  let exponent := valueOfDigits digits.2
  if maxInt32 < exponent then
    if significand ≠ 0 ∧ ¬ digits.1 then none
    else return Binary64.zero numeral.negative
  else
    let power : Int := if digits.1 then place - exponent else place + exponent
    let magnitude ← scaleByTen? (← Binary64.ofInt? significand) power 8
    return signed numeral.negative magnitude

def Numeral.toJson? (numeral : Numeral) : Option Json :=
  let value := valueOfDigits numeral.whole
  let integral :=
    numeral.fraction.isNone && numeral.exponent.isNone &&
      (if numeral.negative then 0 < value && value ≤ maxInt64 + 1
       else value ≤ maxUInt64)
  if integral then
    some (.integer (if numeral.negative then -(value : Int) else value))
  else numeral.float?.map .float

/-! ## Outlines -/

/-- How a container ends: at its bracket, or where the text can not be read
on. -/
inductive Ending where
  | closed
  | broken (rest : List Char)
deriving DecidableEq, Repr

inductive Outline where
  | broken
  | null
  | bool (value : Bool)
  | number (numeral : Numeral)
  | string (pieces : List Piece)
  | array (items : List Outline) (ending : Ending)
  | object (members : List (List Piece × Outline)) (ending : Ending)
deriving Repr, Inhabited

/-- How deep the containers of a value may nest. -/
def depthLimit : Nat := 127

namespace Outline

/-! ## Values -/

mutual

/-- The value that an outline stands for, none if the text breaks off, holds a
string or a number that denotes nothing, or nests containers more than `depth`
deep. -/
def toJson? (depth : Nat) : Outline → Option Json
  | .null => some .null
  | .bool value => some (.bool value)
  | .number numeral => numeral.toJson?
  | .string pieces => (text? pieces).map .string
  | .array items .closed =>
    match depth with
    | 0 => none
    | depth + 1 => (itemsToJson? depth items).map .array
  | .object members .closed =>
    match depth with
    | 0 => none
    | depth + 1 => (membersToJson? depth members).map .object
  | .broken | .array _ (.broken _) | .object _ (.broken _) => none

def itemsToJson? (depth : Nat) : List Outline → Option (List Json)
  | [] => some []
  | item :: rest => do
    let json ← toJson? depth item
    let others ← itemsToJson? depth rest
    return json :: others

def membersToJson? (depth : Nat) :
    List (List Piece × Outline) → Option (List (String × Json))
  | [] => some []
  | (pieces, value) :: rest => do
    let name ← text? pieces
    let json ← toJson? depth value
    let others ← membersToJson? depth rest
    return (name, json) :: others

end

end Outline
end AdmissionGate.Json
