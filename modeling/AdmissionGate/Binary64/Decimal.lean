import AdmissionGate.Binary64

/-!
# Shortest decimal text

The decimal with the fewest digits among those that read back as a given number,
the nearest of them if there are two, and its text under a choice of layout.
-/

namespace AdmissionGate.Binary64

/-! ## Shortest decimals -/

/-- The number `digits * 10 ^ place`. -/
structure Decimal where
  digits : Nat
  place : Int
deriving DecidableEq, Repr

/-- The multiple of a power of ten that reads back as the number, the nearer one
of two.  The interval of decimals that read back reaches half a place of the
format to either side, only a quarter below a power of two, and includes its
ends when the significand is even. -/
def onGrid? (number : Binary64) (place : Int) : Option Nat :=
  let significand := number.significand
  let quarter := number.scale - 2
  let unit := Nat.pow 2 quarter.toNat * Nat.pow 10 (-place).toNat
  let step := Nat.pow 2 (-quarter).toNat * Nat.pow 10 place.toNat
  let middle := 4 * significand * unit
  let reach :=
    if significand = exponentWeight && 1 < number.exponentField then 1 else 2
  let low := (4 * significand - reach) * unit
  let high := (4 * significand + 2) * unit
  let readsBack := fun point =>
    if significand % 2 = 0 then low ≤ point * step && point * step ≤ high
    else low < point * step && point * step < high
  let below := middle / step
  if readsBack below then
    if readsBack (below + 1) then
      let twice := (2 * below + 1) * step
      if 2 * middle < twice then some below
      else if twice < 2 * middle then some (below + 1)
      else some (below + below % 2)
    else some below
  else if readsBack (below + 1) then some (below + 1)
  else none

/-- The first grid that holds a decimal, going down from a place, over a number
of grids. -/
def firstOnGrid (number : Binary64) : Nat → Int → Decimal
  | 0, place => ⟨(number.onGrid? place).getD 0, place⟩
  | grids + 1, place =>
    match number.onGrid? place with
    | some digits => ⟨digits, place⟩
    | none => firstOnGrid number grids (place - 1)

def placeAbove (number : Binary64) : Int :=
  let binary : Int := number.significand.log2 + 1 + number.scale
  if 0 ≤ binary then binary * 30103 / 100000 + 1
  else -(-binary * 30102 / 100000)

def shortest (number : Binary64) : Decimal :=
  if number.isZero then ⟨0, 0⟩ else firstOnGrid number 24 number.placeAbove

/-! ## Layouts -/

/-- The decimal exponents that are written without an exponent part, and whether
a positive exponent carries a sign. -/
structure Layout where
  leastPositional : Int
  greatestPositional : Int
  plusSign : Bool
deriving DecidableEq, Repr

def zeros (count : Nat) : String :=
  String.ofList (List.replicate count '0')

def exponentText (layout : Layout) (exponent : Int) : String :=
  if exponent < 0 then "-" ++ toString exponent.natAbs
  else if layout.plusSign then "+" ++ toString exponent.natAbs
  else toString exponent.natAbs

/-- The text of a decimal that is not negative; a positional one always has a
fraction part. -/
def Decimal.render (layout : Layout) (decimal : Decimal) : String :=
  let digits := (toString decimal.digits).toList
  let exponent := decimal.place + digits.length - 1
  if decimal.digits = 0 then "0.0"
  else if layout.leastPositional ≤ exponent &&
      exponent ≤ layout.greatestPositional then
    if exponent < 0 then
      "0." ++ zeros (-exponent - 1).toNat ++ String.ofList digits
    else if 0 ≤ decimal.place then
      String.ofList digits ++ zeros decimal.place.toNat ++ ".0"
    else
      let whole := (exponent + 1).toNat
      String.ofList (digits.take whole) ++ "." ++
        String.ofList (digits.drop whole)
  else
    let fraction := digits.drop 1
    String.ofList (digits.take 1) ++
      (if fraction.isEmpty then "" else "." ++ String.ofList fraction) ++
      "e" ++ exponentText layout exponent

def render (layout : Layout) (number : Binary64) : String :=
  (if number.isNegative then "-" else "") ++ number.shortest.render layout

end AdmissionGate.Binary64
