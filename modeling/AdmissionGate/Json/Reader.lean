import AdmissionGate.Json.Outline

/-!
# Reading JSON

A reader of JSON text.  It goes on as long as the text is well formed, passes no
judgement on what strings and numbers denote, and leaves an outline of what it
has read.
-/

namespace AdmissionGate.Json

open Text

/-! ## Blanks and literals -/

def isGap (character : Char) : Bool :=
  character == ' ' || character == '\n' || character == '\t' ||
    character == '\r'

def skipGap (text : List Char) : List Char :=
  text.dropWhile isGap

def dropLiteral? : List Char → List Char → Option (List Char)
  | [], text => some text
  | expected :: literal, found :: text =>
    if expected = found then dropLiteral? literal text else none
  | _ :: _, [] => none

/-! ## Strings -/

def hexValue? (character : Char) : Option Nat :=
  if '0' ≤ character ∧ character ≤ '9' then some (character.toNat - '0'.toNat)
  else if 'a' ≤ character ∧ character ≤ 'f' then
    some (character.toNat - 'a'.toNat + 10)
  else if 'A' ≤ character ∧ character ≤ 'F' then
    some (character.toNat - 'A'.toNat + 10)
  else none

def hexUnit? (first second third fourth : Char) : Option Nat := do
  let first ← hexValue? first
  let second ← hexValue? second
  let third ← hexValue? third
  let fourth ← hexValue? fourth
  return ((first * 16 + second) * 16 + third) * 16 + fourth

def simpleEscape? : Char → Option Char
  | '"' => some '"'
  | '\\' => some '\\'
  | '/' => some '/'
  | 'b' => some '\x08'
  | 'f' => some '\x0c'
  | 'n' => some '\n'
  | 'r' => some '\r'
  | 't' => some '\t'
  | _ => none

def readPieces? : List Char → Option (List Piece × List Char)
  | '"' :: rest => some ([], rest)
  | '\\' :: 'u' :: a :: b :: c :: d :: rest => do
    let unit ← hexUnit? a b c d
    let (pieces, rest) ← readPieces? rest
    return (.unit unit :: pieces, rest)
  | '\\' :: escape :: rest => do
    let character ← simpleEscape? escape
    let (pieces, rest) ← readPieces? rest
    return (.plain character :: pieces, rest)
  | character :: rest =>
    if character.toNat < 0x20 || character = '\\' then none
    else do
      let (pieces, rest) ← readPieces? rest
      return (.plain character :: pieces, rest)
  | [] => none

/-! ## Numbers -/

def readFraction? : List Char → Option (Option (List Char) × List Char)
  | '.' :: rest =>
    if (leadingDigits rest).isEmpty then none
    else some (some (leadingDigits rest), afterDigits rest)
  | text => some (none, text)

def readExponent? : List Char → Option (Option (Bool × List Char) × List Char)
  | mark :: rest =>
    if mark = 'e' ∨ mark = 'E' then
      let (negative, digits) :=
        match rest with
        | '-' :: digits => (true, digits)
        | '+' :: digits => (false, digits)
        | digits => (false, digits)
      if (leadingDigits digits).isEmpty then none
      else some (some (negative, leadingDigits digits), afterDigits digits)
    else some (none, mark :: rest)
  | [] => some (none, [])

/-- A numeral has no leading zero before another digit. -/
def readNumeral? (text : List Char) : Option (Numeral × List Char) := do
  let (negative, text) :=
    match text with
    | '-' :: rest => (true, rest)
    | text => (false, text)
  let whole := leadingDigits text
  if whole.isEmpty || (whole.head? == some '0' && whole.length != 1) then none
  else
    let (fraction, text) ← readFraction? (afterDigits text)
    let (exponent, text) ← readExponent? text
    return (⟨negative, whole, fraction, exponent⟩, text)

/-! ## Values -/

/-- A scalar and what follows it, or the place where the text breaks off. -/
def readScalar : Option (Outline × List Char) → Outline × Option (List Char)
  | some (outline, rest) => (outline, some rest)
  | none => (.broken, none)

mutual

/-- One value at the head of a text and what follows it; nothing follows where
the text breaks off.  The fuel bounds the number of steps. -/
def readValue (fuel : Nat) (text : List Char) : Outline × Option (List Char) :=
  match fuel with
  | 0 => (.broken, none)
  | fuel + 1 =>
    match skipGap text with
    | 'n' :: rest =>
      readScalar ((dropLiteral? ['u', 'l', 'l'] rest).map (.null, ·))
    | 't' :: rest =>
      readScalar ((dropLiteral? ['r', 'u', 'e'] rest).map (.bool true, ·))
    | 'f' :: rest =>
      readScalar
        ((dropLiteral? ['a', 'l', 's', 'e'] rest).map (.bool false, ·))
    | '"' :: rest =>
      readScalar
        ((readPieces? rest).map fun (pieces, rest) => (.string pieces, rest))
    | '[' :: rest =>
      match skipGap rest with
      | ']' :: rest => (.array [] .closed, some rest)
      | rest =>
        let (items, ending, rest) := readItems fuel rest
        (.array items ending, rest)
    | '\x7b' :: rest =>
      match skipGap rest with
      | '\x7d' :: rest => (.object [] .closed, some rest)
      | rest =>
        let (members, ending, rest) := readMembers fuel rest
        (.object members ending, rest)
    | rest =>
      readScalar
        ((readNumeral? rest).map fun (numeral, rest) => (.number numeral, rest))

def readItems (fuel : Nat) (text : List Char) :
    List Outline × Ending × Option (List Char) :=
  match fuel with
  | 0 => ([], .broken text, none)
  | fuel + 1 =>
    match readValue fuel text with
    | (item, none) => ([item], .broken [], none)
    | (item, some rest) =>
      match skipGap rest with
      | ']' :: rest => ([item], .closed, some rest)
      | ',' :: rest =>
        let (items, ending, rest) := readItems fuel rest
        (item :: items, ending, rest)
      | rest => ([item], .broken rest, none)

def readMembers (fuel : Nat) (text : List Char) :
    List (List Piece × Outline) × Ending × Option (List Char) :=
  match fuel with
  | 0 => ([], .broken text, none)
  | fuel + 1 =>
    match skipGap text with
    | '"' :: rest =>
      match readPieces? rest with
      | none => ([], .broken ('"' :: rest), none)
      | some (name, rest) =>
        match skipGap rest with
        | ':' :: rest =>
          match readValue fuel rest with
          | (value, none) => ([(name, value)], .broken [], none)
          | (value, some rest) =>
            match skipGap rest with
            | '\x7d' :: rest => ([(name, value)], .closed, some rest)
            | ',' :: rest =>
              let (members, ending, rest) := readMembers fuel rest
              ((name, value) :: members, ending, rest)
            | rest => ([(name, value)], .broken rest, none)
        | _ => ([(name, .broken)], .broken [], none)
    | rest => ([], .broken rest, none)

end

def readFirst (text : List Char) : Outline × Option (List Char) :=
  readValue (2 * text.length + 2) text

def endsHere (rest : Option (List Char)) : Bool :=
  rest.any fun rest => (skipGap rest).isEmpty

def ofText? (text : String) : Option Json :=
  let (outline, rest) := readFirst text.toList
  if endsHere rest then outline.toJson? depthLimit else none

end AdmissionGate.Json
