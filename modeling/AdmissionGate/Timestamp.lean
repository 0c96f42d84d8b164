import AdmissionGate.Json.Codec
import AdmissionGate.Text.Blank

/-!
# Timestamps

Points in time, read in the form of RFC 3339 with some freedom in spacing.  They
are kept and written in Coordinated Universal Time.  A fraction of a second is
kept to the nanosecond and not written.  A leap second is written as second 60.
-/

namespace AdmissionGate

structure Timestamp where
  year : Int
  month : Nat
  day : Nat
  hour : Nat
  minute : Nat
  second : Nat
  nanosecond : Nat
deriving DecidableEq, Repr

namespace Timestamp

open Text

/-! ## The calendar -/

def isLeapYear (year : Int) : Bool :=
  year % 4 == 0 && (year % 100 != 0 || year % 400 == 0)

def daysInMonth (year : Int) (month : Nat) : Nat :=
  if month = 2 then (if isLeapYear year then 29 else 28)
  else if month = 4 ∨ month = 6 ∨ month = 9 ∨ month = 11 then 30
  else 31

structure Date where
  year : Int
  month : Nat
  day : Nat
deriving DecidableEq, Repr

def Date.next (date : Date) : Date :=
  if date.day < daysInMonth date.year date.month then
    { date with day := date.day + 1 }
  else if date.month < 12 then ⟨date.year, date.month + 1, 1⟩
  else ⟨date.year + 1, 1, 1⟩

def Date.previous (date : Date) : Date :=
  if 1 < date.day then { date with day := date.day - 1 }
  else if 1 < date.month then
    ⟨date.year, date.month - 1, daysInMonth date.year (date.month - 1)⟩
  else ⟨date.year - 1, 12, 31⟩

def Date.inRange (date : Date) : Bool :=
  -262143 ≤ date.year && date.year ≤ 262142

/-! ## Reading -/

/-- A run of one to `width` digits after optional blanks. -/
def readPart? (width : Nat) (text : List Char) : Option (Nat × List Char) :=
  let text := trimStart text
  let digits := (leadingDigits text).take width
  if digits.isEmpty then none
  else some (valueOfDigits digits, text.drop digits.length)

/-- A year of up to four digits, or of any length after a sign. -/
def readYear? (text : List Char) : Option (Int × List Char) :=
  let signedYear := fun (negative : Bool) (rest : List Char) =>
    if (leadingDigits rest).isEmpty then none
    else
      let year : Int := valueOfDigits (leadingDigits rest)
      some (if negative then -year else year, afterDigits rest)
  match trimStart text with
  | '-' :: rest => signedYear true rest
  | '+' :: rest => signedYear false rest
  | text => (readPart? 4 text).map fun (year, rest) => (Int.ofNat year, rest)

def readMark? (mark : Char) (text : List Char) : Option (List Char) :=
  match trimStart text with
  | found :: rest => if found = mark then some rest else none
  | [] => none

def readDate? (text : List Char) : Option (Date × List Char) := do
  let (year, text) ← readYear? text
  let text ← readMark? '-' text
  let (month, text) ← readPart? 2 text
  let text ← readMark? '-' text
  let (day, text) ← readPart? 2 text
  let date : Date := ⟨year, month, day⟩
  if date.inRange && 1 ≤ month && month ≤ 12 && 1 ≤ day &&
      day ≤ daysInMonth year month then
    return (date, text)
  else none

/-- A fraction of a second in nanoseconds.  It needs a digit after its point;
those after the ninth are passed over. -/
def readFraction? : List Char → Option (Nat × List Char)
  | '.' :: rest =>
    let digits := (leadingDigits rest).take 9
    if digits.isEmpty then none
    else
      some (valueOfDigits digits * Nat.pow 10 (9 - digits.length),
        afterDigits rest)
  | text => some (0, text)

structure Clock where
  hour : Nat
  minute : Nat
  second : Nat
  nanosecond : Nat
deriving DecidableEq, Repr

def readClock? (text : List Char) : Option (Clock × List Char) := do
  let (hour, text) ← readPart? 2 text
  let text ← readMark? ':' text
  let (minute, text) ← readPart? 2 text
  let text ← readMark? ':' text
  let (second, text) ← readPart? 2 text
  let (nanosecond, text) ← readFraction? text
  if hour ≤ 23 && minute ≤ 59 && second ≤ 60 then
    return (⟨hour, minute, second, nanosecond⟩, text)
  else none

/-- The minutes east of universal time: the letter Z, the letters UTC, or a
signed offset of two digits of hours and two of minutes, with colons and blanks
between them. -/
def readOffset? (text : List Char) : Option (Int × List Char) :=
  let signedOffset := fun (sign : Int) (text : List Char) =>
    match text with
    | h :: i :: rest =>
      match rest.dropWhile fun character =>
        character == ':' || isBlank character with
      | m :: n :: rest =>
        if [h, i, m, n].all Char.isDigit && digitValue m ≤ 5 &&
            valueOfDigits [h, i] ≤ 23 then
          some (sign * (valueOfDigits [h, i] * 60 + valueOfDigits [m, n] : Nat),
            rest)
        else none
      | _ => none
    | _ => none
  match text with
  | 'Z' :: rest | 'z' :: rest => some (0, rest)
  | '+' :: rest => signedOffset 1 rest
  | '-' :: rest => signedOffset (-1) rest
  | '−' :: rest => signedOffset (-1) rest
  | u :: t :: c :: rest =>
    if [u, t, c].map Char.toUpper = ['U', 'T', 'C'] then some (0, rest)
    else none
  | _ => none

/-- The time in universal time of a date and clock at an offset of less than a
day. -/
def atOffset (date : Date) (clock : Clock) (offset : Int) : Timestamp :=
  let minutes : Int := (clock.hour * 60 + clock.minute : Nat) - offset
  let date :=
    if minutes < 0 then date.previous
    else if 1440 ≤ minutes then date.next
    else date
  let minutes := (minutes % 1440).toNat
  ⟨date.year, date.month, date.day, minutes / 60, minutes % 60, clock.second,
    clock.nanosecond⟩

def date (timestamp : Timestamp) : Date :=
  ⟨timestamp.year, timestamp.month, timestamp.day⟩

def ofText? (text : String) : Option Timestamp := do
  let (date, text) ← readDate? text.toList
  let text ←
    match text with
    | 'T' :: rest | 't' :: rest | ' ' :: rest => some rest
    | _ => none
  let (clock, text) ← readClock? text
  let (offset, text) ← readOffset? (trimStart text)
  let timestamp := atOffset date clock offset
  if (trimStart text).isEmpty && timestamp.date.inRange then return timestamp
  else none

/-! ## Writing -/

def padded (width : Nat) (value : Nat) : String :=
  let digits := toString value
  String.ofList (List.replicate (width - digits.length) '0') ++ digits

/-- Years of four digits stand alone; all others carry a sign. -/
def yearText (year : Int) : String :=
  if 0 ≤ year ∧ year ≤ 9999 then padded 4 year.toNat
  else (if year < 0 then "-" else "+") ++ padded 4 year.natAbs

def toText (timestamp : Timestamp) : String :=
  yearText timestamp.year ++ "-" ++ padded 2 timestamp.month ++ "-" ++
    padded 2 timestamp.day ++ "T" ++ padded 2 timestamp.hour ++ ":" ++
    padded 2 timestamp.minute ++ ":" ++ padded 2 timestamp.second ++ "Z"

def codec : Codec Timestamp where
  encode timestamp := .string timestamp.toText
  decode? json := json.string?.bind ofText?

end Timestamp
end AdmissionGate
