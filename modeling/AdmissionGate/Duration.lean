import AdmissionGate.Text.Numeral

/-!
# Durations

Lengths of time in nanoseconds, read from forms such as `1h30m`,
`2 hours, 5 minutes ago`, `01:30:00` or `PT1H30M`.  Units of a day or longer
have no fixed length and are refused.
-/

namespace AdmissionGate

structure Duration where
  nanos : Int
deriving DecidableEq, Repr

namespace Duration

open Text

def isPositive (duration : Duration) : Bool := 0 < duration.nanos

/-! ## Units -/

inductive TimeUnit where
  | nanosecond
  | microsecond
  | millisecond
  | second
  | minute
  | hour
deriving DecidableEq, Repr

namespace TimeUnit

def nanos : TimeUnit → Nat
  | .nanosecond => 1
  | .microsecond => 1000
  | .millisecond => 1000000
  | .second => 1000000000
  | .minute => 60000000000
  | .hour => 3600000000000

def labels : List (String × TimeUnit) :=
  ["hours", "hour", "hrs", "hr", "h"].map (·, .hour) ++
  ["minutes", "minute", "mins", "min", "m"].map (·, .minute) ++
  ["seconds", "second", "secs", "sec", "s"].map (·, .second) ++
  ["milliseconds", "millisecond", "millis", "milli", "msecs", "msec", "ms"].map
    (·, .millisecond) ++
  ["microseconds", "microsecond", "micros", "micro", "usecs", "usec", "us",
    "µsecs", "µsec", "µs"].map (·, .microsecond) ++
  ["nanoseconds", "nanosecond", "nanos", "nano", "nsecs", "nsec", "ns"].map
    (·, .nanosecond)

def readLabel? (text : List Char) : Option (TimeUnit × List Char) :=
  let found := labels.filter fun (label, _) => label.toList.isPrefixOf text
  let longest := found.foldl
    (fun best (label, unit) =>
      match best with
      | some (length, held) =>
        if length < label.length then some (label.length, unit)
        else some (length, held)
      | none => some (label.length, unit))
    (none : Option (Nat × TimeUnit))
  longest.map fun (length, unit) => (unit, text.drop length)

def readLetter? : List Char → Option (TimeUnit × List Char)
  | 'H' :: rest | 'h' :: rest => some (.hour, rest)
  | 'M' :: rest | 'm' :: rest => some (.minute, rest)
  | 'S' :: rest | 's' :: rest => some (.second, rest)
  | _ => none

end TimeUnit

/-! ## Items -/

/-- A count of a unit and a number of billionths of it. -/
structure Item where
  unit : TimeUnit
  count : Nat
  billionths : Nat
deriving DecidableEq, Repr

/-- The length of an item; a part below a nanosecond is cut off. -/
def Item.nanos (item : Item) : Nat :=
  item.count * item.unit.nanos + item.billionths * item.unit.nanos / 1000000000

/-- A count of at most 21 digits, zeros in front of it included. -/
def readCount? (text : List Char) : Option (Nat × List Char) :=
  let digits := leadingDigits text
  if digits.isEmpty || 21 < digits.length then none
  else (boundedValue? maxUInt64 digits).map (·, afterDigits text)

/-- A point or comma and one to nine digits, as billionths, if there is one. -/
def readFraction? : List Char → Option (Option Nat × List Char)
  | mark :: rest =>
    if mark = '.' ∨ mark = ',' then
      let digits := leadingDigits rest
      if digits.isEmpty || 9 < digits.length then none
      else
        some (some (valueOfDigits digits * Nat.pow 10 (9 - digits.length)),
          afterDigits rest)
    else some (none, mark :: rest)
  | [] => some (none, [])

def isBlank (character : Char) : Bool :=
  character == ' ' || character == '\t' || character == '\n' ||
    character == '\r' || character == '\x0c'

def skipBlanks (text : List Char) : List Char :=
  text.dropWhile isBlank

def mayFollow (previous : Option TimeUnit) (unit : TimeUnit) : Bool :=
  previous.all fun above => unit.nanos < above.nanos

/-! ## Labelled items -/

/-- Minutes and seconds after hours, with colons between them. -/
def readClock? (hours : Nat) (text : List Char) :
    Option (List Item × List Char) := do
  let (minutes, text) ← readCount? text
  match text with
  | ':' :: text =>
    let (seconds, text) ← readCount? text
    let (fraction, text) ← readFraction? text
    return ([⟨.hour, hours, 0⟩, ⟨.minute, minutes, 0⟩,
      ⟨.second, seconds, fraction.getD 0⟩], text)
  | _ => none

/-- A comma that announces another item, which a blank must follow. -/
def readComma? : List Char → Option (Bool × List Char)
  | ',' :: mark :: rest => if isBlank mark then some (true, rest) else none
  | [','] => none
  | text => some (false, text)

/-- Labelled items from the longest unit to the shortest, at most `limit` of
them.  A fraction ends the list, and so does a text that does not go on with a
digit. -/
def readLabelled? : (limit : Nat) → Option TimeUnit → List Char →
    Option (List Item × List Char)
  | 0, _, _ => none
  | limit + 1, previous, text => do
    let (count, text) ← readCount? text
    match text with
    | ':' :: text => if previous.isNone then readClock? count text else none
    | text =>
      let (fraction, text) ← readFraction? text
      let (unit, text) ← TimeUnit.readLabel? (skipBlanks text)
      let (comma, text) ← readComma? text
      if !mayFollow previous unit ||
          (fraction.isSome && (unit = .nanosecond || comma)) then
        none
      else
        let item : Item := ⟨unit, count, fraction.getD 0⟩
        let next := skipBlanks text
        if fraction.isNone && !(leadingDigits next).isEmpty then
          let (items, text) ← readLabelled? limit (some unit) next
          return (item :: items, text)
        else if comma then none
        else return ([item], text)

/-! ## Designated items -/

def readDesignated? : (limit : Nat) → Option TimeUnit → List Char →
    Option (List Item)
  | 0, _, _ => none
  | limit + 1, previous, text => do
    let (count, text) ← readCount? text
    let (fraction, text) ← readFraction? text
    let (unit, text) ← TimeUnit.readLetter? text
    let item : Item := ⟨unit, count, fraction.getD 0⟩
    if !mayFollow previous unit then none
    else if text.isEmpty then return [item]
    else if fraction.isSome then none
    else return item :: (← readDesignated? limit (some unit) text)

/-! ## Durations -/

def totalNanos : List Item → Nat
  | [] => 0
  | item :: rest => item.nanos + totalNanos rest

/-- The duration of items, if every count and the whole seconds of the total fit
64 bits. -/
def ofItems? (negative : Bool) (items : List Item) : Option Duration :=
  let limit := if negative then maxInt64 + 1 else maxInt64
  let total := totalNanos items
  if (items.all fun item => item.count ≤ limit) &&
      total / 1000000000 ≤ limit then
    some ⟨if negative then -(total : Int) else total⟩
  else none

/-- What may follow labelled items: blanks, and after them the word `ago`. -/
inductive Ending where
  | plain
  | ago

def readEnding? (text : List Char) : Option Ending :=
  match text with
  | [] => some .plain
  | mark :: _ =>
    if isBlank mark then
      match skipBlanks text with
      | [] => some .plain
      | ['a', 'g', 'o'] => some .ago
      | _ => none
    else none

def readSign : List Char → Option Bool × List Char
  | '-' :: rest => (some true, rest)
  | '+' :: rest => (some false, rest)
  | text => (none, text)

def ofText? (text : String) : Option Duration :=
  let (sign, text) := readSign text.toList
  let designated := fun (text : List Char) =>
    match text with
    | 'T' :: rest | 't' :: rest => do
      ofItems? (sign.getD false) (← readDesignated? 6 none rest)
    | _ => none
  match text with
  | 'P' :: rest | 'p' :: rest => designated rest
  | text => do
    let (items, rest) ← readLabelled? 6 none text
    match ← readEnding? rest, sign with
    | .plain, sign => ofItems? (sign.getD false) items
    | .ago, none => ofItems? true items
    | .ago, some _ => none

end Duration
end AdmissionGate
