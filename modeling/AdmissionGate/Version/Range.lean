import AdmissionGate.Version

/-!
# Version ranges

Conditions on versions: a range of one to 32 comparators that must all hold, or
a bare version that allows itself alone.
-/

namespace AdmissionGate.Version

open Text

/-! ## Comparators -/

inductive Relation where
  | exact
  | greater
  | greaterOrEqual
  | less
  | lessOrEqual
  | tilde
  | caret
deriving DecidableEq, Repr

/-- A relation to a version whose last numbers may be missing.  A release is
above all of its own pre-releases, so all that matters of a pre-release is that
there is one. -/
structure Comparator where
  relation : Relation
  major : Nat
  minor : Option Nat
  patch : Option Nat
  preRelease : Bool
deriving DecidableEq, Repr

namespace Comparator

def agrees (wanted : Option Nat) (found : Nat) : Bool :=
  wanted.all (· == found)

def isExact (comparator : Comparator) (version : Version) : Bool :=
  version.major == comparator.major && agrees comparator.minor version.minor &&
    agrees comparator.patch version.patch && !comparator.preRelease

def isAbove (comparator : Comparator) (version : Version) : Bool :=
  if version.major ≠ comparator.major then comparator.major < version.major
  else
    match comparator.minor with
    | none => false
    | some minor =>
      if version.minor ≠ minor then minor < version.minor
      else
        match comparator.patch with
        | none => false
        | some patch =>
          if version.patch ≠ patch then patch < version.patch
          else comparator.preRelease

def isBelow (comparator : Comparator) (version : Version) : Bool :=
  if version.major ≠ comparator.major then version.major < comparator.major
  else
    match comparator.minor with
    | none => false
    | some minor =>
      if version.minor ≠ minor then version.minor < minor
      else
        match comparator.patch with
        | none => false
        | some patch => version.patch < patch

def isNear (comparator : Comparator) (version : Version) : Bool :=
  version.major == comparator.major && agrees comparator.minor version.minor &&
    comparator.patch.all (· ≤ version.patch)

/-- Whether the version keeps the leftmost number that is not zero and is no
lower. -/
def isCompatible (comparator : Comparator) (version : Version) : Bool :=
  version.major == comparator.major &&
    match comparator.minor, comparator.patch with
    | none, _ => true
    | some minor, none =>
      if 0 < comparator.major then minor ≤ version.minor
      else version.minor == minor
    | some minor, some patch =>
      if 0 < comparator.major then
        if version.minor ≠ minor then minor < version.minor
        else patch ≤ version.patch
      else if 0 < minor then version.minor == minor && patch ≤ version.patch
      else version.minor == minor && version.patch == patch

def admits (comparator : Comparator) (version : Version) : Bool :=
  match comparator.relation with
  | .exact => comparator.isExact version
  | .greater => comparator.isAbove version
  | .greaterOrEqual => comparator.isExact version || comparator.isAbove version
  | .less => comparator.isBelow version
  | .lessOrEqual => comparator.isExact version || comparator.isBelow version
  | .tilde => comparator.isNear version
  | .caret => comparator.isCompatible version

end Comparator

/-! ## Reading comparators -/

def isWildcard (character : Char) : Bool :=
  character == '*' || character == 'x' || character == 'X'

def skipSpaces (text : List Char) : List Char :=
  text.dropWhile (· == ' ')

def readRelation : List Char → Option Relation × List Char
  | '=' :: rest => (some .exact, rest)
  | '>' :: '=' :: rest => (some .greaterOrEqual, rest)
  | '>' :: rest => (some .greater, rest)
  | '<' :: '=' :: rest => (some .lessOrEqual, rest)
  | '<' :: rest => (some .less, rest)
  | '~' :: rest => (some .tilde, rest)
  | '^' :: rest => (some .caret, rest)
  | text => (none, text)

def readNumeral? (text : List Char) : Option (Nat × List Char) := do
  return (← numeral? (leadingDigits text), afterDigits text)

/-- A number of a version that may be missing or a wildcard. -/
inductive Part where
  | missing
  | wildcard
  | number (value : Nat)
deriving DecidableEq, Repr

def Part.value? : Part → Option Nat
  | .number value => some value
  | .missing | .wildcard => none

def readPart? : List Char → Option (Part × List Char)
  | '.' :: mark :: rest =>
    if isWildcard mark then some (.wildcard, rest)
    else
      (readNumeral? (mark :: rest)).map fun (value, rest) =>
        (.number value, rest)
  | ['.'] => none
  | text => some (.missing, text)

def isIdentifierChar (character : Char) : Bool :=
  character.isAlphanum || character == '-' || character == '.'

/-- A dotted identifier without empty segments; with `plainNumbers` a segment of
digits alone has no leading zero. -/
def readIdentifier? (plainNumbers : Bool) (text : List Char) :
    Option (List Char) :=
  let wellFormed := fun (segment : List Char) =>
    !segment.isEmpty &&
      !(plainNumbers && segment.all Char.isDigit && 1 < segment.length &&
        segment.head? == some '0')
  if (splitParts '.' (text.takeWhile isIdentifierChar)).all wellFormed then
    some (text.dropWhile isIdentifierChar)
  else none

def readPreRelease? (patch : Part) : List Char → Option (Bool × List Char)
  | '-' :: rest =>
    if patch.value?.isSome then (readIdentifier? true rest).map (true, ·)
    else some (false, '-' :: rest)
  | text => some (false, text)

def readBuild? (patch : Part) : List Char → Option (List Char)
  | '+' :: rest =>
    if patch.value?.isSome then readIdentifier? false rest
    else some ('+' :: rest)
  | text => some text

/-- A comparator and the text after it.  Without a sign it is a caret, or an
equality if it has a wildcard; after a wildcard only a wildcard may follow. -/
def readComparator? (text : List Char) : Option (Comparator × List Char) := do
  let (relation, text) := readRelation text
  let (major, text) ← readNumeral? (skipSpaces text)
  let (minor, text) ← readPart? text
  let (patch, text) ←
    if minor = .missing then some (Part.missing, text) else readPart? text
  if minor = .wildcard ∧ patch.value?.isSome then none
  else
    let (preRelease, text) ← readPreRelease? patch text
    let text ← readBuild? patch text
    let unsigned :=
      if minor = .wildcard ∨ patch = .wildcard then Relation.exact else .caret
    return (⟨relation.getD unsigned, major, minor.value?, patch.value?,
      preRelease⟩, skipSpaces text)

/-! ## Ranges -/

/-- All comparators must hold; an empty list allows every version. -/
def Range := List Comparator

def Range.admits (range : Range) (version : Version) : Bool :=
  List.all range (·.admits version)

/-- At most `count` comparators with commas between them. -/
def readComparators? : (count : Nat) → List Char → Option (List Comparator)
  | 0, _ => none
  | count + 1, text => do
    let (comparator, text) ← readComparator? text
    match text with
    | [] => return [comparator]
    | ',' :: rest =>
      return comparator :: (← readComparators? count (skipSpaces rest))
    | _ => none

def Range.ofText? (text : List Char) : Option Range :=
  match skipSpaces text with
  | mark :: rest =>
    if isWildcard mark then if (skipSpaces rest).isEmpty then some [] else none
    else readComparators? 32 (mark :: rest)
  | [] => none

/-- How ranges are read, as the versions that they let in. -/
class RangeReader where
  read? : List Char → Option (Version → Bool)

instance : RangeReader where
  read? text := (Range.ofText? text).map Range.admits

/-! ## Constraints -/

/-- Whether a text has the look of a bare version: letters, digits, points,
hyphens and plus signs after a digit or the letter v. -/
def looksBare (text : List Char) : Bool :=
  text.all (fun character =>
      character.isAlphanum || character == '.' || character == '-' ||
        character == '+') &&
    text.head?.any fun head => head.isDigit || head == 'v'

def bareVersion? (constraint : String) : Option Version :=
  if looksBare (trim constraint.toList) then ofText? constraint else none

def satisfies? [RangeReader] (text constraint : String) : Option Bool := do
  let version ← ofText? text
  match bareVersion? constraint with
  | some exact => return version == exact
  | none => return (← RangeReader.read? (trim constraint.toList)) version

/-- Whether a version satisfies a constraint; what cannot be read is satisfied
by nothing. -/
def satisfies [RangeReader] (text constraint : String) : Bool :=
  (satisfies? text constraint).getD false

end AdmissionGate.Version
