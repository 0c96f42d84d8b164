/-!
# Media types

Whether the media type of a request announces JSON: the type `application` with
the subtype `json` or a subtype that ends in `+json`, in any case, and
well-formed parameters after it.
-/

namespace AdmissionGate.MediaType

/-! ## Tokens -/

def isTokenChar (character : Char) : Bool :=
  character.isAlphanum || character.toNat == 0x60 ||
    ['!', '#', '$', '%', '&', '\'', '*', '+', '-', '.', '^', '_', '|',
      '~'].contains character

/-! ## Parameters -/

inductive ParameterState where
  | start
  | name
  | valueStart
  | value
  | quotedStart
  | quoted
  | afterQuote
deriving DecidableEq, Repr

namespace ParameterState

def inQuotes? (character : Char) : Option ParameterState :=
  if 31 < character.toNat ∧ character.toNat ≠ 127 then some .quoted else none

def next? (state : ParameterState) (character : Char) : Option ParameterState :=
  match state with
  | .start =>
    if character = ' ' then some .start
    else if isTokenChar character then some .name
    else none
  | .name =>
    if character = '=' then some .valueStart
    else if isTokenChar character then some .name else none
  | .valueStart =>
    if character = '"' then some .quotedStart
    else if isTokenChar character then some .value else none
  | .value =>
    if character = ';' then some .start
    else if isTokenChar character then some .value
    else none
  | .quotedStart => inQuotes? character
  | .quoted => if character = '"' then some .afterQuote else inQuotes? character
  | .afterQuote =>
    if character = ';' then some .start
    else if character = ' ' then some .afterQuote
    else none

def isFinal : ParameterState → Bool
  | .start | .valueStart | .value | .afterQuote => true
  | .name | .quotedStart | .quoted => false

end ParameterState

def parametersFrom (state : ParameterState) : List Char → Bool
  | [] => state.isFinal
  | character :: rest =>
    match state.next? character with
    | some state => parametersFrom state rest
    | none => false

/-! ## Types -/

/-- The part after the last plus sign that does not come first. -/
def suffix? (subtype : List Char) : Option (List Char) :=
  let afterPlus := subtype.reverse.takeWhile (· != '+')
  if afterPlus.length + 1 < subtype.length then some afterPlus.reverse else none

def stem (subtype : List Char) : List Char :=
  match suffix? subtype with
  | some suffix => subtype.take (subtype.length - suffix.length - 1)
  | none => subtype

def isJsonName (name : List Char) : Bool :=
  name.map Char.toLower == ['j', 's', 'o', 'n']

def announcesJson (text : String) : Bool :=
  let characters := text.toList
  let type := characters.takeWhile (· != '/')
  match characters.dropWhile (· != '/') with
  | '/' :: rest =>
    let subtype := rest.takeWhile (· != ';')
    let parameters := (rest.dropWhile (· != ';')).drop 1
    String.ofList (type.map Char.toLower) == "application" &&
      !subtype.isEmpty && subtype.all isTokenChar &&
      (isJsonName (stem subtype) || (suffix? subtype).any isJsonName) &&
      characters.all (fun character =>
        32 ≤ character.toNat && character.toNat ≤ 126) &&
      parametersFrom .start parameters
  | _ => false

end AdmissionGate.MediaType
