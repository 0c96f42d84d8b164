/-!
# Request targets

The path that the target of a request names.  A target is a path, or it has a
scheme and an authority before the path, or it is an authority alone; a query
and a fragment may follow a path.
-/

namespace AdmissionGate.Target

/-! ## Characters -/

def isOneOf (characters : String) (character : Char) : Bool :=
  characters.toList.contains character

def isPathChar (character : Char) : Bool :=
  0x20 < character.toNat && !isOneOf "<>`" character

def isQueryChar (character : Char) : Bool :=
  0x20 < character.toNat && !isOneOf "<>\"" character

def isSchemeChar (character : Char) : Bool :=
  character.isAlphanum || isOneOf "+-.~" character

def isAuthorityChar (character : Char) : Bool :=
  character.isAlphanum || isOneOf "!$&'()*+,-.;=_~" character

/-! ## Paths -/

/-- The path that a text begins with; it is the root if it is empty.  What
stands behind a number sign is not looked at. -/
def pathOf? (text : List Char) : Option String :=
  let text := text.takeWhile (· != '#')
  let path := text.takeWhile (· != '?')
  let query := (text.dropWhile (· != '?')).drop 1
  if path.all isPathChar && query.all isQueryChar then
    some (if path.isEmpty then "/" else String.ofList path)
  else none

/-! ## Authorities -/

/-- How far an authority has been read.  An at sign and a closing bracket forget
the colons and the percent signs before them. -/
structure AuthorityState where
  colons : Nat := 0
  opened : Bool := false
  closed : Bool := false
  percent : Bool := false
  afterAt : Bool := false
deriving DecidableEq, Repr

namespace AuthorityState

def next? (state : AuthorityState) (character : Char) : Option AuthorityState :=
  let state := { state with afterAt := false }
  match character with
  | ':' =>
    if 8 ≤ state.colons then none
    else some { state with colons := state.colons + 1 }
  | '[' =>
    if state.percent || state.opened then none
    else some { state with opened := true }
  | ']' =>
    if !state.opened || state.closed then none
    else some { state with closed := true, colons := 0, percent := false }
  | '@' => some { state with colons := 0, percent := false, afterAt := true }
  | '%' => some { state with percent := true }
  | character => if isAuthorityChar character then some state else none

def isFinal (state : AuthorityState) : Bool :=
  state.opened == state.closed && state.colons ≤ 1 && !state.afterAt &&
    !state.percent

end AuthorityState

def endsAuthority (character : Char) : Bool := isOneOf "/?#" character

def isAuthority (text : List Char) : Bool :=
  !text.isEmpty &&
    (text.foldlM AuthorityState.next? {}).any AuthorityState.isFinal

def pathAfterAuthority? (text : List Char) : Option String :=
  if isAuthority (text.takeWhile fun character => !endsAuthority character) then
    pathOf? (text.dropWhile fun character => !endsAuthority character)
  else none

/-! ## Targets -/

/-- The scheme of a text and what follows it, if the text has a scheme. -/
def scheme? (text : List Char) : Option (List Char × List Char) :=
  match text.dropWhile isSchemeChar with
  | ':' :: '/' :: '/' :: rest => some (text.takeWhile isSchemeChar, rest)
  | _ => none

def longestScheme : Nat := 64

def longestTarget : Nat := 65534

/-- The path of a target, none if the text is no target.  An authority alone has
an empty path. -/
def path? (target : String) : Option String :=
  if longestTarget < target.utf8ByteSize then none
  else
    match target.toList with
    | ['*'] => some "*"
    | '/' :: rest => pathOf? ('/' :: rest)
    | text =>
      match scheme? text with
      | some (scheme, rest) =>
        if scheme.length ≤ longestScheme then pathAfterAuthority? rest else none
      | none => if isAuthority text then some "" else none

end AdmissionGate.Target
