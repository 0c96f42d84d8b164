import AdmissionGate.Json.Reader

/-!
# Scans

A scan reads a value out of an outline in the order of the text and stops at the
first fault: the text is no JSON there, or it is JSON that does not fit.
Scalars are read before they are judged, containers of the wrong kind are
refused at their opening bracket, and what is passed over need only be well
formed.  The reader ends every container in which something broke off, so that a
value that is passed over needs no look.
-/

namespace AdmissionGate

open Json

inductive ReadFault where
  | malformed
  | unexpected
deriving DecidableEq, Repr

/-- How a value is read, given how deep its containers may nest. -/
abbrev Scan := Nat → Outline → Except ReadFault Json

namespace Scan

/-! ## Scalars -/

/-- The fault at a value that does not fit, whatever it is. -/
def refusal : Outline → ReadFault
  | .array _ _ | .object _ _ => .unexpected
  | outline => if (outline.toJson? 0).isSome then .unexpected else .malformed

def refuse (outline : Outline) : Except ReadFault Json :=
  .error (refusal outline)

def scalar (accepts : Json → Bool) : Scan := fun _ outline =>
  match outline with
  | .array _ _ | .object _ _ => refuse outline
  | outline =>
    match outline.toJson? 0 with
    | some json => if accepts json then .ok json else .error .unexpected
    | none => .error .malformed

/-- Any value, read in full and put into canonical form. -/
def whole : Scan := fun depth outline =>
  match outline.toJson? depth with
  | some json => .ok json.canonical
  | none => .error .malformed

def orNull (scan : Scan) : Scan := fun depth outline =>
  match outline with
  | .null => .ok .null
  | outline => scan depth outline

def name (pieces : List Piece) : Except ReadFault String :=
  match text? pieces with
  | some text => .ok text
  | none => .error .malformed

/-- One of several names, or an object that maps one of them to null.  No other
value is looked into, and an object must end after its one member. -/
def choice (names : List String) : Scan := fun depth outline =>
  match outline, depth with
  | .string pieces, _ => do
    let text ← name pieces
    if names.contains text then return .string text else throw .unexpected
  | .object ((pieces, value) :: others) ending, _ + 1 => do
    let text ← name pieces
    if !names.contains text then throw .unexpected
    match value with
    | .null =>
      if others.isEmpty && ending == .closed then return .object [(text, .null)]
      else throw .malformed
    | value => refuse value
  | .object [] (.broken rest), _ + 1 => refuse (readFirst rest).1
  | _, _ => .error .malformed

/-! ## Collections -/

/-- A container is entered only if it nests no deeper than allowed. -/
def enter {Part : Type} (depth : Nat) (read : Nat → Except ReadFault Part) :
    Except ReadFault Part :=
  match depth with
  | 0 => .error .malformed
  | depth + 1 => read depth

def scanItems (item : Outline → Except ReadFault Json) (ending : Ending) :
    List Outline → Except ReadFault (List Json)
  | [] => if ending = .closed then .ok [] else .error .malformed
  | outline :: rest => do
    let json ← item outline
    let others ← scanItems item ending rest
    return json :: others

def list (item : Scan) : Scan := fun depth outline =>
  match outline with
  | .array items ending =>
    enter depth fun depth => (scanItems (item depth) ending items).map .array
  | outline => refuse outline

def scanEntries (entry : Outline → Except ReadFault Json) (ending : Ending) :
    List (List Piece × Outline) → Except ReadFault (List (String × Json))
  | [] => if ending = .closed then .ok [] else .error .malformed
  | (pieces, value) :: rest => do
    let key ← name pieces
    let json ← entry value
    let others ← scanEntries entry ending rest
    return (key, json) :: others

/-- Of equal keys the last one counts. -/
def dict (entry : Scan) : Scan := fun depth outline =>
  match outline with
  | .object members ending =>
    enter depth fun depth =>
      (scanEntries (entry depth) ending members).map fun entries =>
        .object (sortEntries entries)
  | outline => refuse outline

/-! ## Records -/

/-- How the members of a record are read: the known ones, each as it comes,
whether one of them may stand again, and whether the other members are read in
full. -/
structure Plan where
  known : List (String × Scan)
  mayRepeat : Bool
  readsOthers : Bool

namespace Plan

def scanMembers (plan : Plan) (depth : Nat) (ending : Ending)
    (seen : List String) :
    List (List Piece × Outline) → Except ReadFault (List (String × Json))
  | [] => if ending = .closed then .ok [] else .error .malformed
  | (pieces, value) :: rest => do
    let key ← name pieces
    match lookUp? key plan.known with
    | some scan =>
      if seen.contains key && !plan.mayRepeat then throw .unexpected
      let json ← scan depth value
      let others ← plan.scanMembers depth ending (key :: seen) rest
      return (key, json) :: others
    | none =>
      if plan.readsOthers then
        let json ← whole depth value
        let others ← plan.scanMembers depth ending seen rest
        return (key, json) :: others
      else plan.scanMembers depth ending seen rest

/-- The items of an array that lists the known members in order.  It may end
early, but nothing may follow the last member. -/
def scanListed (depth : Nat) (ending : Ending) :
    List (String × Scan) → List Outline → Except ReadFault (List Json)
  | _, [] => if ending = .closed then .ok [] else .error .malformed
  | [], _ :: _ => .error .malformed
  | (_, scan) :: known, outline :: rest => do
    let json ← scan depth outline
    let others ← scanListed depth ending known rest
    return json :: others

def judge (fits : Json → Bool) (json : Json) : Except ReadFault Json :=
  if fits json then .ok json else .error .unexpected

/-- A record that is read from objects only and is judged at its end. -/
def object (plan : Plan) (fits : Json → Bool) : Scan := fun depth outline =>
  match outline with
  | .object members ending => do
    let members ← enter depth fun depth =>
      plan.scanMembers depth ending [] members
    judge fits
      (.object (if plan.mayRepeat then sortEntries members else members))
  | outline => refuse outline

def record (plan : Plan) (fits : Json → Bool) : Scan := fun depth outline =>
  match outline with
  | .array items ending => do
    let items ← enter depth fun depth =>
      scanListed depth ending plan.known items
    judge fits (.array items)
  | outline => plan.object fits depth outline

end Plan
end Scan
end AdmissionGate
