import AdmissionGate.Binary64.Decimal
import AdmissionGate.Json

/-!
# JSON text

The compact text of a JSON value: no blanks, object members in key order,
control characters and the two marks that strings reserve written as escapes.
-/

namespace AdmissionGate.Json

/-! ## Strings -/

def hexDigits (value : Nat) : List Char :=
  Nat.toDigits 16 value

def escapedChar (character : Char) : List Char :=
  match character with
  | '"' => ['\\', '"']
  | '\\' => ['\\', '\\']
  | '\x08' => ['\\', 'b']
  | '\x0c' => ['\\', 'f']
  | '\n' => ['\\', 'n']
  | '\r' => ['\\', 'r']
  | '\t' => ['\\', 't']
  | _ =>
    if character.toNat < 0x10 then
      '\\' :: 'u' :: '0' :: '0' :: '0' :: hexDigits character.toNat
    else if character.toNat < 0x20 then
      '\\' :: 'u' :: '0' :: '0' :: hexDigits character.toNat
    else [character]

def quoted (text : String) : String :=
  "\"" ++ String.ofList (text.toList.flatMap escapedChar) ++ "\""

/-! ## Values -/

/-- Numbers with a fraction or exponent are positional from 0.00001 up to
sixteen digits. -/
def floatLayout : Binary64.Layout where
  leastPositional := -5
  greatestPositional := 15
  plusSign := true

mutual

def renderOrdered : Json → String
  | .null => "null"
  | .bool true => "true"
  | .bool false => "false"
  | .integer value => toString value
  | .float value => value.render floatLayout
  | .string value => quoted value
  | .array items => "[" ++ ",".intercalate (renderItems items) ++ "]"
  | .object members =>
    "\x7b" ++ ",".intercalate (renderMembers members) ++ "\x7d"

def renderItems : List Json → List String
  | [] => []
  | item :: rest => renderOrdered item :: renderItems rest

def renderMembers : List (String × Json) → List String
  | [] => []
  | (key, value) :: rest =>
    (quoted key ++ ":" ++ renderOrdered value) :: renderMembers rest

end

def render (json : Json) : String :=
  json.canonical.renderOrdered

end AdmissionGate.Json
