import AdmissionGate.Text.Printable

/-!
# Quoted text

A text between double quotes, in which quotes, backslashes and characters that
can not be printed are written as escapes.
-/

namespace AdmissionGate.Text

def escapedByNumber (character : Char) : List Char :=
  '\\' :: 'u' :: '\x7b' :: Nat.toDigits 16 character.toNat ++ ['\x7d']

def escaped (character : Char) : List Char :=
  match character with
  | '\x00' => ['\\', '0']
  | '\t' => ['\\', 't']
  | '\r' => ['\\', 'r']
  | '\n' => ['\\', 'n']
  | '"' => ['\\', '"']
  | '\\' => ['\\', '\\']
  | _ =>
    if isPrintable character then [character] else escapedByNumber character

def quoted (text : String) : String :=
  "\"" ++ String.ofList (text.toList.flatMap escaped) ++ "\""

end AdmissionGate.Text
