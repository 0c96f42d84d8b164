/-!
# Blank characters

The characters of the Unicode class White_Space, and cutting them off the ends
of a text.
-/

namespace AdmissionGate.Text

/-! ## The class -/

def isBlank (character : Char) : Bool :=
  let code := character.toNat
  (0x09 ≤ code && code ≤ 0x0D) || code == 0x20 || code == 0x85 ||
    code == 0xA0 || code == 0x1680 || (0x2000 ≤ code && code ≤ 0x200A) ||
    code == 0x2028 || code == 0x2029 || code == 0x202F || code == 0x205F ||
    code == 0x3000

/-! ## Trimming -/

def trimStart (text : List Char) : List Char :=
  text.dropWhile isBlank

def trimEnd (text : List Char) : List Char :=
  (text.reverse.dropWhile isBlank).reverse

def trim (text : List Char) : List Char :=
  trimEnd (trimStart text)

theorem trimStart_eq_self_of_head {head : Char} {rest : List Char}
    (notBlank : isBlank head = false) :
    trimStart (head :: rest) = head :: rest := by
  simp [trimStart, List.dropWhile, notBlank]

end AdmissionGate.Text
