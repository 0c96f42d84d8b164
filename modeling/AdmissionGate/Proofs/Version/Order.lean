import AdmissionGate.Version
import Mathlib.Data.Prod.Lex

/-!
# Order of versions

Versions are ordered by their numbers, the first number first.  A text that is no
version reaches no other and is reached by none.
-/

namespace AdmissionGate.Version

def numbers (version : Version) : ℕ ×ₗ ℕ ×ₗ ℕ :=
  toLex (version.major, toLex (version.minor, version.patch))

theorem le_iff {left right : Version} :
    left.le right = true ↔ left.numbers ≤ right.numbers := by
  simp only [le, numbers, Prod.Lex.toLex_le_toLex, Bool.or_eq_true,
    Bool.and_eq_true, decide_eq_true_eq, beq_iff_eq]

def Reaches (version : Version) (minimum : String) : Prop :=
  ∃ least, ofText? minimum = some least ∧ least.numbers ≤ version.numbers

theorem atLeast_iff {text minimum : String} :
    atLeast text minimum = true ↔
      ∃ version, ofText? text = some version ∧ version.Reaches minimum := by
  unfold atLeast Reaches
  split
  · rename_i version least hversion hleast
    simp only [hversion, hleast, Option.some.injEq, exists_eq_left', le_iff]
  · rename_i hunread
    refine iff_of_false Bool.false_ne_true ?_
    rintro ⟨version, hversion, least, hleast, -⟩
    exact hunread version least hversion hleast

end AdmissionGate.Version
