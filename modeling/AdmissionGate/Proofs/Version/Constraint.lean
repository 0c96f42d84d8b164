import AdmissionGate.Version.Range

/-!
# What a constraint allows

A constraint that has the look of a version and can be read as one allows this
version alone.  Any other constraint is a range, and one that can not be read
allows nothing.
-/

namespace AdmissionGate.Version

open Text

variable [RangeReader]

/-- The constraint is the bare version, or else a range that it lies in. -/
def AllowedBy (version : Version) (constraint : String) : Prop :=
  bareVersion? constraint = some version ∨
    bareVersion? constraint = none ∧
      ∃ admits, RangeReader.read? (trim constraint.toList) = some admits ∧
        admits version = true

def Unreadable (constraint : String) : Prop :=
  bareVersion? constraint = none ∧
    RangeReader.read? (trim constraint.toList) = none

def Matches (text constraint : String) : Prop :=
  ∃ version, ofText? text = some version ∧ version.AllowedBy constraint

variable {version : Version} {text constraint : String}

theorem allowedBy_of_bare {exact : Version}
    (bare : bareVersion? constraint = some exact) :
    version.AllowedBy constraint ↔ version = exact := by
  simp only [AllowedBy, bare, Option.some.injEq, reduceCtorEq, false_and,
    or_false]
  exact eq_comm

theorem allowedBy_of_not_bare (ranged : bareVersion? constraint = none) :
    version.AllowedBy constraint ↔
      ∃ admits, RangeReader.read? (trim constraint.toList) = some admits ∧
        admits version = true := by
  simp only [AllowedBy, ranged, reduceCtorEq, true_and, false_or]

theorem satisfies?_eq_some_true_iff :
    satisfies? text constraint = some true ↔ Matches text constraint := by
  unfold satisfies?
  rw [Option.bind_eq_bind, Option.bind_eq_some_iff]
  refine exists_congr fun version => and_congr_right fun _ => ?_
  split
  · rename_i exact hbare
    rw [allowedBy_of_bare hbare]
    simp
  · rename_i hranged
    rw [allowedBy_of_not_bare hranged]
    simp [Option.bind_eq_some_iff]

theorem satisfies_iff :
    satisfies text constraint = true ↔ Matches text constraint := by
  rw [satisfies, Option.getD_eq_iff, satisfies?_eq_some_true_iff]
  simp

instance : Decidable (Matches text constraint) :=
  decidable_of_iff _ satisfies_iff

theorem not_matches_of_unreadable (unreadable : Unreadable constraint) :
    ¬ Matches text constraint := by
  rintro ⟨version, -, hbare | ⟨-, admits, hadmits, -⟩⟩
  · cases unreadable.1.symm.trans hbare
  · cases unreadable.2.symm.trans hadmits

end AdmissionGate.Version
