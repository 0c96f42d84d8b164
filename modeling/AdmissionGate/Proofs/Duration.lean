import AdmissionGate.Duration.Positive

/-!
# Positive durations

What it takes for a text to be a positive duration, said without the errors.
-/

namespace AdmissionGate.Duration

variable [Reader]

def Lasts (text : String) (duration : Duration) : Prop :=
  Reader.read? text = some duration ∧ 0 < duration.nanos

theorem positive?_eq_some_iff {text : String} {duration : Duration} :
    positive? text = some duration ↔ Lasts text duration := by
  simp [positive?, Lasts, isPositive]

variable (path text examples : String)

theorem positiveErrors_eq_nil_iff_lasts :
    positiveErrors path text examples = [] ↔
      ∃ duration, Lasts text duration := by
  rw [positiveErrors_eq_nil_iff, Option.isSome_iff_exists]
  simp only [positive?_eq_some_iff]

theorem positiveErrors_eq_nil_or_singleton :
    positiveErrors path text examples = [] ∨
      ∃ detail, positiveErrors path text examples =
        [.invalid path (.string text) detail] := by
  unfold positiveErrors
  split
  · split
    · exact .inl rfl
    · exact .inr ⟨_, rfl⟩
  · exact .inr ⟨_, rfl⟩

end AdmissionGate.Duration
