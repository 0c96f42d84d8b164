import AdmissionGate.Duration
import AdmissionGate.FieldError

/-!
# Positive durations

Members that must hold a duration above zero, and what is wrong with them if
they do not.
-/

namespace AdmissionGate.Duration

/-- Stands in details for the account of why a text is no duration. -/
def readFailure : String := "<parse error>"

/-- How durations are read.  No check depends on more than what is read. -/
class Reader where
  read? : String → Option Duration

instance : Reader where
  read? := ofText?

def positive? [Reader] (text : String) : Option Duration :=
  (Reader.read? text).filter isPositive

/-- A text must be a positive duration; the examples show what durations look
like. -/
def positiveErrors [Reader] (path text examples : String) : List FieldError :=
  match Reader.read? text with
  | some duration =>
    if duration.isPositive then []
    else [.invalid path (.string text) "must be a positive duration"]
  | none =>
    [.invalid path (.string text)
      ("must be a duration such as " ++ examples ++ ": " ++ readFailure)]

theorem positiveErrors_eq_nil_iff [Reader] (path text examples : String) :
    positiveErrors path text examples = [] ↔ (positive? text).isSome := by
  unfold positiveErrors positive?
  split
  · rename_i duration read
    by_cases positive : duration.isPositive <;> simp [read, positive]
  · rename_i unread
    simp [unread]

end AdmissionGate.Duration
