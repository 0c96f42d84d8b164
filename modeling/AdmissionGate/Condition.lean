import AdmissionGate.Json.Codec

/-!
# Conditions

Observations about an object, each of a type.  Of several conditions of one type
the first counts.
-/

namespace AdmissionGate

structure Condition where
  type : String
  status : String
  reason : String := ""
  message : String := ""
  lastTransitionTime : String := ""
  observedGeneration : Option Int := none
deriving DecidableEq, Repr

namespace Condition

def layout : Layout Condition Condition :=
  Layout.start Condition.mk
    |>.member (.required "type" .string) type
    |>.member (.required "status" .string) status
    |>.member (.defaulted "reason" .string "") reason
    |>.member (.defaulted "message" .string "") message
    |>.member (.defaulted "lastTransitionTime" .string "") lastTransitionTime
    |>.member (.optional "observedGeneration" .int64) observedGeneration

/-- An array must list all six members. -/
def codec : Codec Condition := layout.recordFrom 6

def make (type : String) (holds : Bool) (reason message time : String)
    (generation : Option Int) : Condition where
  type := type
  status := if holds then "True" else "False"
  reason := reason
  message := message
  lastTransitionTime := time
  observedGeneration := generation

/-- Any status other than `True` does not hold. -/
def holds (condition : Condition) : Bool :=
  condition.status == "True"

def find? (conditions : List Condition) (type : String) : Option Condition :=
  conditions.find? fun condition => condition.type == type

def isTrue (conditions : List Condition) (type : String) : Bool :=
  (find? conditions type).any holds

end Condition
end AdmissionGate
