import AdmissionGate.Json.Codec

/-!
# Statuses

What became of a call, as it is told to the client: in one word, in numbers and
in text, with the causes where there are several.  Everything that is empty is
left out.
-/

namespace AdmissionGate

/-! ## Causes -/

structure StatusCause where
  reason : String := ""
  message : String := ""
  field : String := ""
deriving DecidableEq, Repr

namespace StatusCause

def layout : Layout StatusCause StatusCause :=
  Layout.start StatusCause.mk
    |>.member (.sparse "reason" .string "") reason
    |>.member (.sparse "message" .string "") message
    |>.member (.sparse "field" .string "") field

def codec : Codec StatusCause := layout.record

end StatusCause

/-! ## Details -/

structure StatusDetails where
  name : String := ""
  group : String := ""
  kind : String := ""
  uid : String := ""
  causes : List StatusCause := []
  retryAfterSeconds : Nat := 0
deriving DecidableEq, Repr

namespace StatusDetails

def layout : Layout StatusDetails StatusDetails :=
  Layout.start StatusDetails.mk
    |>.member (.sparse "name" .string "") name
    |>.member (.sparse "group" .string "") group
    |>.member (.sparse "kind" .string "") kind
    |>.member (.sparse "uid" .string "") uid
    |>.member (.listed "causes" StatusCause.codec) causes
    |>.member (.sparse "retryAfterSeconds" (.unsigned Text.maxUInt32) 0)
      retryAfterSeconds

def codec : Codec StatusDetails := layout.record

end StatusDetails

/-! ## Statuses -/

inductive StatusSummary where
  | success
  | failure
deriving DecidableEq, Repr

namespace StatusSummary

def all : List StatusSummary := [.success, .failure]

def name : StatusSummary → String
  | .success => "Success"
  | .failure => "Failure"

def codec : Codec StatusSummary := .choice all name

end StatusSummary

structure Status where
  summary : Option StatusSummary := none
  code : Nat := 0
  message : String := ""
  reason : String := ""
  details : Option StatusDetails := none
deriving DecidableEq, Repr

namespace Status

def layout : Layout Status Status :=
  Layout.start Status.mk
    |>.member (.optional "status" StatusSummary.codec) summary
    |>.member (.sparse "code" (.unsigned Text.maxUInt16) 0) code
    |>.member (.sparse "message" .string "") message
    |>.member (.sparse "reason" .string "") reason
    |>.member (.optional "details" StatusDetails.codec) details

def codec : Codec Status := layout.record

end Status
end AdmissionGate
