/-!
# Responses

What the service answers probes with.
-/

namespace AdmissionGate

structure TextResponse where
  status : Nat
  text : String
  contentType : Option String
deriving DecidableEq, Repr

namespace TextResponse

def bare (status : Nat) : TextResponse := ⟨status, "", none⟩

def withoutText (response : TextResponse) : TextResponse :=
  { response with text := "" }

end TextResponse
end AdmissionGate
