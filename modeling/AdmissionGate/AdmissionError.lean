import AdmissionGate.Rejection

/-!
# Admission errors

Everything that can keep a call from being admitted, and what the caller may do
about it.
-/

namespace AdmissionGate

/-! ## The object store -/

inductive StoreError where
  | notFound (kind name : String)
  | unavailable (message : String)
  | decode (kind name message : String)
deriving DecidableEq, Repr

namespace StoreError

def message : StoreError → String
  | .notFound kind name => kind ++ " \"" ++ name ++ "\" not found"
  | .unavailable message => "object store unavailable: " ++ message
  | .decode kind name message =>
    "failed to decode " ++ kind ++ " \"" ++ name ++ "\": " ++ message

/-- A store that cannot be reached now may be reached later. -/
def isRetryable : StoreError → Bool
  | .unavailable _ => true
  | .notFound _ _ | .decode _ _ _ => false

end StoreError

/-! ## The cluster -/

/-- A failed call of the cluster's interface: an answer with an error code, a
connection that failed, or anything else. -/
inductive ClusterError where
  | answer (code : Nat)
  | connection
  | other
deriving DecidableEq, Repr

namespace ClusterError

def isRetryable : ClusterError → Bool
  | .answer code => 500 ≤ code || code == 429
  | .connection => true
  | .other => false

def message : ClusterError → String
  | .answer code => "answer " ++ toString code
  | .connection => "connection failed"
  | .other => "call failed"

end ClusterError

/-! ## Admission -/

/-- Stands in messages for the account of what could not be read. -/
def decodeFailure : String := "<decode error>"

inductive AdmissionError where
  | invalid (rejection : Rejection)
  | store (error : StoreError)
  | cluster (error : ClusterError)
  | unknownKind (kind : String)
  | missingObject
  | undecodable
deriving DecidableEq, Repr

namespace AdmissionError

def message : AdmissionError → String
  | .invalid rejection => rejection.message
  | .store error => "object store error: " ++ error.message
  | .cluster error => "Kubernetes API error: " ++ error.message
  | .unknownKind kind => "unsupported kind: " ++ kind
  | .missingObject => "missing object in admission request"
  | .undecodable => "Serialization error: " ++ decodeFailure

def isNotFound : AdmissionError → Bool
  | .store (.notFound _ _) => true
  | .cluster (.answer code) => code == 404
  | _ => false

def isRetryable : AdmissionError → Bool
  | .store error => error.isRetryable
  | .cluster error => error.isRetryable
  | .invalid _ | .unknownKind _ | .missingObject | .undecodable => false

def rejection? : AdmissionError → Option Rejection
  | .invalid rejection => some rejection
  | _ => none

end AdmissionError
end AdmissionGate
