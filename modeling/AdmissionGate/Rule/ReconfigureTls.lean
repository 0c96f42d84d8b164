import AdmissionGate.Rule.Context
import AdmissionGate.Version

/-!
# The rule of transport security

Exactly one mechanism must be given.  A database without certificates can only
be given an issuer, and clients can be forced to encrypt only from a version on.
-/

namespace AdmissionGate.ReconfigureTlsRule

def path : String := Operation.reconfigureTls.path

def mechanismErrors (spec : ReconfigureTlsSpec) : List FieldError :=
  match spec.mechanisms with
  | [] =>
    [.required path
      "one of remove, rotateCertificates or issuerRef/certificates must be set"]
  | [_] => []
  | mechanisms =>
    [.forbidden path
      ("only one of remove, rotateCertificates or issuerRef/certificates can be set, got " ++
        ", ".intercalate mechanisms)]

/-- What a database without certificates can not do. -/
def absentTlsErrors (spec : ReconfigureTlsSpec) : List FieldError :=
  (if spec.removes then
    [.invalid (path ++ ".remove") (.bool true)
      "database does not have TLS enabled"]
    else []) ++
  (if spec.rotates then
    [.invalid (path ++ ".rotateCertificates") (.bool true)
      "database does not have TLS enabled"]
    else []) ++
  (if spec.config.isSet && spec.config.issuer.isNone then
    [.required (path ++ ".issuerRef")
      "issuerRef must be set to add TLS to a database"]
    else [])

def requireSslErrors (context : RuleContext) (minimum : String) :
    List FieldError :=
  if Version.atLeast context.databaseVersion minimum then []
  else
    [.invalid (path ++ ".requireSSL") (.bool true)
      ("requireSSL is supported from " ++ context.engineKind ++ " version " ++
        minimum ++ ", database runs " ++ context.databaseVersion)]

def sectionErrors (context : RuleContext) (spec : ReconfigureTlsSpec) :
    List FieldError :=
  mechanismErrors spec ++
    (if context.database.hasTls then [] else absentTlsErrors spec) ++
    (if spec.requiresSsl then
      (context.profile.requireSslFrom.map (requireSslErrors context)).getD []
    else [])

def errors (context : RuleContext) : List FieldError :=
  match context.spec.tls with
  | none => [missingSection .reconfigureTls]
  | some spec => sectionErrors context spec

end AdmissionGate.ReconfigureTlsRule
