import AdmissionGate.Json.Codec

/-!
# Transport security

The issuer and the certificates that a database serves.
-/

namespace AdmissionGate

structure IssuerReference where
  name : String
  kind : Option String := none
  apiGroup : Option String := none
deriving DecidableEq, Repr

namespace IssuerReference

def layout : Layout IssuerReference IssuerReference :=
  Layout.start IssuerReference.mk
    |>.member (.required "name" .string) name
    |>.member (.optional "kind" .string) kind
    |>.member (.optional "apiGroup" .string) apiGroup

def codec : Codec IssuerReference := layout.record

end IssuerReference

structure CertificateSpec where
  aliasName : String
  secretName : Option String := none
  dnsNames : List String := []
  ipAddresses : List String := []
  duration : Option String := none
  renewBefore : Option String := none
deriving DecidableEq, Repr

namespace CertificateSpec

def layout : Layout CertificateSpec CertificateSpec :=
  Layout.start CertificateSpec.mk
    |>.member (.required "alias" .string) aliasName
    |>.member (.optional "secretName" .string) secretName
    |>.member (.listed "dnsNames" .string) dnsNames
    |>.member (.listed "ipAddresses" .string) ipAddresses
    |>.member (.optional "duration" .string) duration
    |>.member (.optional "renewBefore" .string) renewBefore

def codec : Codec CertificateSpec := layout.record

end CertificateSpec

structure TlsConfig where
  issuer : Option IssuerReference := none
  certificates : List CertificateSpec := []
deriving DecidableEq, Repr

namespace TlsConfig

def layout : Layout TlsConfig TlsConfig :=
  Layout.start TlsConfig.mk
    |>.member (.optional "issuerRef" IssuerReference.codec) issuer
    |>.member (.listed "certificates" CertificateSpec.codec) certificates

def codec : Codec TlsConfig := layout.record

def isSet (config : TlsConfig) : Bool :=
  config.issuer.isSome || !config.certificates.isEmpty

end TlsConfig
end AdmissionGate
