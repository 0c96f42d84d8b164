import AdmissionGate.Object.Compute
import AdmissionGate.Reference
import AdmissionGate.Tls

/-!
# Parameters of operations

The sections of a request's specification.  Scaling and expansion take their
members by names that depend on the engine, so these sections are dictionaries;
the other sections name their members.
-/

namespace AdmissionGate

/-! ## Versions -/

structure UpdateVersionSpec where
  targetVersion : String := ""
deriving DecidableEq, Repr

namespace UpdateVersionSpec

def layout : Layout UpdateVersionSpec UpdateVersionSpec :=
  Layout.start UpdateVersionSpec.mk
    |>.member (.defaulted "targetVersion" .string "") targetVersion

def codec : Codec UpdateVersionSpec := layout.record

end UpdateVersionSpec

/-! ## Scaling -/

structure HorizontalScalingSpec where
  counts : Dict Int := .empty
deriving DecidableEq, Repr

namespace HorizontalScalingSpec

def layout : Layout HorizontalScalingSpec HorizontalScalingSpec :=
  Layout.start HorizontalScalingSpec.mk
    |>.others .int32 counts

def codec : Codec HorizontalScalingSpec := layout.object

end HorizontalScalingSpec

structure PodResources where
  resources : Option ComputeResources := none
  nodeSelectionPolicy : Option String := none
  nodeSelector : Dict String := .empty
deriving DecidableEq, Repr

namespace PodResources

def layout : Layout PodResources PodResources :=
  Layout.start PodResources.mk
    |>.member (.optional "resources" ComputeResources.codec) resources
    |>.member (.optional "nodeSelectionPolicy" .string) nodeSelectionPolicy
    |>.member (.mapped "nodeSelector" .string) nodeSelector

def codec : Codec PodResources := layout.record

end PodResources

structure VerticalScalingSpec where
  nodes : Dict PodResources := .empty
deriving DecidableEq, Repr

namespace VerticalScalingSpec

def layout : Layout VerticalScalingSpec VerticalScalingSpec :=
  Layout.start VerticalScalingSpec.mk
    |>.others PodResources.codec nodes

def codec : Codec VerticalScalingSpec := layout.object

end VerticalScalingSpec

/-! ## Volumes -/

/-- Whether the database stays up while its volumes grow. -/
inductive ExpansionMode where
  | online
  | offline
deriving DecidableEq, Repr

namespace ExpansionMode

def name : ExpansionMode → String
  | .online => "Online"
  | .offline => "Offline"

def codec : Codec ExpansionMode := .choice [.online, .offline] name

end ExpansionMode

structure VolumeExpansionSpec where
  mode : Option ExpansionMode := none
  sizes : Dict Quantity := .empty
deriving DecidableEq, Repr

namespace VolumeExpansionSpec

def layout : Layout VolumeExpansionSpec VolumeExpansionSpec :=
  Layout.start VolumeExpansionSpec.mk
    |>.member (.optional "mode" ExpansionMode.codec) mode
    |>.others Quantity.codec sizes

def codec : Codec VolumeExpansionSpec := layout.object

end VolumeExpansionSpec

/-! ## Configuration -/

/-- A change of the custom configuration, by one of three mechanisms. -/
structure ReconfigureSpec where
  configSecret : Option LocalReference := none
  applyConfig : Option (Dict String) := none
  removeCustomConfig : Option Bool := none
deriving DecidableEq, Repr

namespace ReconfigureSpec

def layout : Layout ReconfigureSpec ReconfigureSpec :=
  Layout.start ReconfigureSpec.mk
    |>.member (.optional "configSecret" LocalReference.codec) configSecret
    |>.member (.optional "applyConfig" (.dict .string)) applyConfig
    |>.member (.optional "removeCustomConfig" .bool) removeCustomConfig

def codec : Codec ReconfigureSpec := layout.record

def removes (spec : ReconfigureSpec) : Bool :=
  spec.removeCustomConfig == some true

def applies (spec : ReconfigureSpec) : Bool := spec.applyConfig.any (!·.isEmpty)

def mechanisms (spec : ReconfigureSpec) : List String :=
  (if spec.removes then ["removeCustomConfig"] else []) ++
  (if spec.applies then ["applyConfig"] else []) ++
  (if spec.configSecret.isSome then ["configSecret"] else [])

end ReconfigureSpec

/-! ## Transport security -/

/-- A change of the certificates, by one of three mechanisms. -/
structure ReconfigureTlsSpec where
  config : TlsConfig := {}
  rotateCertificates : Option Bool := none
  remove : Option Bool := none
  requireSsl : Option Bool := none
deriving DecidableEq, Repr

namespace ReconfigureTlsSpec

def layout : Layout ReconfigureTlsSpec ReconfigureTlsSpec :=
  Layout.start ReconfigureTlsSpec.mk
    |>.inline TlsConfig.layout config
    |>.member (.optional "rotateCertificates" .bool) rotateCertificates
    |>.member (.optional "remove" .bool) remove
    |>.member (.optional "requireSSL" .bool) requireSsl

def codec : Codec ReconfigureTlsSpec := layout.object

def removes (spec : ReconfigureTlsSpec) : Bool := spec.remove == some true

def rotates (spec : ReconfigureTlsSpec) : Bool :=
  spec.rotateCertificates == some true

def requiresSsl (spec : ReconfigureTlsSpec) : Bool :=
  spec.requireSsl == some true

def mechanisms (spec : ReconfigureTlsSpec) : List String :=
  (if spec.removes then ["remove"] else []) ++
  (if spec.rotates then ["rotateCertificates"] else []) ++
  (if spec.config.isSet then ["issuerRef/certificates"] else [])

end ReconfigureTlsSpec

/-! ## Credentials and restarts -/

/-- New credentials, from a secret or generated. -/
structure RotateAuthSpec where
  secret : Option LocalReference := none
deriving DecidableEq, Repr

namespace RotateAuthSpec

def layout : Layout RotateAuthSpec RotateAuthSpec :=
  Layout.start RotateAuthSpec.mk
    |>.member (.optional "secretRef" LocalReference.codec) secret

def codec : Codec RotateAuthSpec := layout.record

end RotateAuthSpec

structure RestartSpec where
deriving DecidableEq, Repr

namespace RestartSpec

def layout : Layout RestartSpec RestartSpec := Layout.start RestartSpec.mk

def codec : Codec RestartSpec := layout.record

end RestartSpec
end AdmissionGate
