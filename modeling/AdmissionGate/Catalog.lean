import AdmissionGate.Object.Metadata

/-!
# The version catalog

The versions that a database may run, and the transitions that lead from each of
them.
-/

namespace AdmissionGate

/-! ## Transitions -/

/-- Version constraints for databases with and without a cluster. -/
structure TopologyConstraints where
  standalone : List String := []
  cluster : List String := []
deriving DecidableEq, Repr

namespace TopologyConstraints

def layout : Layout TopologyConstraints TopologyConstraints :=
  Layout.start TopologyConstraints.mk
    |>.member (.listed "standalone" .string) standalone
    |>.member (.listed "cluster" .string) cluster

def codec : Codec TopologyConstraints := layout.record

def forTopology (constraints : TopologyConstraints) (clustered : Bool) :
    List String :=
  if clustered then constraints.cluster else constraints.standalone

end TopologyConstraints

structure UpdateConstraints where
  allowlist : Option TopologyConstraints := none
  denylist : Option TopologyConstraints := none
deriving DecidableEq, Repr

namespace UpdateConstraints

def layout : Layout UpdateConstraints UpdateConstraints :=
  Layout.start UpdateConstraints.mk
    |>.member (.optional "allowlist" TopologyConstraints.codec) allowlist
    |>.member (.optional "denylist" TopologyConstraints.codec) denylist

def codec : Codec UpdateConstraints := layout.record

end UpdateConstraints

/-! ## Entries -/

structure CatalogVersionSpec where
  version : String := ""
  deprecated : Bool := false
  updateConstraints : Option UpdateConstraints := none
deriving DecidableEq, Repr

namespace CatalogVersionSpec

def layout : Layout CatalogVersionSpec CatalogVersionSpec :=
  Layout.start CatalogVersionSpec.mk
    |>.member (.defaulted "version" .string "") version
    |>.member (.defaulted "deprecated" .bool false) deprecated
    |>.member (.optional "updateConstraints" UpdateConstraints.codec)
      updateConstraints

def codec : Codec CatalogVersionSpec := layout.record

end CatalogVersionSpec

structure CatalogVersion where
  metadata : Metadata := {}
  spec : CatalogVersionSpec := {}
deriving DecidableEq, Repr

namespace CatalogVersion

def layout : Layout CatalogVersion CatalogVersion :=
  Layout.start CatalogVersion.mk
    |>.member Metadata.field metadata
    |>.member (.defaulted "spec" CatalogVersionSpec.codec {}) spec

def codec : Codec CatalogVersion := layout.record

/-- The software version of an entry: the one it declares, or else its name. -/
def softwareVersion (entry : CatalogVersion) : String :=
  if entry.spec.version.isEmpty then entry.metadata.nameText
  else entry.spec.version

end CatalogVersion
end AdmissionGate
