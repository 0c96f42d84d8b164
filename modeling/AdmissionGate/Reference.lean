import AdmissionGate.Json.Codec

/-!
# References

References by name to other objects of the cluster.
-/

namespace AdmissionGate

/-- An object in the namespace of the referrer. -/
structure LocalReference where
  name : String := ""
deriving DecidableEq, Repr

namespace LocalReference

def layout : Layout LocalReference LocalReference :=
  Layout.start LocalReference.mk
    |>.member (.defaulted "name" .string "") name

def codec : Codec LocalReference := layout.record

end LocalReference

/-- An object that may be in another namespace. -/
structure AppReference where
  name : String := ""
  namespaceName : Option String := none
deriving DecidableEq, Repr

namespace AppReference

def layout : Layout AppReference AppReference :=
  Layout.start AppReference.mk
    |>.member (.defaulted "name" .string "") name
    |>.member (.optional "namespace" .string) namespaceName

def codec : Codec AppReference := layout.record

end AppReference
end AdmissionGate
