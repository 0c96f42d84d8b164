import AdmissionGate.Service
import AdmissionGate.Settings
import AdmissionGate.Store.Cluster
import AdmissionGate.Store.Memory
import AdmissionGate.Proofs.Failures
import AdmissionGate.Proofs.Isolation
import AdmissionGate.Proofs.Json.Differences
import AdmissionGate.Proofs.OpsRequest.Reference
import AdmissionGate.Proofs.Quantity.Order
import AdmissionGate.Proofs.Rule.UpdateVersion
import AdmissionGate.Proofs.Rule.VolumeExpansion
import AdmissionGate.Proofs.Review.Counted
import AdmissionGate.Proofs.Review.Session
import AdmissionGate.Proofs.Review.Undeclared
import AdmissionGate.Proofs.SchemaRequest.Clauses
import AdmissionGate.Proofs.SchemaRequest.Conditions
import AdmissionGate.Proofs.SchemaRequest.Reachable
import AdmissionGate.Proofs.Stability
import AdmissionGate.Proofs.Store.Contents
import AdmissionGate.Proofs.Taxonomy
import AdmissionGate.Proofs.OpsRequest.Requirements
import AdmissionGate.Proofs.Rule.HorizontalScaling
import AdmissionGate.Proofs.Rule.Independence
import AdmissionGate.Proofs.Rule.VerticalScaling
import AdmissionGate.Proofs.Rule.VersionGate
import AdmissionGate.Proofs.Version.Bare
import AdmissionGate.Proofs.Version.Leniency
import AdmissionGate.Proofs.Version.Spelling
import AdmissionGate.Proofs.OpsRequest.Mechanism
import AdmissionGate.Proofs.Rule.ReconfigureTls
import AdmissionGate.Proofs.Rule.Reconfigure
import AdmissionGate.Proofs.Profile.Shape
import AdmissionGate.Proofs.Rule.Sections
