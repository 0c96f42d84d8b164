import AdmissionGate.Database
import AdmissionGate.Engine
import AdmissionGate.OpsRequest.Operation
import AdmissionGate.Profile.Shape

/-!
# Engine profiles

What the rules have to know about an engine: the operations it has, how its
databases form a cluster, the names in its scaling and expansion sections, and
its gates.
-/

namespace AdmissionGate

/-! ## Clusters -/

inductive Clustering where
  | never
  | topologyRoles
  | topologyModeIn (modes : List String)
  | modeIn (modes : List String)
  | replicasAbove (count : Int)
deriving DecidableEq, Repr

def Clustering.holds (clustering : Clustering) (database : Database) : Bool :=
  match clustering with
  | .never => false
  | .topologyRoles => database.hasTopologyRoles
  | .topologyModeIn modes => database.topologyMode?.any modes.contains
  | .modeIn modes => database.spec.mode.any modes.contains
  | .replicasAbove count => count < database.replicas

/-! ## Scaling -/

structure Quorum where
  field : String
  least : Int
  greatest : Option Int
deriving DecidableEq, Repr

namespace Quorum

def contains (quorum : Quorum) (count : Int) : Bool :=
  quorum.least ≤ count && quorum.greatest.all (count ≤ ·)

def message (quorum : Quorum) : String :=
  "Group size can not be less than " ++ toString quorum.least ++
    match quorum.greatest with
    | some greatest => " or greater than " ++ toString greatest
    | none => ""

end Quorum

/-- Rules of horizontal scaling.  With resizable modes the topology must have
one of them; without them the database may have to be a cluster. -/
structure HorizontalRules where
  shape : Shape
  quorum : Option Quorum := none
  requiresClustered : Bool := false
  resizableModes : List String := []
deriving DecidableEq, Repr

/-! ## Profiles -/

structure Profile where
  engine : Engine
  operations : List Operation := Operation.all
  clustering : Clustering
  vertical : Shape
  horizontal : HorizontalRules
  volume : Option Shape
  requireSslFrom : Option String := none
  rotateAuthTlsAbove : Option Nat := none
deriving DecidableEq, Repr

namespace Profile

def supports (profile : Profile) (operation : Operation) : Bool :=
  profile.operations.contains operation

def allowedTypes (profile : Profile) : List String :=
  profile.operations.map Operation.name

def isClustered (profile : Profile) (database : Database) : Bool :=
  profile.clustering.holds database

end Profile

/-! ## The engines -/

def operationsWithoutVolume : List Operation :=
  [.updateVersion, .horizontalScaling, .verticalScaling, .restart,
    .reconfigure, .reconfigureTls, .rotateAuth]

def operationsWithoutConfiguration : List Operation :=
  [.updateVersion, .horizontalScaling, .verticalScaling, .restart,
    .reconfigureTls, .rotateAuth]

def groupScaling (greatest : Option Int) (resizableModes : List String) :
    HorizontalRules where
  shape := { shared := ["member"] }
  quorum := some ⟨"member", 3, greatest⟩
  requiresClustered := true
  resizableModes := resizableModes

def Engine.profile : Engine → Profile
  | .elasticsearch => {
      engine := .elasticsearch
      clustering := .topologyRoles
      vertical := {
        shared := ["exporter"], standalone := ["node"],
        clustered := ["master", "ingest", "data"] }
      horizontal := {
        shape := {
          standalone := ["node"], clustered := ["master", "ingest", "data"] } }
      volume := some {
        standalone := ["node"], clustered := ["master", "ingest", "data"] } }
  | .kafka => {
      engine := .kafka
      clustering := .topologyRoles
      vertical := {
        standalone := ["node"], clustered := ["broker", "controller"] }
      horizontal := {
        shape := {
          standalone := ["node"], clustered := ["broker", "controller"] } }
      volume := some {
        standalone := ["node"], clustered := ["broker", "controller"] } }
  | .mariaDB => {
      engine := .mariaDB
      clustering := .replicasAbove 1
      vertical := { shared := ["mariadb", "coordinator", "exporter"] }
      horizontal := groupScaling none []
      volume := some { shared := ["mariadb"] }
      requireSslFrom := some "10.5.2" }
  | .memcached => {
      engine := .memcached
      operations := operationsWithoutVolume
      clustering := .never
      vertical := { shared := ["memcached", "exporter"] }
      horizontal := { shape := { shared := ["replicas"] } }
      volume := none }
  | .mongoDB => {
      engine := .mongoDB
      clustering := .topologyRoles
      vertical := {
        shared := ["exporter", "arbiter", "hidden"]
        standalone := ["standalone"]
        clustered := ["replicaSet", "shard", "configServer", "mongos"] }
      horizontal := {
        shape := {
          clustered := ["replicas", "shards", "configServer", "mongos"] } }
      volume := some {
        standalone := ["standalone"]
        clustered := ["replicaSet", "shard", "configServer"] } }
  | .mySQL => {
      engine := .mySQL
      clustering :=
        .topologyModeIn
          ["GroupReplication", "InnoDBCluster", "SemiSync", "RemoteReplica"]
      vertical := { shared := ["mysql", "coordinator", "exporter"] }
      horizontal := groupScaling (some 9) ["GroupReplication", "InnoDBCluster"]
      volume := some { shared := ["mysql"] }
      requireSslFrom := some "5.7.0" }
  | .perconaXtraDB => {
      engine := .perconaXtraDB
      clustering := .replicasAbove 1
      vertical := { shared := ["perconaxtradb", "coordinator", "exporter"] }
      horizontal := groupScaling none []
      volume := some { shared := ["perconaxtradb"] } }
  | .pgBouncer => {
      engine := .pgBouncer
      operations := operationsWithoutVolume
      clustering := .never
      vertical := { shared := ["pgbouncer", "exporter"] }
      horizontal := { shape := { shared := ["replicas"] } }
      volume := none }
  | .postgres => {
      engine := .postgres
      clustering := .replicasAbove 1
      vertical := { shared := ["postgres", "coordinator", "exporter"] }
      horizontal := { shape := { shared := ["replicas"] } }
      volume := some { shared := ["postgres"] } }
  | .proxySQL => {
      engine := .proxySQL
      operations := operationsWithoutVolume
      clustering := .never
      vertical := { shared := ["proxysql", "exporter"] }
      horizontal := { shape := { shared := ["member"] } }
      volume := none }
  | .redis => {
      engine := .redis
      clustering := .modeIn ["Cluster", "Sentinel"]
      vertical := {
        shared := ["exporter", "coordinator"], standalone := ["standalone"],
        clustered := ["cluster", "sentinel"] }
      horizontal := { shape := { clustered := ["shards", "replicas"] } }
      volume := some { standalone := ["standalone"], clustered := ["cluster"] }
      rotateAuthTlsAbove := some 6 }
  | .redisSentinel => {
      engine := .redisSentinel
      operations := operationsWithoutConfiguration
      clustering := .never
      vertical := { shared := ["redissentinel", "exporter"] }
      horizontal := { shape := { shared := ["replicas"] } }
      volume := none }

end AdmissionGate
