import AdmissionGate.Json.Codec
import AdmissionGate.Resource

/-!
# Database engines

The engines whose databases are managed, and the resource kinds that belong to
each of them.
-/

namespace AdmissionGate

inductive Engine where
  | elasticsearch
  | kafka
  | mariaDB
  | memcached
  | mongoDB
  | mySQL
  | perconaXtraDB
  | pgBouncer
  | postgres
  | proxySQL
  | redis
  | redisSentinel
deriving DecidableEq, Repr

namespace Engine

def all : List Engine :=
  [.elasticsearch, .kafka, .mariaDB, .memcached, .mongoDB, .mySQL,
    .perconaXtraDB, .pgBouncer, .postgres, .proxySQL, .redis, .redisSentinel]

theorem mem_all (engine : Engine) : engine ∈ all := by cases engine <;> decide

/-! ## Kinds -/

def kind : Engine → String
  | .elasticsearch => "Elasticsearch"
  | .kafka => "Kafka"
  | .mariaDB => "MariaDB"
  | .memcached => "Memcached"
  | .mongoDB => "MongoDB"
  | .mySQL => "MySQL"
  | .perconaXtraDB => "PerconaXtraDB"
  | .pgBouncer => "PgBouncer"
  | .postgres => "Postgres"
  | .proxySQL => "ProxySQL"
  | .redis => "Redis"
  | .redisSentinel => "RedisSentinel"

def opsKind (engine : Engine) : String := engine.kind ++ "OpsRequest"

def versionKind (engine : Engine) : String := engine.kind ++ "Version"

def ofKind? (kind : String) : Option Engine :=
  all.find? fun engine => engine.kind == kind

def ofOpsKind? (kind : String) : Option Engine :=
  all.find? fun engine => engine.opsKind == kind

theorem ofKind?_kind (engine : Engine) : ofKind? engine.kind = some engine := by
  cases engine <;> decide

theorem ofOpsKind?_opsKind (engine : Engine) :
    ofOpsKind? engine.opsKind = some engine := by
  cases engine <;> decide

/-! ## Resources -/

def plural (engine : Engine) : String :=
  match engine with
  | .elasticsearch => "elasticsearches"
  | _ => engine.kind.toLower ++ "s"

def databaseResource (engine : Engine) : ResourceKind where
  group := "kubedb.com"
  version := "v1"
  kind := engine.kind
  plural := engine.plural
  namespaced := true

def opsGroup : String := "ops.kubedb.com"

def opsResource (engine : Engine) : ResourceKind where
  group := opsGroup
  version := "v1alpha1"
  kind := engine.opsKind
  plural := engine.opsKind.toLower ++ "s"
  namespaced := true

/-- The catalog of versions is shared by the whole cluster. -/
def versionResource (engine : Engine) : ResourceKind where
  group := "catalog.kubedb.com"
  version := "v1alpha1"
  kind := engine.versionKind
  plural := engine.versionKind.toLower ++ "s"
  namespaced := false

def codec : Codec Engine := .choice all kind

end Engine
end AdmissionGate
