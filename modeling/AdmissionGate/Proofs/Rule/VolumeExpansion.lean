import AdmissionGate.Proofs.OpsRequest.Creation
import AdmissionGate.Proofs.Profile
import AdmissionGate.Proofs.Quantity.Value

/-!
# Volumes only grow

An expansion is admitted exactly if every size that it asks for exceeds the
present one, counted in billionths.  The sizes then exceed the present ones as
numbers too, however they are written.
-/

namespace AdmissionGate

/-! ## Present sizes -/

def VolumeClaim.Requests (claim : VolumeClaim) (size : Quantity) : Prop :=
  ∃ resources requests, claim.resources = some resources ∧
    resources.requests = some requests ∧ requests.find? "storage" = some size

namespace Database

def RoleRequests (database : Database) (role : String) (size : Quantity) : Prop :=
  ∃ topology spec claim, database.spec.topology = some topology ∧
    topology.roles.find? role = some spec ∧ spec.storage = some claim ∧
    claim.Requests size

def CurrentSize (database : Database) (role : String) (size : Quantity) : Prop :=
  database.RoleRequests role size ∨
    (∀ other, ¬ database.RoleRequests role other) ∧
      ∃ claim, database.spec.storage = some claim ∧ claim.Requests size

end Database

theorem VolumeClaim.requestedStorage?_eq_some_iff {claim : VolumeClaim}
    {size : Quantity} :
    claim.requestedStorage? = some size ↔ claim.Requests size := by
  simp only [requestedStorage?, Requests, Option.bind_eq_bind,
    Option.bind_eq_some_iff, exists_and_left]

namespace Database

variable {database : Database} {role : String} {size : Quantity}

theorem roleStorage?_eq_some_iff :
    database.roleStorage? role = some size ↔ database.RoleRequests role size := by
  simp only [roleStorage?, RoleRequests, Option.bind_eq_bind,
    Option.bind_eq_some_iff, VolumeClaim.requestedStorage?_eq_some_iff,
    exists_and_left]

theorem storage?_eq_some_iff :
    database.storage? role = some size ↔ database.CurrentSize role size := by
  have hnone : database.roleStorage? role = none ↔
      ∀ other, ¬ database.RoleRequests role other := by
    simp only [Option.eq_none_iff_forall_ne_some, ne_eq,
      roleStorage?_eq_some_iff]
  rw [storage?, Option.or_eq_some_iff, roleStorage?_eq_some_iff, hnone,
    ownStorage?, Option.bind_eq_some_iff]
  simp only [VolumeClaim.requestedStorage?_eq_some_iff, CurrentSize]

end Database

/-! ## Sizes that grow -/

/-- The size that is asked for exceeds the present one in billionths. -/
def Database.GrowsTo (database : Database) (role : String) (desired : Quantity) :
    Prop :=
  ∃ wanted current present, desired.nanos? = some wanted ∧
    database.CurrentSize role current ∧ current.nanos? = some present ∧
    present < wanted

/-- The size that is asked for is a greater number than the present one. -/
def Database.Outgrows (database : Database) (role : String)
    (desired : Quantity) : Prop :=
  ∃ current value present, database.CurrentSize role current ∧
    desired.Denotes value ∧ current.Denotes present ∧ present < value

theorem Database.GrowsTo.outgrows {database : Database} {role : String}
    {desired : Quantity} (grows : database.GrowsTo role desired) :
    database.Outgrows role desired := by
  obtain ⟨wanted, current, present, hwanted, hcurrent, hpresent, less⟩ := grows
  obtain ⟨value, hvalue, -⟩ := Quantity.nanos?_eq_some hwanted
  obtain ⟨value', hvalue', -⟩ := Quantity.nanos?_eq_some hpresent
  have hless : value' < value :=
    Quantity.lt_of_nanos_lt hpresent hwanted less hvalue' hvalue
  exact ⟨current, value, value', hcurrent, hvalue, hvalue', hless⟩

namespace VolumeExpansionRule

theorem sizeErrors_eq_nil_iff {database : Database} {role : String}
    {desired : Quantity} :
    sizeErrors database role desired = [] ↔ database.GrowsTo role desired := by
  constructor
  · intro h
    simp only [sizeErrors] at h
    split at h
    · split at h
      · cases h
      · rename_i current hcurrent
        split at h
        · rename_i hgreater
          obtain ⟨wanted, present, hwanted, hpresent, less⟩ :=
            Quantity.compare?_eq_some_iff.1 hgreater
          exact ⟨wanted, current, present, hwanted,
            Database.storage?_eq_some_iff.1 hcurrent, hpresent, less⟩
        · cases h
        · cases h
    · cases h
  · rintro ⟨wanted, current, present, hwanted, hcurrent, hpresent, less⟩
    have hvalid : desired.isValid = true := by
      rw [Quantity.isValid, hwanted, Option.isSome_some]
    have hfound : database.storage? role = some current :=
      Database.storage?_eq_some_iff.2 hcurrent
    have hgreater : desired.compare? current = some .gt :=
      Quantity.compare?_eq_some_iff.2 ⟨wanted, present, hwanted, hpresent, less⟩
    simp only [sizeErrors, hvalid, hfound, hgreater, if_true]

structure Admits (context : RuleContext) (shape : Shape)
    (spec : VolumeExpansionSpec) : Prop where
  nonempty : spec.sizes.entries ≠ []
  allowed : ∀ role ∈ spec.sizes.keys, shape.Allows context.Clustered role
  durable : context.database.spec.storageType ≠ some .ephemeral
  grows : ∀ entry ∈ spec.sizes.entries, context.database.GrowsTo entry.1 entry.2

theorem sectionErrors_eq_nil_iff {context : RuleContext}
    {spec : VolumeExpansionSpec} :
    sectionErrors context spec = [] ↔
      ∃ shape, context.profile.volume = some shape ∧
        Admits context shape spec := by
  unfold sectionErrors
  split
  · rename_i hvolume
    simp [hvolume]
  · rename_i shape hvolume
    have hclustered : (context.isClustered = true) = context.Clustered :=
      propext context.isClustered_iff
    have hephemeral : context.database.isEphemeral = true ↔
        context.database.spec.storageType = some .ephemeral := by
      simp [Database.isEphemeral]
    have hkeys : spec.sizes.keys ≠ [] ↔ spec.sizes.entries ≠ [] := by
      simp [Dict.keys]
    rw [List.append_eq_nil_iff, Shape.errors_eq_nil_iff, hclustered, hkeys]
    constructor
    · rintro ⟨⟨hnonempty, hallowed⟩, hsizes⟩
      split at hsizes
      · cases hsizes
      · rename_i hdurable
        refine ⟨shape, hvolume, hnonempty, hallowed, mt hephemeral.2 hdurable, ?_⟩
        intro entry hentry
        exact sizeErrors_eq_nil_iff.1
          (List.flatMap_eq_nil_iff.1 hsizes entry hentry)
    · rintro ⟨_, hshape, admits⟩
      cases hvolume.symm.trans hshape
      refine ⟨⟨admits.nonempty, admits.allowed⟩, ?_⟩
      rw [if_neg (mt hephemeral.1 admits.durable), List.flatMap_eq_nil_iff]
      exact fun entry hentry => sizeErrors_eq_nil_iff.2 (admits.grows entry hentry)

theorem errors_eq_nil_iff (context : RuleContext) :
    errors context = [] ↔ ∃ spec shape,
      context.spec.volumeExpansion = some spec ∧
        context.profile.volume = some shape ∧ Admits context shape spec := by
  unfold errors
  split
  · rename_i hsection
    simp [hsection]
  · rename_i spec hsection
    rw [sectionErrors_eq_nil_iff]
    constructor
    · rintro ⟨shape, hvolume, admits⟩
      exact ⟨spec, shape, hsection, hvolume, admits⟩
    · rintro ⟨_, shape, hspec, hvolume, admits⟩
      cases hsection.symm.trans hspec
      exact ⟨shape, hvolume, admits⟩

theorem outgrows_of_errors_eq_nil {context : RuleContext}
    (h : errors context = []) {spec : VolumeExpansionSpec}
    (hspec : context.spec.volumeExpansion = some spec) :
    ∀ entry ∈ spec.sizes.entries,
      context.database.Outgrows entry.1 entry.2 := by
  obtain ⟨_, shape, hsection, -, admits⟩ := (errors_eq_nil_iff context).1 h
  cases hsection.symm.trans hspec
  exact fun entry hentry => (admits.grows entry hentry).outgrows

theorem errors_of_validateCreate {request : OpsRequest} {store : ObjectStore}
    {engine : Engine} {warnings : Warnings}
    (hoperation : request.spec.operation? engine.profile = some .volumeExpansion)
    (admitted : request.validateCreate store engine = .ok warnings) :
    ∃ database, request.database? store engine = .ok (some database) ∧
      errors { request, database, profile := engine.profile } = [] := by
  obtain ⟨database, hdatabase, hearly, hlate, -⟩ :=
    OpsRequest.validateCreate_eq_ok admitted
  obtain ⟨-, found, rfl⟩ := OpsRequest.database_of_earlyErrors_eq_nil hearly
  refine ⟨found, hdatabase, ?_⟩
  simp only [OpsRequest.lateErrors, hoperation, hearly] at hlate
  obtain ⟨collaborators, hcollaborators, herrors⟩ :=
    fromStore_bind_eq_ok.1 hlate
  cases hcollaborators
  exact Except.ok.inj herrors

/-- The rule finds nothing wrong exactly in expansions of volumes that exist, by
sizes that all exceed the present ones.  In an admitted request every size is
therefore a greater number than the present one. -/
theorem volumes_only_grow :
    (∀ context : RuleContext,
      (errors context = [] ↔ ∃ spec shape,
        context.spec.volumeExpansion = some spec ∧
          context.profile.volume = some shape ∧ Admits context shape spec) ∧
      (errors context = [] → ∀ spec, context.spec.volumeExpansion = some spec →
        ∀ entry ∈ spec.sizes.entries,
          context.database.Outgrows entry.1 entry.2)) ∧
    ∀ (request : OpsRequest) (store : ObjectStore) (engine : Engine)
      (warnings : Warnings),
      request.spec.operation? engine.profile = some .volumeExpansion →
      request.validateCreate store engine = .ok warnings →
      ∃ database spec, request.database? store engine = .ok (some database) ∧
        request.spec.volumeExpansion = some spec ∧
        spec.sizes.entries ≠ [] ∧
        ∀ entry ∈ spec.sizes.entries, database.Outgrows entry.1 entry.2 := by
  refine ⟨fun context => ⟨errors_eq_nil_iff context, ?_⟩, ?_⟩
  · exact fun h spec hspec => outgrows_of_errors_eq_nil h hspec
  · intro request store engine warnings hoperation admitted
    obtain ⟨database, hdatabase, herrors⟩ :=
      errors_of_validateCreate hoperation admitted
    obtain ⟨spec, shape, hspec, -, admits⟩ := (errors_eq_nil_iff _).1 herrors
    exact ⟨database, spec, hdatabase, hspec, admits.nonempty,
      outgrows_of_errors_eq_nil herrors hspec⟩

/-! ### A cluster with volumes of two sizes -/

def claimOf (size : String) : VolumeClaim where
  resources := some {
    limits := none, requests := some (.singleton "storage" ⟨size⟩) }

/-- Shards have volumes of their own, config servers those of the database. -/
def shardedDatabase : Database where
  spec := {
    topology := some {
      roles := .singleton "shard" { storage := some (claimOf "1Gi") } }
    storage := some (claimOf "2Gi") }

def shardedStore : ObjectStore := fun key =>
  if key = .database .mongoDB "" "db" then
    .ok ⟨none, {}, [("spec", DatabaseSpec.codec.encode shardedDatabase.spec)]⟩
  else .error key.notFound

def shardSizes : VolumeExpansionSpec where
  sizes := .ofList
    [("configServer", ⟨"2.15e9"⟩), ("shard", ⟨"1073741824000000001n"⟩)]

def shardExpansion : OpsRequest where
  spec := {
    database := ⟨"db"⟩
    type := "VolumeExpansion"
    volumeExpansion := some shardSizes }

/-- Decimal sizes are compared with binary ones, and one billionth is enough. -/
theorem shardExpansion_admitted :
    shardExpansion.validateCreate shardedStore .mongoDB = .ok [] ∧
      shardedDatabase.Outgrows "configServer" ⟨"2.15e9"⟩ ∧
      ∃ database,
        shardExpansion.database? shardedStore .mongoDB = .ok (some database) ∧
          database.Outgrows "shard" ⟨"1073741824000000001n"⟩ := by
  have hadmitted :
      shardExpansion.validateCreate shardedStore .mongoDB = .ok [] := by
    decide +kernel
  have herrors : errors {
      request := shardExpansion
      database := shardedDatabase
      profile := Engine.mongoDB.profile } = [] := by
    decide +kernel
  have houtgrows := (volumes_only_grow.1 _).2 herrors shardSizes rfl
  obtain ⟨database, spec, hdatabase, hspec, -, houtgrows'⟩ :=
    volumes_only_grow.2 _ _ _ _ (by decide +kernel) hadmitted
  cases hspec
  exact ⟨hadmitted, houtgrows ("configServer", _) (by decide +kernel), database,
    hdatabase, houtgrows' ("shard", _) (by decide +kernel)⟩

end VolumeExpansionRule
end AdmissionGate
