import AdmissionGate.Proofs.Database.Forms
import AdmissionGate.Proofs.Review.Placed
import AdmissionGate.Proofs.Store.Memory

/-!
# What a store in memory holds

A value is held as an object of the kind that it is written under, with its
metadata read and all its other members as they were.  What is found at a place
is the last value that was written there, and its model is that of this value.
-/

namespace AdmissionGate

/-! ## Values and objects -/

def Object.apartNames : List String := ["apiVersion", "kind", "metadata"]

/-- The object that a value becomes when it is written.  A value that is no
object becomes none, nor does one whose metadata cannot be read. -/
def ObjectKey.Holds (key : ObjectKey) (value : Json) (object : Object) : Prop :=
  ∃ members metadata, value = .object members ∧
    Metadata.field.get? members = some metadata ∧
    object = {
      type := some ⟨key.resource.apiVersion, key.resource.kind⟩
      metadata
      data := Members.without Object.apartNames members }

theorem Members.without_cons_of_mem {names : List String}
    {member : String × Json} (known : member.1 ∈ names) (rest : Members) :
    Members.without names (member :: rest) = Members.without names rest := by
  simp [Members.without, known]

theorem Members.without_cons_of_notMem {names : List String}
    {member : String × Json} (other : member.1 ∉ names) (rest : Members) :
    Members.without names (member :: rest) =
      member :: Members.without names rest := by
  simp [Members.without, other]

namespace Object

/-- Of a member of the type either the text was taken already or it stands in the
members. -/
def Stands (name : String) (taken : Option String) (members : Members)
    (text : String) : Prop :=
  match taken with
  | some held => held = text ∧ lookUp? name members = none
  | none => lookUp? name members = some (.string text)

section Stands

variable {name text : String} {taken : Option String} {value : Json}
  {rest : Members}

theorem Stands.tail {head : String} (stands : Stands name taken
    ((head, value) :: rest) text) (other : head ≠ name) :
    Stands name taken rest text := by
  cases taken <;> simpa [Stands, lookUp?, other] using stands

theorem Stands.head (stands : Stands name taken ((name, value) :: rest) text)
    (fresh : name ∉ entryKeys rest) :
    taken = none ∧ value = .string text ∧ Stands name (some text) rest text := by
  have hmissing : lookUp? name rest = none := lookUp?_eq_none_iff.2 fresh
  cases taken <;> simp_all [Stands, lookUp?]

theorem Stands.taken_eq (stands : Stands name taken [] text) :
    taken = some text := by
  cases taken <;> simp_all [Stands, lookUp?]

end Stands

theorem takeType_cons_of_ne {apiVersion kind : Option String} {name : String}
    (hversion : name ≠ "apiVersion") (hkind : name ≠ "kind") (value : Json)
    (rest : Members) :
    takeType apiVersion kind ((name, value) :: rest) =
      ((takeType apiVersion kind rest).1,
        (name, value) :: (takeType apiVersion kind rest).2) := by
  rw [takeType.eq_def]
  simp only [hversion, hkind, if_false]

theorem takeType_of_stands {apiVersion kind : Option String}
    {members : Members} {apiVersionText kindText : String}
    (distinct : (entryKeys members).Nodup)
    (hversion : Stands "apiVersion" apiVersion members apiVersionText)
    (hkind : Stands "kind" kind members kindText) :
    takeType apiVersion kind members =
      (some ⟨apiVersionText, kindText⟩,
        Members.without ["apiVersion", "kind"] members) := by
  induction members generalizing apiVersion kind with
  | nil =>
      rw [hversion.taken_eq, hkind.taken_eq]
      rfl
  | cons head rest ih =>
      obtain ⟨name, value⟩ := head
      obtain ⟨hfresh, hrest⟩ := List.nodup_cons.1 distinct
      by_cases hname : name = "apiVersion"
      · subst hname
        obtain ⟨rfl, rfl, htaken⟩ := hversion.head hfresh
        rw [Members.without_cons_of_mem (by simp),
          ← ih hrest htaken (hkind.tail (by decide))]
        rfl
      by_cases hname' : name = "kind"
      · subst hname'
        obtain ⟨rfl, rfl, htaken⟩ := hkind.head hfresh
        rw [Members.without_cons_of_mem (by simp),
          ← ih hrest (hversion.tail (by decide)) htaken]
        rfl
      · rw [takeType_cons_of_ne hname hname',
          Members.without_cons_of_notMem (by simp [hname, hname']),
          ih hrest (hversion.tail hname) (hkind.tail hname')]

end Object

/-! ## Members with a type -/

def ResourceKind.typed (resource : ResourceKind) (members : Members) : Members :=
  insertEntry "kind" (.string resource.kind)
    (insertEntry "apiVersion" (.string resource.apiVersion) members)

namespace ResourceKind

variable {resource : ResourceKind} {members : Members}

theorem lookUp?_typed (name : String) :
    lookUp? name (resource.typed members) =
      if name = "kind" then some (.string resource.kind)
      else if name = "apiVersion" then some (.string resource.apiVersion)
      else lookUp? name members := by
  simp only [typed, lookUp?_insertEntry, eq_comm]

theorem keysIncrease_typed (increase : KeysIncrease members) :
    KeysIncrease (resource.typed members) :=
  (increase.insertEntry _ _).insertEntry _ _

theorem metadata_typed :
    Metadata.field.get? (resource.typed members) =
      Metadata.field.get? members := by
  simp [Field.get?, lookUp?_typed, Metadata.field, Field.defaulted]

theorem takeType_typed (increase : KeysIncrease members) :
    Object.takeType none none
        (Members.without [Metadata.field.name] (resource.typed members)) =
      (some ⟨resource.apiVersion, resource.kind⟩,
        Members.without Object.apartNames members) := by
  have hothers : KeysIncrease
      (Members.without [Metadata.field.name] (resource.typed members)) :=
    (keysIncrease_typed increase).without _
  have hfound (name : String) : lookUp? name
      (Members.without [Metadata.field.name] (resource.typed members)) =
        if name = "metadata" then none
        else if name = "kind" then some (.string resource.kind)
        else if name = "apiVersion" then some (.string resource.apiVersion)
        else lookUp? name members := by
    simp [lookUp?_without, lookUp?_typed, Metadata.field, Field.defaulted]
  generalize Members.without [Metadata.field.name] (resource.typed members) =
    others at hothers hfound ⊢
  have hversion : Object.Stands "apiVersion" none others resource.apiVersion := by
    simp [Object.Stands, hfound]
  have hkind : Object.Stands "kind" none others resource.kind := by
    simp [Object.Stands, hfound]
  rw [Object.takeType_of_stands hothers.nodup hversion hkind]
  refine congrArg (Prod.mk _) ?_
  refine (hothers.without _).ext (increase.without _) fun name => ?_
  rw [lookUp?_without, hfound, lookUp?_without]
  by_cases hname : name = "apiVersion" <;> by_cases hname' : name = "kind" <;>
    simp [hname, hname', Object.apartNames]

end ResourceKind

/-! ## What becomes an object -/

theorem MemoryStore.object?_eq_some_iff {key : ObjectKey} {value : Json}
    (hvalue : value.isCanonical = true) {object : Object} :
    object? key.resource value = some object ↔ key.Holds value object := by
  cases value with
  | object members =>
      obtain ⟨increase, -⟩ := Json.isCanonical_object.1 hvalue
      have hobject : object? key.resource (.object members) =
          Object.ofMembers? (key.resource.typed members) := rfl
      rw [hobject, Object.ofMembers?, ResourceKind.metadata_typed,
        ResourceKind.takeType_typed increase]
      simp only [Option.bind_eq_bind, Option.bind_eq_some_iff, Option.pure_def,
        Option.some.injEq, sortEntries_of_keysIncrease (increase.without _)]
      constructor
      · rintro ⟨metadata, hmetadata, rfl⟩
        exact ⟨members, metadata, rfl, hmetadata, rfl⟩
      · rintro ⟨_, metadata, hmembers, hmetadata, rfl⟩
        cases hmembers
        exact ⟨metadata, hmetadata, rfl⟩
  | _ => simp [MemoryStore.object?, ObjectKey.Holds, Json.object?]

/-! ## Models of written values -/

/-- A model is read from the metadata of an object and from its other members,
each by its name. -/
def Codec.ReadsApart {Model : Type} (codec : Codec Model)
    (settle : Model → Model) : Prop :=
  ∀ {members others : Members},
    Metadata.field.get? others =
        (Metadata.field.get? members).map Metadata.wholeSeconds →
      (∀ name, name ∉ Object.apartNames →
        lookUp? name others = lookUp? name members) →
      codec.decode? (.object others) =
        (codec.decode? (.object members)).map settle

theorem Field.get?_congr {Value : Type} (field : Field Value)
    {members others : Members}
    (same : lookUp? field.name others = lookUp? field.name members) :
    field.get? others = field.get? members :=
  congrArg field.read? same

theorem Database.readsApart : codec.ReadsApart wholeSeconds := by
  intro members others hmetadata hothers
  have hspec :=
    (Field.defaulted "spec" DatabaseSpec.codec {}).get?_congr
      (hothers "spec" (by decide))
  have hstatus :=
    (Field.optional "status" DatabaseStatus.codec).get?_congr
      (hothers "status" (by decide))
  simp only [codec, Layout.record, Layout.recordFrom, Layout.decodeFrom?,
    layout, Layout.member, Layout.start, hmetadata, hspec, hstatus]
  cases Metadata.field.get? members <;>
    cases (Field.defaulted "spec" DatabaseSpec.codec {}).get? members <;>
    cases (Field.optional "status" DatabaseStatus.codec).get? members <;> rfl

theorem CatalogVersion.readsApart : codec.ReadsApart wholeSeconds := by
  intro members others hmetadata hothers
  have hspec :=
    (Field.defaulted "spec" CatalogVersionSpec.codec {}).get?_congr
      (hothers "spec" (by decide))
  simp only [codec, Layout.record, Layout.recordFrom, Layout.decodeFrom?,
    layout, Layout.member, Layout.start, hmetadata, hspec]
  cases Metadata.field.get? members <;>
    cases (Field.defaulted "spec" CatalogVersionSpec.codec {}).get? members <;>
    rfl

theorem Object.lookUp?_toJson {type : ObjectType} {metadata : Metadata}
    {data : Members} (increase : KeysIncrease data)
    (foreign : ∀ name ∈ apartNames, name ∉ entryKeys data) :
    ∃ others, (Object.mk (some type) metadata data).toJson.canonical =
        .object others ∧
      lookUp? "metadata" others =
        some (Metadata.codec.encode metadata).canonical ∧
      ∀ name, name ∉ apartNames →
        lookUp? name others = (lookUp? name data).map Json.canonical := by
  let front : Members := [("apiVersion", .string type.apiVersion),
    ("kind", .string type.kind), ("metadata", Metadata.codec.encode metadata)]
  have hdistinct : (entryKeys (front ++ data)).Nodup := by
    rw [entryKeys_append, List.nodup_append]
    refine ⟨(by decide : apartNames.Nodup), increase.nodup, ?_⟩
    rintro name hfront _ hdata rfl
    exact foreign name hfront hdata
  have hfound := lookUp?_sortEntries_canonicalMembers hdistinct
  refine ⟨_, rfl, hfound "metadata", fun name hname => ?_⟩
  have hmissing : lookUp? name front = none := lookUp?_eq_none_iff.2 hname
  exact (hfound name).trans (by rw [lookUp?_append, hmissing, Option.none_or])

theorem ObjectKey.Holds.members_toJson {key : ObjectKey} {members : Members}
    {object : Object} (holds : key.Holds (.object members) object)
    (hmembers : (Json.object members).isCanonical = true) :
    ∃ others, object.toJson.canonical = .object others ∧
      Metadata.field.get? others =
        (Metadata.field.get? members).map Metadata.wholeSeconds ∧
      ∀ name, name ∉ Object.apartNames →
        lookUp? name others = lookUp? name members := by
  obtain ⟨_, metadata, hequal, hmetadata, rfl⟩ := holds
  cases hequal
  obtain ⟨increase, hparts⟩ := Json.isCanonical_object.1 hmembers
  have hforeign : ∀ name ∈ Object.apartNames,
      name ∉ entryKeys (Members.without Object.apartNames members) := by
    intro name hname
    rw [← lookUp?_eq_none_iff, lookUp?_without, if_pos hname]
  have hgiven : ∀ json, lookUp? "metadata" members = some json →
      json.isCanonical = true :=
    fun _ found => Json.isCanonical_of_lookUp? hparts found
  obtain ⟨others, hjson, hfound, hdata⟩ :=
    Object.lookUp?_toJson (increase.without _) hforeign
  refine ⟨others, hjson, ?_, fun name hname => ?_⟩
  · have hwritten := Metadata.faithful_field.written hgiven hmetadata
    rw [hmetadata]
    refine Metadata.faithful_field.restored hgiven hmetadata ?_
    rw [← hwritten]
    exact congrArg (Option.map _) hfound
  · rw [hdata name hname, lookUp?_without, if_neg hname]
    cases hvalue : lookUp? name members with
    | none => rfl
    | some json =>
        rw [Option.map_some, Json.canonical_of_isCanonical json
          (Json.isCanonical_of_lookUp? hparts hvalue)]

theorem ObjectKey.Holds.decode? {Model : Type} {codec : Codec Model}
    {settle : Model → Model} (law : codec.ReadsApart settle) {key : ObjectKey}
    {value : Json} {object : Object} (holds : key.Holds value object)
    (hvalue : value.isCanonical = true) :
    codec.decode? object.toJson.canonical =
      (codec.decode? value).map settle := by
  obtain ⟨members, _, rfl, -⟩ := id holds
  obtain ⟨others, hjson, hmetadata, hothers⟩ := holds.members_toJson hvalue
  rw [hjson]
  exact law hmetadata hothers

/-! ## The last value at a place -/

namespace MemoryStore

def NeverAt (place : ObjectKey) (writes : List (ObjectKey × Json)) : Prop :=
  ∀ write ∈ writes, write.1.SamePlace place →
    ∀ object, ¬ write.1.Holds write.2 object

/-- The last value that was written at a place and became an object. -/
inductive LastAt (place : ObjectKey) :
    List (ObjectKey × Json) → Json → Object → Prop
  | here {key : ObjectKey} {value : Json} {object : Object}
      {rest : List (ObjectKey × Json)} (same : key.SamePlace place)
      (holds : key.Holds value object) (last : NeverAt place rest) :
      LastAt place ((key, value) :: rest) value object
  | later {write : ObjectKey × Json} {value : Json} {object : Object}
      {rest : List (ObjectKey × Json)} (last : LastAt place rest value object) :
      LastAt place (write :: rest) value object

section

variable {place : ObjectKey} {writes : List (ObjectKey × Json)}

theorem lastWritten?_eq_none_iff
    (canonical : ∀ write ∈ writes, write.2.isCanonical = true) :
    lastWritten? place writes = none ↔ NeverAt place writes := by
  induction writes with
  | nil => simp [lastWritten?, NeverAt]
  | cons write rest ih =>
      obtain ⟨key, value⟩ := write
      obtain ⟨hvalue, hrest⟩ := List.forall_mem_cons.1 canonical
      have hobject : object? key.resource value = none ↔
          ∀ object, ¬ key.Holds value object := by
        simp only [Option.eq_none_iff_forall_ne_some, ne_eq,
          object?_eq_some_iff hvalue]
      rw [NeverAt, List.forall_mem_cons, lastWritten?, Option.or_eq_none_iff,
        ih hrest, ← hobject, and_comm]
      refine and_congr_left' ?_
      by_cases hsame : key.SamePlace place <;> simp [hsame]

theorem lastWritten?_eq_some_iff
    (canonical : ∀ write ∈ writes, write.2.isCanonical = true)
    {object : Object} :
    lastWritten? place writes = some object ↔
      ∃ value, LastAt place writes value object := by
  induction writes with
  | nil => exact ⟨nofun, fun ⟨_, last⟩ => nomatch last⟩
  | cons write rest ih =>
      obtain ⟨key, value⟩ := write
      obtain ⟨hvalue, hrest⟩ := List.forall_mem_cons.1 canonical
      rw [lastWritten?, Option.or_eq_some_iff, ih hrest,
        lastWritten?_eq_none_iff hrest, Option.ite_none_right_eq_some,
        object?_eq_some_iff hvalue]
      constructor
      · rintro (⟨_, last⟩ | ⟨never, same, holds⟩)
        · exact ⟨_, last.later⟩
        · exact ⟨value, .here same holds never⟩
      · rintro ⟨_, last⟩
        cases last with
        | here same holds never => exact .inr ⟨never, same, holds⟩
        | later last => exact .inl ⟨_, last⟩

theorem LastAt.holds {value : Json} {object : Object}
    (last : LastAt place writes value object) : place.Holds value object := by
  induction last with
  | here same holds _ =>
      obtain ⟨members, metadata, rfl, hmetadata, rfl⟩ := holds
      exact ⟨members, metadata, rfl, hmetadata, by rw [same.1]⟩
  | later _ ih => exact ih

theorem LastAt.canonical {value : Json} {object : Object}
    (last : LastAt place writes value object)
    (canonical : ∀ write ∈ writes, write.2.isCanonical = true) :
    value.isCanonical = true := by
  induction last with
  | here _ _ _ => exact canonical _ List.mem_cons_self
  | later _ ih => exact ih fun write h => canonical write (List.mem_cons_of_mem _ h)

end

theorem insertAll_append (store : MemoryStore)
    (front back : List (ObjectKey × Json)) :
    store.insertAll (front ++ back) = (store.insertAll front).insertAll back := by
  induction front generalizing store with
  | nil => rfl
  | cons write rest ih =>
      obtain ⟨key, value⟩ := write
      simp only [List.cons_append, insertAll]
      split <;> exact ih _

/-- A value is written exactly if it becomes an object, and leaves no trace
otherwise. -/
theorem insert_cases (store : MemoryStore) (key : ObjectKey) {value : Json}
    (hvalue : value.isCanonical = true) (rest : List (ObjectKey × Json)) :
    (∃ object next, key.Holds value object ∧
        store.insert key value = .ok next) ∨
      (∀ object, ¬ key.Holds value object) ∧
        store.insert key value = .error key.undecodable ∧
        store.insertAll ((key, value) :: rest) = store.insertAll rest := by
  cases hobject : object? key.resource value with
  | some object =>
      exact .inl ⟨object, _, (object?_eq_some_iff hvalue).1 hobject,
        insert_eq_ok.2 ⟨object, hobject, rfl⟩⟩
  | none =>
      refine .inr ⟨fun object holds => ?_, ?_, ?_⟩
      · rw [(object?_eq_some_iff hvalue).2 holds] at hobject
        cases hobject
      · simp only [insert, hobject]
      · simp only [insertAll, insert, hobject]

/-! ## Faithful stores -/

structure ResolvesLast {Model : Type} (codec : Codec Model)
    (settle : Model → Model) (place : ObjectKey)
    (writes : List (ObjectKey × Json))
    (answer : Except StoreError (Option Model)) : Prop where
  absent (never : NeverAt place writes) : answer = .ok none
  present {value : Json} {object : Object}
    (last : LastAt place writes value object) :
    answer =
      match codec.decode? value with
      | some model => .ok (some (settle model))
      | none => .error place.undecodable

structure Remembers (store : MemoryStore) (writes : List (ObjectKey × Json)) :
    Prop where
  answers (place : ObjectKey) :
    store.read place = .error place.notFound ∨
      ∃ object, store.read place = .ok object
  absent {place : ObjectKey} (known : place.resource ∈ ResourceKind.known) :
    store.read place = .error place.notFound ↔ NeverAt place writes
  present {place : ObjectKey} (known : place.resource ∈ ResourceKind.known)
    {object : Object} :
    store.read place = .ok object ↔ ∃ value, LastAt place writes value object
  databases (engine : Engine) (namespaceName name : String) :
    ResolvesLast Database.codec Database.wholeSeconds
      (.database engine namespaceName name) writes
      (store.read.database? engine namespaceName name)
  versions (engine : Engine) (name : String) :
    ResolvesLast CatalogVersion.codec CatalogVersion.wholeSeconds
      (.version engine name) writes (store.read.version? engine name)

section

variable {writes : List (ObjectKey × Json)}

theorem read_insertAll
    (known : ∀ write ∈ writes, write.1.resource ∈ ResourceKind.known)
    {place : ObjectKey} (hplace : place.resource ∈ ResourceKind.known) :
    (({} : MemoryStore).insertAll writes).read place =
      match lastWritten? place writes with
      | some object => .ok object
      | none => .error place.notFound := by
  have hfound : (({} : MemoryStore).insertAll writes).find? place =
      lastWritten? place writes := by
    rw [find?_insertAll hplace _ known]
    exact Option.or_none
  rw [read_eq (unavailable_insertAll _ _)]
  cases hlast : lastWritten? place writes <;> simp only [hfound, hlast]

theorem resolvesLast {Model : Type} {codec : Codec Model}
    {settle : Model → Model} (law : codec.ReadsApart settle)
    (known : ∀ write ∈ writes, write.1.resource ∈ ResourceKind.known)
    (canonical : ∀ write ∈ writes, write.2.isCanonical = true)
    {place : ObjectKey} (hplace : place.resource ∈ ResourceKind.known) :
    ResolvesLast codec settle place writes
      ((({} : MemoryStore).insertAll writes).read.resolve codec place) where
  absent never := by
    have hmissing := (lastWritten?_eq_none_iff canonical).2 never
    simp only [ObjectStore.resolve, ObjectStore.find?,
      read_insertAll known hplace, hmissing, ObjectKey.notFound]
  present {value object} last := by
    have hfound := (lastWritten?_eq_some_iff canonical).2 ⟨value, last⟩
    simp only [ObjectStore.resolve, ObjectStore.find?,
      read_insertAll known hplace, hfound,
      last.holds.decode? law (last.canonical canonical)]
    cases codec.decode? value <;> rfl

theorem remembers_insertAll
    (known : ∀ write ∈ writes, write.1.resource ∈ ResourceKind.known)
    (canonical : ∀ write ∈ writes, write.2.isCanonical = true) :
    Remembers (({} : MemoryStore).insertAll writes) writes where
  answers place := by
    rw [read_eq (unavailable_insertAll _ _)]
    split
    · exact .inr ⟨_, rfl⟩
    · exact .inl rfl
  absent {place} hplace := by
    rw [read_insertAll known hplace, ← lastWritten?_eq_none_iff canonical]
    cases lastWritten? place writes <;> simp
  present {place} hplace object := by
    rw [read_insertAll known hplace, ← lastWritten?_eq_some_iff canonical]
    cases lastWritten? place writes <;> simp
  databases engine namespaceName name :=
    resolvesLast Database.readsApart known canonical
      engine.databaseResource_mem_known
  versions engine name :=
    resolvesLast CatalogVersion.readsApart known canonical
      engine.versionResource_mem_known

/-- A store in memory is a faithful map: it holds the last value at every place,
and a value that becomes no object leaves it as it was. -/
theorem memory_faithful (writes : List (ObjectKey × Json))
    (known : ∀ write ∈ writes, write.1.resource ∈ ResourceKind.known)
    (canonical : ∀ write ∈ writes, write.2.isCanonical = true) :
    Remembers (({} : MemoryStore).insertAll writes) writes ∧
      ∀ before key value after, writes = before ++ (key, value) :: after →
        let store := ({} : MemoryStore).insertAll before
        (∃ object next, key.Holds value object ∧
            store.insert key value = .ok next) ∨
          (∀ object, ¬ key.Holds value object) ∧
            store.insert key value = .error key.undecodable ∧
            ({} : MemoryStore).insertAll writes =
              ({} : MemoryStore).insertAll (before ++ after) := by
  refine ⟨remembers_insertAll known canonical, ?_⟩
  rintro before key value after rfl
  have hvalue : value.isCanonical = true :=
    canonical (key, value) (List.mem_append_right _ List.mem_cons_self)
  rw [insertAll_append, insertAll_append]
  exact insert_cases _ key hvalue after

end

/-! ## Example -/

def foreignDatabase : Json :=
  .object [("apiVersion", .string "foreign/v9"), ("metadata",
    .object [("creationTimestamp", .string "2024-01-01T00:00:00.5Z")]),
    ("spec", .object [("version", .string "8.0.35")])]

/-- The last of these values has no metadata that can be read. -/
def storedValues : List (ObjectKey × Json) :=
  [(.database .mySQL "a" "db", foreignDatabase),
    (.database .mySQL "b" "db", .object []),
    (.database .mySQL "a" "db", .object [("metadata", .null)])]

def resolvedDatabase : Database where
  metadata := { creationTimestamp := some ⟨2024, 1, 1, 0, 0, 0, 0⟩ }
  spec := { version := "8.0.35" }

theorem storedValues_resolved :
    let store := ({} : MemoryStore).insertAll storedValues
    store.read.database? .mySQL "a" "db" = .ok (some resolvedDatabase) ∧
      store.read.database? .mySQL "c" "db" = .ok none ∧
      store = ({} : MemoryStore).insertAll storedValues.dropLast := by
  have hknown : ∀ write ∈ storedValues,
      write.1.resource ∈ ResourceKind.known := by
    decide +kernel
  have hcanonical : ∀ write ∈ storedValues, write.2.isCanonical = true := by
    decide +kernel
  obtain ⟨hremembers, htrace⟩ := memory_faithful storedValues hknown hcanonical
  have hnever : NeverAt (.database .mySQL "a" "db") storedValues.tail :=
    (lastWritten?_eq_none_iff fun write h => hcanonical write
      (List.mem_of_mem_tail h)).1 (by decide +kernel)
  have habsent : NeverAt (.database .mySQL "c" "db") storedValues :=
    (lastWritten?_eq_none_iff hcanonical).1 (by decide +kernel)
  obtain ⟨object, hobject⟩ : ∃ object,
      object? (Engine.databaseResource .mySQL) foreignDatabase = some object :=
    Option.isSome_iff_exists.1 (by decide +kernel)
  have holds : (ObjectKey.database .mySQL "a" "db").Holds foreignDatabase object :=
    (object?_eq_some_iff (by decide +kernel)).1 hobject
  have hdecoded : (Database.codec.decode? foreignDatabase).map
      Database.wholeSeconds = some resolvedDatabase := by
    decide +kernel
  have hrefused : object? (Engine.databaseResource .mySQL)
      (.object [("metadata", .null)]) = none := by
    decide +kernel
  refine ⟨?_, (hremembers.databases .mySQL "c" "db").absent habsent, ?_⟩
  · rw [(hremembers.databases .mySQL "a" "db").present
      (.here ⟨rfl, rfl, fun _ => rfl⟩ holds hnever)]
    obtain ⟨database, hread, hwhole⟩ := Option.map_eq_some_iff.1 hdecoded
    rw [hread, ← hwhole]
  · rcases htrace (storedValues.take 2) _ _ [] rfl with
      ⟨object, -, holds, -⟩ | ⟨-, -, htrace⟩
    · rw [← object?_eq_some_iff (by decide +kernel)] at holds
      cases hrefused.symm.trans holds
    · exact htrace

end MemoryStore

end AdmissionGate
