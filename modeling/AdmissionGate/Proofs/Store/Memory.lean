import AdmissionGate.Proofs.Store.Responsive
import AdmissionGate.Store.Memory
import Mathlib.Data.List.Nodup

/-!
# Stores in memory as maps

The place of an object in memory is told apart by its kind, by its name and, for
kinds that have one, by its namespace.  What a store holds at a place is the last
object that was written there.
-/

namespace AdmissionGate

/-! ## Places -/

def ResourceKind.known : List ResourceKind :=
  .secret :: (Engine.all.map Engine.databaseResource ++
    Engine.all.map Engine.opsResource ++ Engine.all.map Engine.versionResource)

theorem Engine.databaseResource_mem_known (engine : Engine) :
    engine.databaseResource ∈ ResourceKind.known := by
  simp only [ResourceKind.known, List.mem_cons, List.mem_append, List.mem_map]
  exact .inr (.inl (.inl ⟨engine, engine.mem_all, rfl⟩))

theorem Engine.versionResource_mem_known (engine : Engine) :
    engine.versionResource ∈ ResourceKind.known := by
  simp only [ResourceKind.known, List.mem_cons, List.mem_append, List.mem_map]
  exact .inr (.inr ⟨engine, engine.mem_all, rfl⟩)

namespace ObjectKey

/-- Whether two keys stand for one place.  Kinds of the whole cluster have no
namespaces. -/
def SamePlace (key other : ObjectKey) : Prop :=
  key.resource = other.resource ∧ key.name = other.name ∧
    (key.resource.namespaced = true → key.namespaceName = other.namespaceName)

instance (key other : ObjectKey) : Decidable (key.SamePlace other) :=
  inferInstanceAs (Decidable (_ ∧ _ ∧ _))

end ObjectKey

theorem ResourceKind.nodup_qualifiedName :
    (known.map qualifiedName).Nodup := by
  decide +kernel

theorem ResourceKind.eq_of_qualifiedName_eq {resource other : ResourceKind}
    (hresource : resource ∈ known) (hother : other ∈ known)
    (h : resource.qualifiedName = other.qualifiedName) : resource = other :=
  List.inj_on_of_nodup_map nodup_qualifiedName hresource hother h

theorem ObjectKey.memoryKey_eq_iff {key other : ObjectKey}
    (hkey : key.resource ∈ ResourceKind.known)
    (hother : other.resource ∈ ResourceKind.known) :
    key.memoryKey = other.memoryKey ↔ key.SamePlace other := by
  simp only [memoryKey, MemoryKey.mk.injEq, SamePlace]
  constructor
  · rintro ⟨hkind, hspace, hname⟩
    have hresource := ResourceKind.eq_of_qualifiedName_eq hkey hother hkind
    refine ⟨hresource, hname, fun hnamespaced => ?_⟩
    rw [← hresource, if_pos hnamespaced, if_pos hnamespaced] at hspace
    exact hspace
  · rintro ⟨hresource, hname, hspace⟩
    rw [← hresource]
    refine ⟨rfl, ?_, hname⟩
    split
    · exact hspace ‹_›
    · rfl

/-! ## Contents -/

namespace MemoryStore

def find? (store : MemoryStore) (key : ObjectKey) : Option Object :=
  store.objects.lookup key.memoryKey

theorem read_eq {store : MemoryStore} (available : store.unavailable = false)
    (key : ObjectKey) :
    store.read key =
      match store.find? key with
      | some object => .ok object
      | none => .error key.notFound := by
  unfold read find?
  rw [available]
  cases store.objects.lookup key.memoryKey <;> rfl

theorem read_congr {left right : MemoryStore}
    (hleft : left.unavailable = false) (hright : right.unavailable = false)
    {key : ObjectKey} (agree : left.find? key = right.find? key) :
    left.read key = right.read key := by
  rw [read_eq hleft, read_eq hright, agree]

theorem responsive_read {store : MemoryStore}
    (available : store.unavailable = false)
    (databases : ∀ engine namespaceName name object,
      store.find? (.database engine namespaceName name) = some object →
      (Database.codec.decode? object.toJson.canonical).isSome)
    (versions : ∀ engine name object,
      store.find? (.version engine name) = some object →
      (CatalogVersion.codec.decode? object.toJson.canonical).isSome) :
    store.read.Responsive := by
  have held {key : ObjectKey} {object : Object}
      (found : store.read key = .ok object) : store.find? key = some object := by
    rw [read_eq available] at found
    split at found
    · cases found
      assumption
    · cases found
  refine ⟨fun key => ?_, fun found => ?_, fun found => ?_⟩
  · rw [read_eq available]
    split
    · exact .inl ⟨_, rfl⟩
    · exact .inr ⟨_, _, rfl⟩
  · exact databases _ _ _ _ (held found)
  · exact versions _ _ _ (held found)

/-! ## Writing -/

/-- Writes one value after the other; values that are no objects are left
out. -/
def insertAll (store : MemoryStore) : List (ObjectKey × Json) → MemoryStore
  | [] => store
  | (key, value) :: rest =>
      match store.insert key value with
      | .ok next => next.insertAll rest
      | .error _ => store.insertAll rest

def lastWritten? (key : ObjectKey) : List (ObjectKey × Json) → Option Object
  | [] => none
  | (other, value) :: rest =>
      (lastWritten? key rest).or
        (if other.SamePlace key then object? other.resource value else none)

section

variable {store next : MemoryStore} {key other : ObjectKey} {value : Json}

theorem insert_eq_ok : store.insert key value = .ok next ↔
    ∃ object, object? key.resource value = some object ∧
      next = { store with
        objects := (key.memoryKey, object) :: store.objects } := by
  unfold insert
  split
  · rename_i object hobject
    simp [hobject, eq_comm]
  · rename_i hobject
    simp [hobject]

theorem object?_of_insert_eq_error {error : StoreError}
    (h : store.insert key value = .error error) :
    object? key.resource value = none := by
  unfold insert at h
  split at h
  · cases h
  · assumption

theorem find?_insert (hkey : key.resource ∈ ResourceKind.known)
    (hother : other.resource ∈ ResourceKind.known)
    (h : store.insert key value = .ok next) :
    next.find? other =
      if key.SamePlace other then object? key.resource value
      else store.find? other := by
  obtain ⟨object, hobject, rfl⟩ := insert_eq_ok.1 h
  have hplace := ObjectKey.memoryKey_eq_iff hkey hother
  by_cases hsame : key.SamePlace other
  · rw [if_pos hsame, hobject, find?, hplace.2 hsame, List.lookup_cons_self]
  · have hdifferent : (other.memoryKey == key.memoryKey) = false := by
      rw [beq_eq_false_iff_ne]
      exact fun same => hsame (hplace.1 same.symm)
    rw [if_neg hsame, find?, List.lookup_cons, hdifferent]
    rfl

end

theorem unavailable_insertAll (store : MemoryStore)
    (writes : List (ObjectKey × Json)) :
    (store.insertAll writes).unavailable = store.unavailable := by
  induction writes generalizing store with
  | nil => rfl
  | cons write rest ih =>
      obtain ⟨key, value⟩ := write
      rw [insertAll]
      split
      · rename_i next h
        obtain ⟨object, -, rfl⟩ := insert_eq_ok.1 h
        exact ih _
      · exact ih store

theorem find?_insertAll {key : ObjectKey}
    (hkey : key.resource ∈ ResourceKind.known) (store : MemoryStore)
    {writes : List (ObjectKey × Json)}
    (hwrites : ∀ write ∈ writes, write.1.resource ∈ ResourceKind.known) :
    (store.insertAll writes).find? key =
      (lastWritten? key writes).or (store.find? key) := by
  induction writes generalizing store with
  | nil => rfl
  | cons write rest ih =>
      obtain ⟨other, value⟩ := write
      have hother := hwrites (other, value) List.mem_cons_self
      have hrest : ∀ write ∈ rest, write.1.resource ∈ ResourceKind.known :=
        fun write h => hwrites write (List.mem_cons_of_mem _ h)
      rw [insertAll, lastWritten?, Option.or_assoc]
      split
      · rename_i next h
        rw [ih next hrest, find?_insert hother hkey h]
        obtain ⟨object, hobject, -⟩ := insert_eq_ok.1 h
        by_cases hsame : other.SamePlace key <;> simp [hsame, hobject]
      · rename_i error h
        rw [ih store hrest, object?_of_insert_eq_error h]
        simp

end MemoryStore
end AdmissionGate
