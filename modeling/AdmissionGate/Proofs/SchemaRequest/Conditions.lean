import AdmissionGate.Proofs.SchemaRequest.Provisioned
import Mathlib.Data.List.Find
import Mathlib.Data.List.Nodup

/-!
# Conditions as a set

The phase depends on the conditions only by which of the consulted types they
show.  Their order, entries after the first one of a type, and conditions of
other types do not count.
-/

namespace AdmissionGate

/-! ## The first condition of a type -/

namespace Condition

variable {conditions others : List Condition} {type : String}

theorem firstHolds_congr (h : find? conditions type = find? others type) :
    FirstHolds conditions type ↔ FirstHolds others type := by
  rw [← isTrue_iff, ← isTrue_iff, isTrue, isTrue, h]

theorem find?_of_perm (perm : conditions.Perm others)
    (distinct : (conditions.map Condition.type).Nodup) :
    find? conditions type = find? others type := by
  refine List.find?_eq_find?_of_perm perm ?_
  rintro left ⟨hleft, htype⟩ right ⟨hright, htype'⟩
  rw [beq_iff_eq] at htype htype'
  exact List.inj_on_of_nodup_map distinct hleft hright (htype.trans htype'.symm)

theorem find?_append_of_known {more : List Condition}
    (known : ∀ condition ∈ more,
      condition.type ∈ conditions.map Condition.type) :
    find? (conditions ++ more) type = find? conditions type := by
  rw [find?, find?, List.find?_append]
  cases hfound : conditions.find? fun condition => condition.type == type with
  | some condition => rfl
  | none =>
      -- No condition has the type, and thus none of the further ones.
      rw [List.find?_eq_none] at hfound
      rw [Option.none_or, List.find?_eq_none]
      intro condition hmore htype
      obtain ⟨other, hother, hsame⟩ := List.mem_map.1 (known condition hmore)
      rw [beq_iff_eq] at htype
      exact hfound other hother (beq_iff_eq.2 (hsame.trans htype))

theorem find?_insert_of_ne {front back : List Condition} {condition : Condition}
    (other : condition.type ≠ type) :
    find? (front ++ condition :: back) type = find? (front ++ back) type := by
  rw [find?, find?, List.find?_append, List.find?_append,
    List.find?_cons_of_neg (by simpa using other)]

end Condition

/-! ## Consulted conditions -/

/-- The types of the conditions that the phase of a request depends on. -/
def SchemaKind.consulted (kind : SchemaKind) : List String :=
  ["SecretAccessRequestCreated", "SecretAccessRequestApproved",
    "SecretAccessRequestDenied", "SecretAccessRequestExpired", "SchemaIgnored",
    "VaultNotReady", "DatabaseCreated", "ScriptApplied", "FailedInitializing",
    "RestoredFromRepository", "FailedRestoring", kind.engine.kind ++ "NotReady"]

theorem SchemaCondition.type_mem_consulted (condition : SchemaCondition)
    (kind : SchemaKind) : condition.type ∈ kind.consulted := by
  cases condition <;> simp [type, SchemaKind.consulted]

theorem SchemaKind.notReadyCondition_mem_consulted (kind : SchemaKind) :
    kind.notReadyCondition ∈ kind.consulted := by
  simp [notReadyCondition, consulted]

theorem SchemaKind.foreign_not_mem_consulted {kind : SchemaKind} {engine : Engine}
    (foreign : engine ≠ kind.engine) :
    engine.kind ++ "NotReady" ∉ kind.consulted := by
  have hall : ∀ engine ∈ Engine.all, engine ≠ kind.engine →
      engine.kind ++ "NotReady" ∉ kind.consulted := by
    cases kind <;> decide
  exact hall engine engine.mem_all foreign

namespace SchemaRequest

structure Alike (left right : SchemaRequest) : Prop where
  deletion :
    left.metadata.deletionTimestamp = right.metadata.deletionTimestamp
  stored : left.storedPhase? = right.storedPhase?
  init : left.spec.init = right.spec.init

section

variable {left right : SchemaRequest} {kind : SchemaKind}

theorem phase_congr (alike : left.Alike right)
    (shown : ∀ type ∈ kind.consulted, (left.Shows type ↔ right.Shows type)) :
    left.phase kind = right.phase kind := by
  have hmeets (condition : SchemaCondition) :
      left.meets condition = right.meets condition := by
    rw [Bool.eq_iff_iff, meets_iff, meets_iff]
    exact shown _ (condition.type_mem_consulted kind)
  have hready : Condition.isTrue left.conditions kind.notReadyCondition =
      Condition.isTrue right.conditions kind.notReadyCondition := by
    rw [Bool.eq_iff_iff, Condition.isTrue_iff, Condition.isTrue_iff]
    exact shown _ kind.notReadyCondition_mem_consulted
  unfold phase createdPhase restoresSnapshot
  rw [alike.deletion, alike.stored, alike.init, hready]
  simp only [hmeets]

theorem phase_of_found (alike : left.Alike right)
    (found : ∀ type ∈ kind.consulted,
      Condition.find? left.conditions type =
        Condition.find? right.conditions type) :
    left.phase kind = right.phase kind :=
  phase_congr alike fun type htype =>
    Condition.firstHolds_congr (found type htype)

end

/-- Requests that show the same of the consulted conditions have the same phase.
So the phase stays when conditions of different types are rearranged, when
further ones of known types come after them, and when one of a type that is not
consulted is inserted anywhere. -/
theorem conditions_count_as_set (kind : SchemaKind) (left right : SchemaRequest)
    (alike : left.Alike right) :
    ((∀ type ∈ kind.consulted, (left.Shows type ↔ right.Shows type)) →
      left.phase kind = right.phase kind) ∧
    (left.conditions.Perm right.conditions →
      (left.conditions.map Condition.type).Nodup →
      left.phase kind = right.phase kind) ∧
    (∀ more : List Condition, right.conditions = left.conditions ++ more →
      (∀ condition ∈ more,
        condition.type ∈ left.conditions.map Condition.type) →
      left.phase kind = right.phase kind) ∧
    ∀ (front back : List Condition) (condition : Condition),
      left.conditions = front ++ back →
      right.conditions = front ++ condition :: back →
      (condition.type ∉ kind.consulted ∨
        ∃ engine ≠ kind.engine, condition.type = engine.kind ++ "NotReady") →
      left.phase kind = right.phase kind := by
  refine ⟨phase_congr alike, ?_, ?_, ?_⟩
  · intro perm distinct
    exact phase_of_found alike fun type _ =>
      Condition.find?_of_perm perm distinct
  · intro more hright known
    refine phase_of_found alike fun type _ => ?_
    rw [hright, Condition.find?_append_of_known known]
  · intro front back condition hleft hright unconsulted
    have hunconsulted : condition.type ∉ kind.consulted := by
      rcases unconsulted with unconsulted | ⟨engine, foreign, htype⟩
      · exact unconsulted
      · rw [htype]
        exact SchemaKind.foreign_not_mem_consulted foreign
    refine phase_of_found alike fun type htype => ?_
    rw [hleft, hright, Condition.find?_insert_of_ne]
    exact fun same => hunconsulted (same ▸ htype)

/-! ### A database that has been created -/

def observing (conditions : List (String × String)) : SchemaRequest where
  spec := {}
  status := some {
    conditions := conditions.map fun (type, status) => { type, status } }

def createdRequest : SchemaRequest :=
  observing [("DatabaseCreated", "True"), ("VaultNotReady", "Unknown")]

/-- The vault counts as ready, whatever a later condition says, and the server
of another engine is not asked for. -/
theorem rearranged_conditions_success :
    createdRequest.phase .mySQL = .success ∧
      createdRequest.phase .mySQL =
        (observing [("DatabaseCreated", "True")]).phase .mySQL ∧
      createdRequest.phase .mySQL =
        (observing [("VaultNotReady", "Unknown"),
          ("DatabaseCreated", "True")]).phase .mySQL ∧
      createdRequest.phase .mySQL =
        (observing [("DatabaseCreated", "True"), ("VaultNotReady", "Unknown"),
          ("VaultNotReady", "True")]).phase .mySQL ∧
      createdRequest.phase .mySQL =
        (observing [("DatabaseCreated", "True"), ("PostgresNotReady", "True"),
          ("VaultNotReady", "Unknown")]).phase .mySQL := by
  have hset (conditions : List (String × String)) :=
    conditions_count_as_set .mySQL createdRequest (observing conditions)
      ⟨rfl, rfl, rfl⟩
  refine ⟨by decide, ?_, ?_, ?_, ?_⟩
  · exact (hset _).1 (by decide)
  · exact (hset _).2.1 (.swap _ _ _) (by decide)
  · exact (hset _).2.2.1 [⟨"VaultNotReady", "True", "", "", "", none⟩] rfl
      (by decide)
  · exact (hset _).2.2.2 [⟨"DatabaseCreated", "True", "", "", "", none⟩] _
      ⟨"PostgresNotReady", "True", "", "", "", none⟩ rfl rfl
      (.inr ⟨.postgres, by decide, rfl⟩)

/-- The order counts among conditions of one type. -/
example :
    (observing [("DatabaseCreated", "True"),
      ("DatabaseCreated", "False")]).phase .mySQL = .success ∧
    (observing [("DatabaseCreated", "False"),
      ("DatabaseCreated", "True")]).phase .mySQL = .waiting := by
  decide

end SchemaRequest
end AdmissionGate
