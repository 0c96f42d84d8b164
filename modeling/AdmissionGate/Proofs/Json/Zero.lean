import AdmissionGate.Json.Changes
import AdmissionGate.Proofs.Json.Entries

/-!
# Values without the sign of zero

Two values are the same when they are equal once no zero has a sign, and then
they have no changes between them.
-/

namespace AdmissionGate

/-! ## Numbers -/

def Binary64.unsignedZero (number : Binary64) : Binary64 :=
  if number.isZero then .zero false else number

theorem Binary64.sameNumber_iff (left right : Binary64) :
    left.sameNumber right = true ↔ left.unsignedZero = right.unsignedZero := by
  have hzero : (Binary64.zero false).isZero = true := by decide
  rw [sameNumber, unsignedZero, unsignedZero, Bool.or_eq_true, beq_iff_eq,
    Bool.and_eq_true]
  constructor
  · rintro (rfl | ⟨hleft, hright⟩)
    · rfl
    · rw [if_pos hleft, if_pos hright]
  · intro equal
    by_cases hleft : left.isZero <;> by_cases hright : right.isZero
    · exact .inr ⟨hleft, hright⟩
    · rw [if_pos hleft, if_neg hright] at equal
      exact absurd (equal ▸ hzero) hright
    · rw [if_neg hleft, if_pos hright] at equal
      exact absurd (equal.symm ▸ hzero) hleft
    · rw [if_neg hleft, if_neg hright] at equal
      exact .inl equal

namespace Json

/-! ## Values -/

mutual

def plain : Json → Json
  | .null => .null
  | .bool value => .bool value
  | .integer value => .integer value
  | .float value => .float value.unsignedZero
  | .string value => .string value
  | .array items => .array (plainItems items)
  | .object members => .object (plainMembers members)

def plainItems : List Json → List Json
  | [] => []
  | item :: rest => plain item :: plainItems rest

def plainMembers : List (String × Json) → List (String × Json)
  | [] => []
  | (key, value) :: rest => (key, plain value) :: plainMembers rest

end

theorem plainItems_eq_map (items : List Json) :
    plainItems items = items.map plain := by
  induction items with
  | nil => rfl
  | cons item rest ih => simp [plainItems, ih]

theorem plainMembers_eq_map (members : List (String × Json)) :
    plainMembers members =
      members.map fun member => (member.1, member.2.plain) := by
  induction members with
  | nil => rfl
  | cons member rest ih => simp [plainMembers, ih]

theorem plainMembers_append (front back : List (String × Json)) :
    plainMembers (front ++ back) = plainMembers front ++ plainMembers back := by
  simp [plainMembers_eq_map]

theorem sortEntries_plainMembers (members : List (String × Json)) :
    sortEntries (plainMembers members) = plainMembers (sortEntries members) := by
  simp only [plainMembers_eq_map, sortEntries_map]

mutual

theorem same_iff : ∀ left right : Json,
    same left right = true ↔ left.plain = right.plain
  | .null, right | .bool _, right | .integer _, right | .string _, right => by
      cases right <;> simp [same, plain]
  | .float _, right => by
      cases right <;> simp [same, plain, Binary64.sameNumber_iff]
  | .array lefts, right => by
      cases right <;> simp [same, plain, sameItems_iff lefts]
  | .object lefts, right => by
      cases right <;> simp [same, plain, sameMembers_iff lefts]

theorem sameItems_iff : ∀ lefts rights : List Json,
    sameItems lefts rights = true ↔ plainItems lefts = plainItems rights
  | [], rights => by cases rights <;> simp [sameItems, plainItems]
  | left :: lefts, rights => by
      cases rights with
      | nil => simp [sameItems, plainItems]
      | cons right rights =>
          simp [sameItems, plainItems, same_iff left, sameItems_iff lefts]

theorem sameMembers_iff : ∀ lefts rights : List (String × Json),
    sameMembers lefts rights = true ↔
      plainMembers lefts = plainMembers rights
  | [], rights => by cases rights <;> simp [sameMembers, plainMembers]
  | (leftKey, left) :: lefts, rights => by
      cases rights with
      | nil => simp [sameMembers, plainMembers]
      | cons right rights =>
          simp [sameMembers, plainMembers, same_iff left, sameMembers_iff lefts]

end

/-! ## Changes -/

mutual

theorem changes_eq_nil_iff : ∀ (path : String) (old new : Json),
    changes path old new = [] ↔ same old new = true
  | _, .null, _ | _, .bool _, _ | _, .integer _, _ | _, .float _, _
  | _, .string _, _ => by simp [changes]
  | path, .array olds, new => by
      cases new with
      | array news =>
          rw [changes, same]
          split
          · rename_i hlength
            exact itemChanges_eq_nil_iff path 0 olds news hlength
          · rename_i hlength
            refine ⟨nofun, fun hsame => absurd ?_ hlength⟩
            have hplain := congrArg List.length ((sameItems_iff _ _).1 hsame)
            simpa [plainItems_eq_map] using hplain
      | _ => simp [changes, same]
  | path, .object olds, new => by
      cases new with
      | object news =>
          rw [changes, same]
          exact memberChanges_eq_nil_iff path olds news
      | _ => simp [changes, same]

theorem memberChanges_eq_nil_iff :
    ∀ (path : String) (olds news : List (String × Json)),
      memberChanges path olds news = [] ↔ sameMembers olds news = true
  | path, [], news => by cases news <;> simp [memberChanges, sameMembers]
  | path, (oldKey, old) :: olds, news => by
      cases news with
      | nil => simp [memberChanges, sameMembers]
      | cons new news =>
          rw [memberChanges, sameMembers]
          by_cases hadded : new.1 < oldKey
          · have hkeys : oldKey ≠ new.1 := fun equal =>
              String.lt_irrefl _ (equal ▸ hadded)
            simp only [List.takeWhile_cons, decide_eq_true hadded, if_true,
              beq_eq_false_iff_ne.2 hkeys, Bool.false_and]
            exact ⟨nofun, nofun⟩
          · simp only [List.takeWhile_cons, List.dropWhile_cons,
              decide_eq_false hadded, Bool.false_eq_true, if_false,
              List.map_nil, List.nil_append]
            by_cases hkeys : oldKey = new.1
            · simp [hkeys, changes_eq_nil_iff _ old,
                memberChanges_eq_nil_iff path olds news]
            · simp [hkeys]

theorem itemChanges_eq_nil_iff :
    ∀ (path : String) (index : Nat) (olds news : List Json),
      olds.length = news.length →
        (itemChanges path index olds news = [] ↔ sameItems olds news = true)
  | _, _, [], news, hlength => by
      cases news with
      | nil => simp [itemChanges, sameItems]
      | cons new news => simp at hlength
  | path, index, old :: olds, news, hlength => by
      cases news with
      | nil => simp at hlength
      | cons new news =>
          rw [itemChanges, sameItems, List.append_eq_nil_iff, Bool.and_eq_true,
            changes_eq_nil_iff _ old,
            itemChanges_eq_nil_iff path (index + 1) olds news (by simpa using hlength)]

end

end Json
end AdmissionGate
