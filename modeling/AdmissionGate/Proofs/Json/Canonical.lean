import AdmissionGate.Proofs.Json.Entries

/-!
# Canonical values

The canonical form is reached in one step, and every part of a canonical value
is canonical again.
-/

namespace AdmissionGate.Json

/-! ## Lists of parts -/

theorem canonicalMembers_eq_map (members : List (String × Json)) :
    canonicalMembers members =
      members.map fun member => (member.1, member.2.canonical) := by
  induction members with
  | nil => rfl
  | cons member rest ih => simp [canonicalMembers, ih]

theorem itemsCanonical_iff {items : List Json} :
    itemsCanonical items = true ↔ ∀ item ∈ items, item.isCanonical = true := by
  induction items with
  | nil => simp [itemsCanonical]
  | cons item rest ih => simp [itemsCanonical, ih]

theorem membersCanonical_iff {members : List (String × Json)} :
    membersCanonical members = true ↔
      ∀ member ∈ members, member.2.isCanonical = true := by
  induction members with
  | nil => simp [membersCanonical]
  | cons member rest ih => simp [membersCanonical, ih]

theorem isCanonical_array {items : List Json} :
    (array items).isCanonical = true ↔
      ∀ item ∈ items, item.isCanonical = true := by
  rw [isCanonical, itemsCanonical_iff]

theorem isCanonical_object {members : List (String × Json)} :
    (object members).isCanonical = true ↔
      KeysIncrease members ∧ ∀ member ∈ members, member.2.isCanonical = true := by
  rw [isCanonical, Bool.and_eq_true, decide_eq_true_eq, membersCanonical_iff]

theorem isCanonical_of_lookUp? {key : String} {json : Json}
    {members : List (String × Json)}
    (hmembers : ∀ member ∈ members, member.2.isCanonical = true)
    (found : lookUp? key members = some json) : json.isCanonical = true :=
  hmembers _ (mem_of_lookUp?_eq_some found)

/-! ## Canonical forms are canonical -/

mutual

theorem canonical_of_isCanonical :
    ∀ json : Json, json.isCanonical = true → json.canonical = json
  | .null, _ | .bool _, _ | .integer _, _ | .float _, _ | .string _, _ => by
      simp [canonical]
  | .array items, h => by
      rw [isCanonical] at h
      rw [canonical, canonicalItems_of_itemsCanonical items h]
  | .object members, h => by
      rw [isCanonical, Bool.and_eq_true, decide_eq_true_eq] at h
      rw [canonical, canonicalMembers_of_membersCanonical members h.2,
        sortEntries_of_keysIncrease h.1]

theorem canonicalItems_of_itemsCanonical :
    ∀ items : List Json, itemsCanonical items = true →
      canonicalItems items = items
  | [], _ => rfl
  | item :: rest, h => by
      rw [itemsCanonical, Bool.and_eq_true] at h
      rw [canonicalItems, canonical_of_isCanonical item h.1,
        canonicalItems_of_itemsCanonical rest h.2]

theorem canonicalMembers_of_membersCanonical :
    ∀ members : List (String × Json), membersCanonical members = true →
      canonicalMembers members = members
  | [], _ => rfl
  | (key, value) :: rest, h => by
      rw [membersCanonical, Bool.and_eq_true] at h
      rw [canonicalMembers, canonical_of_isCanonical value h.1,
        canonicalMembers_of_membersCanonical rest h.2]

end

theorem mem_sortEntries {entry : String × Json}
    {entries : List (String × Json)} (member : entry ∈ sortEntries entries) :
    entry ∈ entries := by
  have hfold : ∀ (entries start : List (String × Json)),
      entry ∈ entries.foldl
        (fun sorted entry => insertEntry entry.1 entry.2 sorted) start →
      entry ∈ entries ∨ entry ∈ start := by
    intro entries
    induction entries with
    | nil => exact fun start member => .inr member
    | cons head rest ih =>
        intro start member
        rcases ih _ member with hrest | hstart
        · exact .inl (List.mem_cons_of_mem _ hrest)
        · rcases mem_insertEntry hstart with rfl | hstart
          · exact .inl List.mem_cons_self
          · exact .inr hstart
  simpa using hfold entries [] member

mutual

theorem isCanonical_canonical :
    ∀ json : Json, json.canonical.isCanonical = true
  | .null | .bool _ | .integer _ | .float _ | .string _ => by
      simp [canonical, isCanonical]
  | .array items => by
      rw [canonical, isCanonical_array]
      exact isCanonical_of_mem_canonicalItems items
  | .object members => by
      rw [canonical, isCanonical_object]
      refine ⟨keysIncrease_sortEntries _, ?_⟩
      intro member hmember
      exact isCanonical_of_mem_canonicalMembers members member
        (mem_sortEntries hmember)

theorem isCanonical_of_mem_canonicalItems :
    ∀ (items : List Json), ∀ item ∈ canonicalItems items,
      item.isCanonical = true
  | [], _, h => by simp [canonicalItems] at h
  | head :: rest, item, h => by
      rw [canonicalItems, List.mem_cons] at h
      rcases h with rfl | h
      · exact isCanonical_canonical head
      · exact isCanonical_of_mem_canonicalItems rest item h

theorem isCanonical_of_mem_canonicalMembers :
    ∀ (members : List (String × Json)), ∀ member ∈ canonicalMembers members,
      member.2.isCanonical = true
  | [], _, h => by simp [canonicalMembers] at h
  | (_, value) :: rest, member, h => by
      rw [canonicalMembers, List.mem_cons] at h
      rcases h with rfl | h
      · exact isCanonical_canonical value
      · exact isCanonical_of_mem_canonicalMembers rest member h

end

@[simp] theorem canonical_canonical (json : Json) :
    json.canonical.canonical = json.canonical :=
  canonical_of_isCanonical _ (isCanonical_canonical json)

end AdmissionGate.Json
