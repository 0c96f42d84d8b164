import AdmissionGate.Json.Codec

/-!
# Entries by key

Looking up a key in a list of entries, before and after sorting.  Entries in
increasing key order are determined by what is found under each key, which is
how two sorted objects are shown to be equal.
-/

namespace AdmissionGate

variable {Value Other : Type}

/-! ## Keys -/

def entryKeys (entries : List (String × Value)) : List String :=
  entries.map Prod.fst

@[simp] theorem entryKeys_nil : entryKeys ([] : List (String × Value)) = [] := rfl

@[simp] theorem entryKeys_cons (entry : String × Value)
    (rest : List (String × Value)) :
    entryKeys (entry :: rest) = entry.1 :: entryKeys rest := rfl

@[simp] theorem entryKeys_append (front back : List (String × Value)) :
    entryKeys (front ++ back) = entryKeys front ++ entryKeys back := by
  simp [entryKeys]

theorem KeysIncrease.nodup {entries : List (String × Value)}
    (increase : KeysIncrease entries) : (entryKeys entries).Nodup := by
  rw [entryKeys, List.Nodup, List.pairwise_map]
  refine increase.imp ?_
  intro left right below same
  exact String.lt_irrefl _ (same ▸ below)

theorem KeysIncrease.tail {head : String × Value}
    {rest : List (String × Value)} (increase : KeysIncrease (head :: rest)) :
    KeysIncrease rest :=
  (List.pairwise_cons.1 increase).2

theorem KeysIncrease.of_entryKeys {left : List (String × Value)}
    {right : List (String × Other)} (increase : KeysIncrease left)
    (keys : entryKeys left = entryKeys right) : KeysIncrease right := by
  have hleft : (entryKeys left).Pairwise (· < ·) :=
    List.pairwise_map.2 increase
  rw [keys] at hleft
  exact List.pairwise_map.1 hleft

/-! ## Looking up -/

theorem lookUp?_append (key : String) (front back : List (String × Value)) :
    lookUp? key (front ++ back) =
      (lookUp? key front).or (lookUp? key back) := by
  induction front with
  | nil => rfl
  | cons head rest ih =>
      by_cases hkey : head.1 = key
      · simp [lookUp?, hkey]
      · simp [lookUp?, hkey, ih]

theorem lookUp?_eq_none_iff {key : String} {entries : List (String × Value)} :
    lookUp? key entries = none ↔ key ∉ entryKeys entries := by
  induction entries with
  | nil => simp [lookUp?]
  | cons head rest ih =>
      by_cases hkey : head.1 = key
      · simp [lookUp?, hkey]
      · simp [lookUp?, hkey, ih, Ne.symm hkey]

theorem mem_of_lookUp?_eq_some {key : String} {value : Value}
    {entries : List (String × Value)} (found : lookUp? key entries = some value) :
    (key, value) ∈ entries := by
  induction entries with
  | nil => simp [lookUp?] at found
  | cons head rest ih =>
      by_cases hkey : head.1 = key
      · simp only [lookUp?, hkey, if_true, Option.some.injEq] at found
        subst hkey found
        exact List.mem_cons_self
      · simp only [lookUp?, hkey, if_false] at found
        exact List.mem_cons_of_mem _ (ih found)

theorem lookUp?_map (key : String) (convert : Value → Other)
    (entries : List (String × Value)) :
    lookUp? key (entries.map fun entry => (entry.1, convert entry.2)) =
      (lookUp? key entries).map convert := by
  induction entries with
  | nil => rfl
  | cons head rest ih =>
      by_cases hkey : head.1 = key
      · simp [lookUp?, hkey]
      · simp [lookUp?, hkey, ih]

theorem lookUp?_filter (key : String) (keep : String → Bool)
    (entries : List (String × Value)) :
    lookUp? key (entries.filter fun entry => keep entry.1) =
      if keep key then lookUp? key entries else none := by
  induction entries with
  | nil => simp [lookUp?]
  | cons head rest ih =>
      by_cases hkey : head.1 = key
      · subst hkey
        cases hkeep : keep head.1 <;> simp [lookUp?, hkeep, ih]
      · cases hkeep : keep head.1 <;> simp [lookUp?, hkeep, hkey, ih]

theorem KeysIncrease.lookUp?_tail {head : String × Value}
    {rest : List (String × Value)} (increase : KeysIncrease (head :: rest)) :
    lookUp? head.1 rest = none :=
  lookUp?_eq_none_iff.2 (List.nodup_cons.1 increase.nodup).1

theorem KeysIncrease.lookUp?_of_lt {key : String} {head : String × Value}
    {rest : List (String × Value)} (increase : KeysIncrease (head :: rest))
    (below : key < head.1) : lookUp? key (head :: rest) = none := by
  rw [lookUp?_eq_none_iff]
  intro member
  obtain ⟨entry, hentry, rfl⟩ := List.mem_map.1 member
  rcases List.mem_cons.1 hentry with rfl | hrest
  · exact String.lt_irrefl _ below
  · exact String.lt_asymm below ((List.pairwise_cons.1 increase).1 entry hrest)

theorem KeysIncrease.ext {left right : List (String × Value)}
    (hleft : KeysIncrease left) (hright : KeysIncrease right)
    (agree : ∀ key, lookUp? key left = lookUp? key right) : left = right := by
  induction left generalizing right with
  | nil =>
      cases right with
      | nil => rfl
      | cons head rest => simpa [lookUp?] using agree head.1
  | cons first firsts ih =>
      cases right with
      | nil => simpa [lookUp?] using agree first.1
      | cons second seconds =>
          -- Were the keys different, the smaller one would be found on one
          -- side only.
          have hkeys : first.1 = second.1 := by
            refine String.le_antisymm ?_ ?_ <;> refine String.not_lt.1 ?_ <;>
              intro below
            · have found := agree second.1
              rw [hleft.lookUp?_of_lt below] at found
              simp [lookUp?] at found
            · have found := agree first.1
              rw [hright.lookUp?_of_lt below] at found
              simp [lookUp?] at found
          have hvalues : first.2 = second.2 := by
            simpa [lookUp?, hkeys] using agree second.1
          have hrest : firsts = seconds := by
            refine ih hleft.tail hright.tail ?_
            intro key
            by_cases hkey : first.1 = key
            · rw [← hkey, hleft.lookUp?_tail, hkeys, hright.lookUp?_tail]
            · have hother : second.1 ≠ key := hkeys ▸ hkey
              simpa [lookUp?, hkey, hother] using agree key
          rw [hrest, show first = second from Prod.ext hkeys hvalues]

theorem KeysIncrease.lookUp?_eq_some_iff {entries : List (String × Value)}
    (increase : KeysIncrease entries) {key : String} {value : Value} :
    lookUp? key entries = some value ↔ (key, value) ∈ entries := by
  refine ⟨mem_of_lookUp?_eq_some, ?_⟩
  induction entries with
  | nil => nofun
  | cons head rest ih =>
      intro member
      rcases List.mem_cons.1 member with rfl | hrest
      · simp [lookUp?]
      · have below : head.1 < key :=
          (List.pairwise_cons.1 increase).1 (key, value) hrest
        have hkey : head.1 ≠ key := fun same => String.lt_irrefl _ (same ▸ below)
        simp only [lookUp?, hkey, if_false]
        exact ih increase.tail hrest

@[simp] theorem Dict.keys_eq_nil_iff {dict : Dict Value} :
    dict.keys = [] ↔ dict.entries = [] :=
  List.map_eq_nil_iff

theorem Dict.eq_singleton_of_keys {dict : Dict Value} {key : String}
    (nonempty : dict.entries ≠ []) (only : ∀ other ∈ dict.keys, other = key) :
    ∃ value, dict = .singleton key value := by
  obtain ⟨entries, increase⟩ := dict
  cases entries with
  | nil => exact absurd rfl nonempty
  | cons first rest =>
      have hfirst : first.1 = key := only first.1 List.mem_cons_self
      cases rest with
      | nil =>
          subst hfirst
          exact ⟨first.2, rfl⟩
      | cons second rest =>
          have hsecond : second.1 = key :=
            only second.1 (List.mem_cons_of_mem _ List.mem_cons_self)
          have below : first.1 < second.1 :=
            (List.pairwise_cons.1 increase).1 second List.mem_cons_self
          rw [hfirst, hsecond] at below
          exact absurd below (String.lt_irrefl key)

/-! ## Sorting -/

theorem lookUp?_foldl_insertEntry (key : String)
    (entries : List (String × Value)) :
    ∀ start : List (String × Value), (entryKeys entries).Nodup →
      lookUp? key
          (entries.foldl (fun sorted entry => insertEntry entry.1 entry.2 sorted)
            start) =
        (lookUp? key entries).or (lookUp? key start) := by
  induction entries with
  | nil => intro start _; rfl
  | cons head rest ih =>
      intro start distinct
      obtain ⟨hfresh, hrest⟩ := List.nodup_cons.1 distinct
      rw [List.foldl_cons, ih _ hrest, lookUp?_insertEntry]
      by_cases hkey : head.1 = key
      · have hmissing : lookUp? key rest = none :=
          lookUp?_eq_none_iff.2 (hkey ▸ hfresh)
        simp [lookUp?, hkey, hmissing]
      · simp [lookUp?, hkey]

theorem lookUp?_sortEntries {entries : List (String × Value)}
    (distinct : (entryKeys entries).Nodup) (key : String) :
    lookUp? key (sortEntries entries) = lookUp? key entries := by
  rw [sortEntries, lookUp?_foldl_insertEntry key entries [] distinct]
  simp [lookUp?]

theorem insertEntry_map (convert : Value → Other) (key : String) (value : Value)
    (entries : List (String × Value)) :
    insertEntry key (convert value)
        (entries.map fun entry => (entry.1, convert entry.2)) =
      (insertEntry key value entries).map
        fun entry => (entry.1, convert entry.2) := by
  induction entries with
  | nil => rfl
  | cons head rest ih =>
      simp only [List.map_cons, insertEntry]
      split
      · rfl
      · split
        · rfl
        · simp [ih]

theorem sortEntries_map (convert : Value → Other)
    (entries : List (String × Value)) :
    sortEntries (entries.map fun entry => (entry.1, convert entry.2)) =
      (sortEntries entries).map fun entry => (entry.1, convert entry.2) := by
  have hfold : ∀ start : List (String × Value),
      (entries.map fun entry => (entry.1, convert entry.2)).foldl
          (fun sorted entry => insertEntry entry.1 entry.2 sorted)
          (start.map fun entry => (entry.1, convert entry.2)) =
        (entries.foldl (fun sorted entry => insertEntry entry.1 entry.2 sorted)
          start).map fun entry => (entry.1, convert entry.2) := by
    induction entries with
    | nil => intro start; rfl
    | cons head rest ih =>
        intro start
        simp only [List.map_cons, List.foldl_cons, insertEntry_map]
        exact ih _
  exact hfold []

/-! ## Members that are not named -/

theorem lookUp?_without (key : String) (names : List String)
    (members : Members) :
    lookUp? key (members.without names) =
      if key ∈ names then none else lookUp? key members := by
  rw [Members.without, lookUp?_filter key (fun name => !names.contains name)]
  by_cases hkey : key ∈ names <;> simp [hkey]

theorem KeysIncrease.without {members : Members}
    (increase : KeysIncrease members) (names : List String) :
    KeysIncrease (members.without names) :=
  List.Pairwise.filter _ increase

end AdmissionGate
