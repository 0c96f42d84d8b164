/-!
# Dictionaries

Finite maps from text keys, kept as lists of entries in strictly increasing key
order.  Two dictionaries with the same entries are equal.
-/

namespace AdmissionGate

/-! ## Ordered entries -/

def KeysIncrease {Value : Type} (entries : List (String × Value)) : Prop :=
  entries.Pairwise fun left right => left.1 < right.1

instance {Value : Type} (entries : List (String × Value)) :
    Decidable (KeysIncrease entries) :=
  inferInstanceAs (Decidable (entries.Pairwise _))

def insertEntry {Value : Type} (key : String) (value : Value) :
    List (String × Value) → List (String × Value)
  | [] => [(key, value)]
  | (head, held) :: rest =>
    if key < head then (key, value) :: (head, held) :: rest
    else if key = head then (key, value) :: rest
    else (head, held) :: insertEntry key value rest

/-- The entries in key order; of several entries with one key the last is
kept. -/
def sortEntries {Value : Type} (entries : List (String × Value)) :
    List (String × Value) :=
  entries.foldl (fun sorted entry => insertEntry entry.1 entry.2 sorted) []

def lookUp? {Value : Type} (key : String) : List (String × Value) → Option Value
  | [] => none
  | (head, held) :: rest => if head = key then some held else lookUp? key rest

theorem mem_insertEntry {Value : Type} {key : String} {value : Value}
    {entry : String × Value} {entries : List (String × Value)}
    (member : entry ∈ insertEntry key value entries) :
    entry = (key, value) ∨ entry ∈ entries := by
  induction entries with
  | nil => simpa [insertEntry] using member
  | cons head rest ih =>
      simp only [insertEntry] at member
      split at member
      · simpa using member
      · split at member
        · rcases List.mem_cons.1 member with same | inRest
          · exact .inl same
          · exact .inr (List.mem_cons_of_mem _ inRest)
        · rcases List.mem_cons.1 member with same | inRest
          · exact .inr (same ▸ List.mem_cons_self)
          · rcases ih inRest with same | old
            · exact .inl same
            · exact .inr (List.mem_cons_of_mem _ old)

theorem KeysIncrease.insertEntry {Value : Type}
    {entries : List (String × Value)}
    (increase : KeysIncrease entries) (key : String) (value : Value) :
    KeysIncrease (insertEntry key value entries) := by
  induction entries with
  | nil => simp [AdmissionGate.insertEntry, KeysIncrease]
  | cons head rest ih =>
      obtain ⟨headKey, held⟩ := head
      have headBelow := (List.pairwise_cons.1 increase).1
      have restIncreases : KeysIncrease rest :=
        (List.pairwise_cons.1 increase).2
      simp only [AdmissionGate.insertEntry]
      split
      · rename_i below
        refine List.pairwise_cons.2 ⟨?_, increase⟩
        intro entry member
        rcases List.mem_cons.1 member with same | inRest
        · exact same ▸ below
        · exact String.lt_trans below (headBelow entry inRest)
      · split
        · rename_i same
          subst same
          exact List.pairwise_cons.2 ⟨headBelow, restIncreases⟩
        · rename_i notBelow different
          refine List.pairwise_cons.2 ⟨?_, ih restIncreases⟩
          intro entry member
          rcases mem_insertEntry member with same | old
          · subst same
            rcases String.le_total headKey key with le | ge
            · rcases Decidable.em (headKey < key) with lt | notLt
              · exact lt
              · exact absurd (String.le_antisymm (String.not_lt.1 notLt) le)
                  different
            · exact absurd (String.le_antisymm ge (String.not_lt.1 notBelow))
                different
          · exact headBelow entry old

theorem keysIncrease_foldl_insertEntry {Value : Type}
    (entries : List (String × Value)) :
    ∀ {start : List (String × Value)}, KeysIncrease start →
      KeysIncrease
        (entries.foldl
          (fun sorted entry => insertEntry entry.1 entry.2 sorted) start) := by
  induction entries with
  | nil => exact fun increase => increase
  | cons head rest ih =>
      exact fun increase => ih (increase.insertEntry head.1 head.2)

theorem keysIncrease_sortEntries {Value : Type}
    (entries : List (String × Value)) : KeysIncrease (sortEntries entries) :=
  keysIncrease_foldl_insertEntry entries List.Pairwise.nil

/-! ## Dictionaries -/

structure Dict (Value : Type) where
  entries : List (String × Value)
  increase : KeysIncrease entries
deriving DecidableEq

namespace Dict

variable {Value Other : Type}

instance [Repr Value] : Repr (Dict Value) where
  reprPrec dict precedence := reprPrec dict.entries precedence

def empty : Dict Value := ⟨[], List.Pairwise.nil⟩

instance : Inhabited (Dict Value) := ⟨empty⟩

def isEmpty (dict : Dict Value) : Bool := dict.entries.isEmpty

def size (dict : Dict Value) : Nat := dict.entries.length

def keys (dict : Dict Value) : List String := dict.entries.map Prod.fst

def find? (dict : Dict Value) (key : String) : Option Value :=
  lookUp? key dict.entries

def insert (dict : Dict Value) (key : String) (value : Value) : Dict Value :=
  ⟨insertEntry key value dict.entries, dict.increase.insertEntry key value⟩

def ofList (entries : List (String × Value)) : Dict Value :=
  ⟨sortEntries entries, keysIncrease_sortEntries entries⟩

def singleton (key : String) (value : Value) : Dict Value :=
  ⟨[(key, value)], by simp [KeysIncrease]⟩

@[ext] theorem ext {left right : Dict Value}
    (same : left.entries = right.entries) : left = right := by
  cases left; cases right; cases same; rfl

end Dict

/-! ## Looking up after writing -/

theorem lookUp?_insertEntry {Value : Type} (key wanted : String) (value : Value)
    (entries : List (String × Value)) :
    lookUp? wanted (insertEntry key value entries) =
      if key = wanted then some value else lookUp? wanted entries := by
  induction entries with
  | nil => simp [insertEntry, lookUp?]
  | cons head rest ih =>
      simp only [insertEntry]
      split
      · simp [lookUp?]
      · split
        · rename_i same
          subst same
          by_cases wantedHead : head.1 = wanted <;> simp [lookUp?, wantedHead]
        · rename_i different
          simp only [lookUp?, ih]
          by_cases wantedHead : head.1 = wanted
          · have otherKey : key ≠ wanted :=
              fun same => different (same.trans wantedHead.symm)
            simp [wantedHead, otherKey]
          · simp [wantedHead]

@[simp] theorem Dict.find?_insert {Value : Type} (dict : Dict Value)
    (key wanted : String) (value : Value) :
    (dict.insert key value).find? wanted =
      if key = wanted then some value else dict.find? wanted :=
  lookUp?_insertEntry key wanted value dict.entries

/-- Entries in order are kept as they are. -/
theorem insertEntry_append_of_lt {Value : Type} {key : String} {value : Value}
    {entries : List (String × Value)}
    (above : ∀ entry ∈ entries, entry.1 < key) :
    insertEntry key value entries = entries ++ [(key, value)] := by
  induction entries with
  | nil => rfl
  | cons head rest ih =>
      have headBelow := above head List.mem_cons_self
      have notBelow : ¬ key < head.1 := String.lt_asymm headBelow
      have different : key ≠ head.1 :=
        fun same => String.lt_irrefl _ (same ▸ headBelow)
      simp only [insertEntry, notBelow, different, if_false]
      rw [ih fun entry member => above entry (List.mem_cons_of_mem _ member)]
      rfl

theorem foldl_insertEntry_of_keysIncrease {Value : Type}
    (entries : List (String × Value)) :
    ∀ start : List (String × Value), KeysIncrease (start ++ entries) →
      entries.foldl
        (fun sorted entry => insertEntry entry.1 entry.2 sorted) start =
        start ++ entries := by
  induction entries with
  | nil => intro start _; simp
  | cons head rest ih =>
      intro start increase
      have above : ∀ entry ∈ start, entry.1 < head.1 := fun entry member =>
        (List.pairwise_append.1 increase).2.2 entry member head
          List.mem_cons_self
      simp only [List.foldl_cons, insertEntry_append_of_lt above]
      rw [ih (start ++ [(head.1, head.2)]) (by simpa using increase)]
      simp

theorem sortEntries_of_keysIncrease {Value : Type}
    {entries : List (String × Value)}
    (increase : KeysIncrease entries) : sortEntries entries = entries := by
  simpa [sortEntries] using
    foldl_insertEntry_of_keysIncrease entries [] (by simpa using increase)

@[simp] theorem Dict.ofList_entries {Value : Type} (dict : Dict Value) :
    Dict.ofList dict.entries = dict :=
  Dict.ext (sortEntries_of_keysIncrease dict.increase)

end AdmissionGate
