import AdmissionGate.Proofs.Json.Canonical
import AdmissionGate.Proofs.Json.Position
import AdmissionGate.Proofs.Json.Zero
import Mathlib.Data.List.Sort

/-!
# Places where two values differ

The changes between two values are the positions where they differ.  All of them
are listed, each once, in the order in which a reader meets them.
-/

namespace AdmissionGate.Json

/-! ## Lists of differences -/

/-- The paths are those of all the differences, in order and each once. -/
def Enumerates (start : String) (differs : Position → Prop)
    (paths : List String) : Prop :=
  ∃ positions : List Position, paths = positions.map (Position.path start) ∧
    positions.Pairwise Position.Before ∧
    ∀ position, position ∈ positions ↔ differs position

section

variable {start : String} {differs : Position → Prop}

theorem Enumerates.nothing (none : ∀ position, ¬ differs position) :
    Enumerates start differs [] :=
  ⟨[], rfl, .nil, fun position => ⟨nofun, fun h => absurd h (none position)⟩⟩

theorem Enumerates.root (only : ∀ position, differs position ↔ position = []) :
    Enumerates start differs [start] :=
  ⟨[[]], rfl, List.pairwise_singleton _ _,
    fun position => by rw [List.mem_singleton, only]⟩

theorem Enumerates.below {step : Step} {deeper later : Position → Prop}
    {front back : List String}
    (hfront : Enumerates (step.path start) deeper front)
    (hback : Enumerates start later back)
    (follows : ∀ position, later position →
      ∃ other rest, position = other :: rest ∧ step.Before other)
    (split : ∀ position, differs position ↔
      (∃ rest, position = step :: rest ∧ deeper rest) ∨ later position) :
    Enumerates start differs (front ++ back) := by
  obtain ⟨fronts, rfl, hfronts, hdeeper⟩ := hfront
  obtain ⟨backs, rfl, hbacks, hlater⟩ := hback
  refine ⟨fronts.map (step :: ·) ++ backs, ?_, ?_, fun position => ?_⟩
  · rw [List.map_append, List.map_map]
    rfl
  · rw [List.pairwise_append, List.pairwise_map]
    refine ⟨hfronts.imp List.Lex.cons, hbacks, ?_⟩
    intro first hfirst second hsecond
    obtain ⟨rest, -, rfl⟩ := List.mem_map.1 hfirst
    obtain ⟨other, deeper, rfl, hbefore⟩ :=
      follows second ((hlater second).1 hsecond)
    exact List.Lex.rel hbefore
  · rw [List.mem_append, List.mem_map, hlater, split]
    simp only [hdeeper, and_comm, eq_comm]

theorem Enumerates.congr {other : Position → Prop} {paths : List String}
    (h : Enumerates start differs paths)
    (same : ∀ position, other position ↔ differs position) :
    Enumerates start other paths := by
  obtain ⟨positions, hpaths, hordered, hmem⟩ := h
  exact ⟨positions, hpaths, hordered,
    fun position => (hmem position).trans (same position).symm⟩

theorem Enumerates.unique {paths paths' : List String}
    (h : Enumerates start differs paths)
    (h' : Enumerates start differs paths') : paths = paths' := by
  obtain ⟨positions, rfl, hordered, hmem⟩ := h
  obtain ⟨positions', rfl, hordered', hmem'⟩ := h'
  rw [hordered.eq_of_mem_iff hordered' fun position =>
    (hmem position).trans (hmem' position).symm]

end

/-! ## Members -/

def MembersDiffer (olds news : List (String × Json)) : Position → Prop
  | .member key :: rest =>
    PartsDiffer (lookUp? key olds) (lookUp? key news) rest
  | _ => False

theorem memberChanges_nil_cons (path : String) (new : String × Json)
    (news : List (String × Json)) :
    memberChanges path [] (new :: news) =
      memberPath path new.1 :: memberChanges path [] news := by
  simp [memberChanges]

theorem memberChanges_cons_nil (path : String) (old : String × Json)
    (olds : List (String × Json)) :
    memberChanges path (old :: olds) [] =
      memberPath path old.1 :: memberChanges path olds [] := by
  simp [memberChanges]

theorem memberChanges_cons_cons (path : String) (old new : String × Json)
    (olds news : List (String × Json)) :
    memberChanges path (old :: olds) (new :: news) =
      if new.1 < old.1 then
        memberPath path new.1 :: memberChanges path (old :: olds) news
      else if old.1 = new.1 then
        changes (memberPath path old.1) old.2 new.2 ++
          memberChanges path olds news
      else memberPath path old.1 :: memberChanges path olds (new :: news) := by
  by_cases hadded : new.1 < old.1
  · rw [if_pos hadded]
    simp only [memberChanges, List.takeWhile_cons, List.dropWhile_cons,
      decide_eq_true hadded, if_true, List.map_cons, List.cons_append]
  · rw [if_neg hadded]
    simp only [memberChanges, List.takeWhile_cons, List.dropWhile_cons,
      decide_eq_false hadded, Bool.false_eq_true, if_false, List.map_nil,
      List.nil_append]

section

variable {start key : String} {olds news olds' news' : List (String × Json)}

theorem PartsDiffer.found {old new : Option Json} {rest : Position}
    (h : PartsDiffer old new rest) : old ≠ none ∨ new ≠ none := by
  cases old with
  | some _ => exact .inl nofun
  | none =>
      cases new with
      | some _ => exact .inr nofun
      | none => exact h.elim

theorem lookUp?_eq_none_of_lt (below : ∀ member ∈ olds, key < member.1) :
    lookUp? key olds = none := by
  rw [lookUp?_eq_none_iff]
  intro hkey
  obtain ⟨member, hmember, rfl⟩ := List.mem_map.1 hkey
  exact String.lt_irrefl _ (below member hmember)

theorem lt_of_lookUp?_ne_none {other : String}
    (below : ∀ member ∈ olds, key < member.1)
    (found : lookUp? other olds ≠ none) : key < other := by
  obtain ⟨value, hvalue⟩ := Option.ne_none_iff_exists'.1 found
  exact below _ (mem_of_lookUp?_eq_some hvalue)

theorem enumerates_member {front back : List String}
    (below : ∀ member ∈ olds', key < member.1)
    (below' : ∀ member ∈ news', key < member.1)
    (hold : ∀ other ≠ key, lookUp? other olds = lookUp? other olds')
    (hnew : ∀ other ≠ key, lookUp? other news = lookUp? other news')
    (hfront : Enumerates (memberPath start key)
      (PartsDiffer (lookUp? key olds) (lookUp? key news)) front)
    (hback : Enumerates start (MembersDiffer olds' news') back) :
    Enumerates start (MembersDiffer olds news) (front ++ back) := by
  have hfront : Enumerates (Step.path start (.member key)) _ front := hfront
  refine hfront.below hback ?_ ?_
  · rintro (_ | ⟨other | _, rest⟩) hlater
    · exact hlater.elim
    · refine ⟨.member other, rest, rfl, ?_⟩
      rcases PartsDiffer.found hlater with hfound | hfound
      · exact lt_of_lookUp?_ne_none below hfound
      · exact lt_of_lookUp?_ne_none below' hfound
    · exact hlater.elim
  · rintro (_ | ⟨other | _, rest⟩)
    · simp [MembersDiffer]
    · by_cases hkey : other = key
      · subst hkey
        simp [MembersDiffer, lookUp?_eq_none_of_lt below,
          lookUp?_eq_none_of_lt below', PartsDiffer]
      · simp [MembersDiffer, hkey, hold other hkey, hnew other hkey]
    · simp [MembersDiffer]

theorem lookUp?_cons_of_ne {other : String} {entry : String × Json}
    (different : other ≠ entry.1) (rest : List (String × Json)) :
    lookUp? other (entry :: rest) = lookUp? other rest := by
  rw [lookUp?, if_neg (Ne.symm different)]

theorem lookUp?_cons_self (entry : String × Json)
    (rest : List (String × Json)) :
    lookUp? entry.1 (entry :: rest) = some entry.2 :=
  if_pos rfl

theorem lt_of_keysIncrease {entry : String × Json}
    (increase : KeysIncrease (entry :: olds)) :
    ∀ member ∈ olds, entry.1 < member.1 :=
  (List.pairwise_cons.1 increase).1

section

variable {old new : String × Json} {paths : List String}

theorem enumerates_removed (hold : KeysIncrease (old :: olds))
    (below : ∀ member ∈ news, old.1 < member.1)
    (hrest : Enumerates start (MembersDiffer olds news) paths) :
    Enumerates start (MembersDiffer (old :: olds) news)
      (memberPath start old.1 :: paths) := by
  have hroot : Enumerates (memberPath start old.1)
      (PartsDiffer (lookUp? old.1 (old :: olds)) (lookUp? old.1 news))
      [memberPath start old.1] := by
    rw [lookUp?_cons_self, lookUp?_eq_none_of_lt below]
    exact .root fun _ => .rfl
  exact enumerates_member (lt_of_keysIncrease hold) below
    (fun _ hne => lookUp?_cons_of_ne hne olds) (fun _ _ => rfl) hroot hrest

theorem enumerates_added (hnew : KeysIncrease (new :: news))
    (below : ∀ member ∈ olds, new.1 < member.1)
    (hrest : Enumerates start (MembersDiffer olds news) paths) :
    Enumerates start (MembersDiffer olds (new :: news))
      (memberPath start new.1 :: paths) := by
  have hroot : Enumerates (memberPath start new.1)
      (PartsDiffer (lookUp? new.1 olds) (lookUp? new.1 (new :: news)))
      [memberPath start new.1] := by
    rw [lookUp?_cons_self, lookUp?_eq_none_of_lt below]
    exact .root fun _ => .rfl
  exact enumerates_member below (lt_of_keysIncrease hnew) (fun _ _ => rfl)
    (fun _ hne => lookUp?_cons_of_ne hne news) hroot hrest

theorem enumerates_kept {front : List String}
    (hold : KeysIncrease (old :: olds)) (hnew : KeysIncrease (new :: news))
    (hkeys : old.1 = new.1)
    (hparts : Enumerates (memberPath start old.1) (Differs old.2 new.2) front)
    (hrest : Enumerates start (MembersDiffer olds news) paths) :
    Enumerates start (MembersDiffer (old :: olds) (new :: news))
      (front ++ paths) := by
  have hbelow : ∀ member ∈ news, old.1 < member.1 :=
    hkeys ▸ lt_of_keysIncrease hnew
  refine enumerates_member (lt_of_keysIncrease hold) hbelow
    (fun _ hne => lookUp?_cons_of_ne hne olds)
    (fun _ hne => lookUp?_cons_of_ne (hkeys ▸ hne) news) ?_ hrest
  rw [lookUp?_cons_self, hkeys, lookUp?_cons_self, ← hkeys]
  exact hparts

end

/-- Members are merged by their keys, whatever is done with two of one key. -/
theorem enumerates_memberChanges
    (parts : ∀ old ∈ olds, ∀ (path : String) (new : Json),
      new.isCanonical = true →
        Enumerates path (Differs old.2 new) (changes path old.2 new))
    (hold : KeysIncrease olds) (hnew : KeysIncrease news)
    (hnews : ∀ new ∈ news, new.2.isCanonical = true) :
    Enumerates start (MembersDiffer olds news)
      (memberChanges start olds news) := by
  induction olds generalizing news with
  | nil =>
      induction news with
      | nil =>
          refine .nothing ?_
          rintro (_ | ⟨_ | _, _⟩) h <;> exact h
      | cons new news ih =>
          rw [memberChanges_nil_cons]
          exact enumerates_added hnew (List.forall_mem_nil _)
            (ih hnew.tail (List.forall_mem_cons.1 hnews).2)
  | cons old olds ih =>
      rw [List.forall_mem_cons] at parts
      have hbelow := lt_of_keysIncrease hold
      induction news with
      | nil =>
          rw [memberChanges_cons_nil]
          exact enumerates_removed hold (List.forall_mem_nil _)
            (ih parts.2 hold.tail hnew hnews)
      | cons new news ihnew =>
          have hnews' := List.forall_mem_cons.1 hnews
          rw [memberChanges_cons_cons]
          split
          · rename_i hadded
            refine enumerates_added hnew ?_ (ihnew hnew.tail hnews'.2)
            exact List.forall_mem_cons.2 ⟨hadded, fun member h =>
              String.lt_trans hadded (hbelow member h)⟩
          rename_i hadded
          split
          · rename_i hkeys
            exact enumerates_kept hold hnew hkeys
              (parts.1 _ new.2 hnews'.1)
              (ih parts.2 hold.tail hnew.tail hnews'.2)
          · rename_i hkeys
            have hremoved : old.1 < new.1 := by
              refine Decidable.byContradiction fun hkept => hkeys ?_
              exact String.le_antisymm (String.not_lt.1 hadded)
                (String.not_lt.1 hkept)
            refine enumerates_removed hold ?_ (ih parts.2 hold.tail hnew hnews)
            exact List.forall_mem_cons.2 ⟨hremoved, fun member h =>
              String.lt_trans hremoved (lt_of_keysIncrease hnew member h)⟩

end

/-! ## Items -/

def ItemsDiffer (first : Nat) (olds news : List Json) : Position → Prop
  | .item index :: rest => first ≤ index ∧
    PartsDiffer olds[index - first]? news[index - first]? rest
  | _ => False

theorem itemsDiffer_cons {first : Nat} {old new : Json} {olds news : List Json}
    {position : Position} :
    ItemsDiffer first (old :: olds) (new :: news) position ↔
      (∃ rest, position = .item first :: rest ∧ Differs old new rest) ∨
        ItemsDiffer (first + 1) olds news position := by
  cases position with
  | nil => simp [ItemsDiffer]
  | cons step rest =>
      cases step with
      | member key => simp [ItemsDiffer]
      | item index =>
          rcases Nat.lt_trichotomy first index with hlt | rfl | hgt
          · have hindex : index - first = index - (first + 1) + 1 := by omega
            have hne : index ≠ first := by omega
            simp [ItemsDiffer, hindex, hne, hlt.le, Nat.succ_le_of_lt hlt]
          · simp [ItemsDiffer, PartsDiffer]
          · simp only [ItemsDiffer]
            grind

theorem enumerates_itemChanges {start : String} {first : Nat}
    {olds news : List Json}
    (parts : ∀ old ∈ olds, ∀ (path : String) (new : Json),
      new.isCanonical = true →
        Enumerates path (Differs old new) (changes path old new))
    (hnews : ∀ new ∈ news, new.isCanonical = true)
    (hlength : olds.length = news.length) :
    Enumerates start (ItemsDiffer first olds news)
      (itemChanges start first olds news) := by
  induction olds generalizing first news with
  | nil =>
      cases List.length_eq_zero_iff.1 hlength.symm
      refine .nothing ?_
      rintro (_ | ⟨_ | _, _⟩) h
      · exact h
      · exact h
      · exact h.2
  | cons old olds ih =>
      cases news with
      | nil => cases hlength
      | cons new news =>
          rw [List.forall_mem_cons] at parts hnews
          have hfront : Enumerates (Step.path start (.item first)) _ _ :=
            parts.1 (itemPath start first) new hnews.1
          refine hfront.below
            (ih parts.2 hnews.2 (Nat.succ.inj hlength)) ?_
            (fun _ => itemsDiffer_cons)
          rintro (_ | ⟨_ | index, rest⟩) hlater
          · exact hlater.elim
          · exact hlater.elim
          · exact ⟨.item index, rest, rfl, hlater.1⟩

/-! ## Values -/

theorem paired_array {olds news : List Json} :
    (array olds).Paired (array news) ↔ olds.length = news.length :=
  .rfl

section

variable {path : String} {old new : Json} {position : Position}

theorem changes_of_not_paired (apart : ¬ old.Paired new) :
    changes path old new = if same old new then [] else [path] := by
  cases old with
  | object olds =>
      cases new with
      | object news => exact absurd trivial apart
      | _ => simp [changes, same]
  | array olds =>
      cases new with
      | array news =>
          rw [paired_array] at apart
          have hdiffer : same (array olds) (array news) ≠ true := by
            intro hsame
            have hplain := congrArg List.length ((sameItems_iff _ _).1 hsame)
            exact apart (by simpa [plainItems_eq_map] using hplain)
          rw [changes, if_neg apart, if_neg hdiffer]
      | _ => simp [changes, same]
  | _ => simp [changes]

theorem differs_of_not_paired (apart : ¬ old.Paired new) :
    Differs old new position ↔ position = [] ∧ same old new = false := by
  cases position with
  | nil => simp [differs_nil, apart]
  | cons step rest => exact ⟨fun h => absurd h.paired apart, nofun⟩

theorem enumerates_of_not_paired (apart : ¬ old.Paired new) :
    Enumerates path (Differs old new) (changes path old new) := by
  rw [changes_of_not_paired apart]
  split
  · rename_i hsame
    exact .nothing fun position => by simp [differs_of_not_paired apart, hsame]
  · rename_i hsame
    exact .root fun position => by simp [differs_of_not_paired apart, hsame]

end

theorem differs_object {olds news : List (String × Json)}
    {position : Position} :
    Differs (object olds) (object news) position ↔
      MembersDiffer olds news position := by
  have hpaired : (object olds).Paired (object news) := trivial
  cases position with
  | nil => simp [differs_nil, hpaired, MembersDiffer]
  | cons step rest =>
      rw [differs_cons hpaired]
      cases step <;> rfl

theorem differs_array {olds news : List Json} {position : Position}
    (hlength : olds.length = news.length) :
    Differs (array olds) (array news) position ↔
      ItemsDiffer 0 olds news position := by
  have hpaired : (array olds).Paired (array news) := hlength
  cases position with
  | nil => simp [differs_nil, hpaired, ItemsDiffer]
  | cons step rest =>
      rw [differs_cons hpaired]
      cases step <;> simp [part?, ItemsDiffer, PartsDiffer]

mutual

theorem enumerates_changes :
    ∀ (old : Json), old.isCanonical = true → ∀ (path : String) (new : Json),
      new.isCanonical = true →
        Enumerates path (Differs old new) (changes path old new)
  | .null, _, _, _, _ | .bool _, _, _, _, _ | .integer _, _, _, _, _
  | .float _, _, _, _, _ | .string _, _, _, _, _ =>
      enumerates_of_not_paired id
  | .array olds, hold, path, new, hnew => by
      by_cases hpaired : (array olds).Paired new
      · cases new with
        | array news =>
            rw [paired_array] at hpaired
            rw [isCanonical_array] at hold hnew
            rw [changes, if_pos hpaired]
            exact (enumerates_itemChanges (enumerates_of_mem_items olds hold)
              hnew hpaired).congr fun _ => differs_array hpaired
        | _ => cases hpaired
      · exact enumerates_of_not_paired hpaired
  | .object olds, hold, path, new, hnew => by
      by_cases hpaired : (object olds).Paired new
      · cases new with
        | object news =>
            rw [isCanonical_object] at hold hnew
            rw [changes]
            exact (enumerates_memberChanges
              (enumerates_of_mem_members olds hold.2) hold.1 hnew.1
              hnew.2).congr fun _ => differs_object
        | _ => cases hpaired
      · exact enumerates_of_not_paired hpaired

theorem enumerates_of_mem_items :
    ∀ olds : List Json, (∀ old ∈ olds, old.isCanonical = true) →
      ∀ old ∈ olds, ∀ (path : String) (new : Json), new.isCanonical = true →
        Enumerates path (Differs old new) (changes path old new)
  | [], _, _, hmem => absurd hmem List.not_mem_nil
  | head :: rest, hold, old, hmem => by
      rw [List.forall_mem_cons] at hold
      rcases List.mem_cons.1 hmem with hhead | hmem
      · rw [hhead]
        exact enumerates_changes head hold.1
      · exact enumerates_of_mem_items rest hold.2 old hmem

theorem enumerates_of_mem_members :
    ∀ olds : List (String × Json),
      (∀ old ∈ olds, old.2.isCanonical = true) →
      ∀ old ∈ olds, ∀ (path : String) (new : Json), new.isCanonical = true →
        Enumerates path (Differs old.2 new) (changes path old.2 new)
  | [], _, _, hmem => absurd hmem List.not_mem_nil
  | (key, value) :: rest, hold, old, hmem => by
      rw [List.forall_mem_cons] at hold
      rcases List.mem_cons.1 hmem with rfl | hmem
      · exact enumerates_changes value hold.1
      · exact enumerates_of_mem_members rest hold.2 old hmem

end

/-! ## The other way round -/

theorem Paired.symm {old new : Json} (h : old.Paired new) :
    new.Paired old := by
  cases old with
  | object olds =>
      cases new with
      | object news => trivial
      | _ => cases h
  | array olds =>
      cases new with
      | array news => exact (paired_array.1 h).symm
      | _ => cases h
  | _ => cases new <;> cases h

theorem paired_comm {old new : Json} : old.Paired new ↔ new.Paired old :=
  ⟨Paired.symm, Paired.symm⟩

theorem same_comm (old new : Json) : same old new = same new old := by
  rw [Bool.eq_iff_iff, same_iff, same_iff, eq_comm]

theorem parted_comm {old new : Option Json} :
    Parted old new ↔ Parted new old := by
  cases old <;> cases new <;> simp [Parted, paired_comm, same_comm]

theorem Differs.symm {old new : Json} {position : Position}
    (h : Differs old new position) : Differs new old position := by
  refine ⟨fun above habove hproper => ?_, parted_comm.1 h.parted⟩
  obtain ⟨left, right, hold, hnew, hpaired⟩ := h.reached above habove hproper
  exact ⟨right, left, hnew, hold, hpaired.symm⟩

/-- The changes between two values, however these were written, are the places
where they differ, in order and each once.  Equal values have none, and it does
not matter which of the two is the former. -/
theorem changes_are_differences (path : String) (old new : Json) :
    Enumerates path (Differs old.canonical new.canonical)
        (changes path old.canonical new.canonical) ∧
      (changes path old.canonical new.canonical = [] ↔
        same old.canonical new.canonical = true) ∧
      changes path new.canonical old.canonical =
        changes path old.canonical new.canonical := by
  have hold := isCanonical_canonical old
  have hnew := isCanonical_canonical new
  have hforth := enumerates_changes _ hold path _ hnew
  have hback := enumerates_changes _ hnew path _ hold
  exact ⟨hforth, changes_eq_nil_iff path _ _,
    hback.unique (hforth.congr fun _ => ⟨Differs.symm, Differs.symm⟩)⟩

example :
    changes "spec"
        (.object [("a", .array [.integer 1, .integer 2]), ("b", .array []),
          ("c", .null), ("e", .integer 0)])
        (.object [("a", .array [.integer 1, .integer 3]),
          ("b", .array [.null]), ("d", .null), ("e", .object [])]) =
      ["spec.a[1]", "spec.b", "spec.c", "spec.d", "spec.e"] := by
  decide +kernel

end AdmissionGate.Json
