import AdmissionGate.Json.Changes
import Mathlib.Data.List.Lex

/-!
# Positions in a value

A position is a sequence of steps into a value.  Two values differ at a position
if they can be followed down to it, members compared with members and items with
items, and part there.
-/

namespace AdmissionGate.Json

/-! ## Positions -/

inductive Step where
  | member (key : String)
  | item (index : Nat)
deriving DecidableEq, Repr

namespace Step

def path (start : String) : Step → String
  | .member key => memberPath start key
  | .item index => itemPath start index

/-- Members go by their keys and items by their index.  A value does not have
both. -/
def Before : Step → Step → Prop
  | .member key, .member other => key < other
  | .item index, .item other => index < other
  | _, _ => False

instance : DecidableRel Before
  | .member key, .member other => inferInstanceAs (Decidable (key < other))
  | .item index, .item other => inferInstanceAs (Decidable (index < other))
  | .member _, .item _ | .item _, .member _ => .isFalse nofun

instance : Std.Asymm Before where
  asymm
    | .member _, .member _ => String.lt_asymm
    | .item _, .item _ => Nat.lt_asymm
    | .member _, .item _ | .item _, .member _ => nofun

end Step

abbrev Position := List Step

def Position.path (start : String) (position : Position) : String :=
  position.foldl Step.path start

/-- A position comes before those below it; otherwise the first step that is not
shared decides. -/
def Position.Before : Position → Position → Prop :=
  List.Lex Step.Before

instance : Std.Asymm Position.Before :=
  inferInstanceAs (Std.Asymm (List.Lex Step.Before))

def part? : Json → Step → Option Json
  | .object members, .member key => lookUp? key members
  | .array items, .item index => items[index]?
  | _, _ => none

def at? : Json → Position → Option Json
  | json, [] => some json
  | json, step :: rest => (json.part? step).bind fun part => at? part rest

/-! ## Differences -/

def Paired : Json → Json → Prop
  | .object _, .object _ => True
  | .array olds, .array news => olds.length = news.length
  | _, _ => False

def Parted : Option Json → Option Json → Prop
  | some old, some new => same old new = false ∧ ¬ old.Paired new
  | none, none => False
  | some _, none | none, some _ => True

/-- The values can be compared down to the position, and there they part. -/
structure Differs (old new : Json) (position : Position) : Prop where
  reached : ∀ above, above <+: position → above ≠ position →
    ∃ left right, old.at? above = some left ∧ new.at? above = some right ∧
      left.Paired right
  parted : Parted (old.at? position) (new.at? position)

/-- Below a step that is on both sides the parts are compared; a step that is on
one side only is a difference itself. -/
def PartsDiffer : Option Json → Option Json → Position → Prop
  | some old, some new, position => Differs old new position
  | none, none, _ => False
  | some _, none, position | none, some _, position => position = []

theorem differs_nil {old new : Json} :
    Differs old new [] ↔ same old new = false ∧ ¬ old.Paired new := by
  refine ⟨fun h => h.parted, fun h => ⟨?_, h⟩⟩
  intro above habove hproper
  exact absurd (List.prefix_nil.1 habove) hproper

section

variable {old new left right : Json} {step : Step} {rest : Position}

theorem at?_cons_of_some (found : old.part? step = some left)
    (rest : Position) : old.at? (step :: rest) = left.at? rest := by
  rw [at?, found, Option.bind_some]

theorem at?_cons_of_none (missing : old.part? step = none)
    (rest : Position) : old.at? (step :: rest) = none := by
  rw [at?, missing, Option.bind_none]

theorem Differs.paired (h : Differs old new (step :: rest)) :
    old.Paired new := by
  obtain ⟨_, _, ⟨⟩, ⟨⟩, hpaired⟩ := h.reached [] List.nil_prefix nofun
  exact hpaired

theorem differs_cons_of_some (paired : old.Paired new)
    (hold : old.part? step = some left) (hnew : new.part? step = some right) :
    Differs old new (step :: rest) ↔ Differs left right rest := by
  constructor
  · intro h
    refine ⟨fun above habove hproper => ?_, ?_⟩
    · have hreached := h.reached (step :: above)
        (List.cons_prefix_cons.2 ⟨rfl, habove⟩) (by simpa using hproper)
      rwa [at?_cons_of_some hold, at?_cons_of_some hnew] at hreached
    · have hparted := h.parted
      rwa [at?_cons_of_some hold, at?_cons_of_some hnew] at hparted
  · intro h
    refine ⟨fun above habove hproper => ?_, ?_⟩
    · rcases List.prefix_cons_iff.1 habove with rfl | ⟨deeper, rfl, hdeeper⟩
      · exact ⟨old, new, rfl, rfl, paired⟩
      · rw [at?_cons_of_some hold, at?_cons_of_some hnew]
        exact h.reached deeper hdeeper (by simpa using hproper)
    · rw [at?_cons_of_some hold, at?_cons_of_some hnew]
      exact h.parted

theorem differs_cons_of_one (paired : old.Paired new)
    (one : Parted (old.part? step) (new.part? step))
    (missing : old.part? step = none ∨ new.part? step = none) :
    Differs old new (step :: rest) ↔ rest = [] := by
  have hat : old.at? [step] = old.part? step ∧
      new.at? [step] = new.part? step := by
    simp [at?]
  constructor
  · refine fun h => Decidable.byContradiction fun hrest => ?_
    obtain ⟨_, _, hold, hnew, -⟩ := h.reached [step]
      (List.cons_prefix_cons.2 ⟨rfl, List.nil_prefix⟩)
      (by simpa using Ne.symm hrest)
    rw [hat.1] at hold
    rw [hat.2] at hnew
    rcases missing with missing | missing
    · cases missing.symm.trans hold
    · cases missing.symm.trans hnew
  · rintro rfl
    refine ⟨fun above habove hproper => ?_, ?_⟩
    · rcases List.prefix_cons_iff.1 habove with rfl | ⟨_, rfl, hdeeper⟩
      · exact ⟨old, new, rfl, rfl, paired⟩
      · exact absurd (congrArg _ (List.prefix_nil.1 hdeeper)) hproper
    · rwa [hat.1, hat.2]

theorem differs_cons (paired : old.Paired new) :
    Differs old new (step :: rest) ↔
      PartsDiffer (old.part? step) (new.part? step) rest := by
  cases hold : old.part? step with
  | none =>
      cases hnew : new.part? step with
      | none =>
          refine ⟨fun h => ?_, nofun⟩
          have hparted := h.parted
          rwa [at?_cons_of_none hold, at?_cons_of_none hnew] at hparted
      | some right =>
          exact differs_cons_of_one paired (by rw [hold, hnew]; trivial)
            (.inl hold)
  | some left =>
      cases hnew : new.part? step with
      | none =>
          exact differs_cons_of_one paired (by rw [hold, hnew]; trivial)
            (.inr hnew)
      | some right => exact differs_cons_of_some paired hold hnew

end

end AdmissionGate.Json
