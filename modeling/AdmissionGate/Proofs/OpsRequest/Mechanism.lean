import AdmissionGate.OpsRequest.Sections
import Mathlib.Data.List.Nodup

/-!
# Mechanisms

Reconfiguration and transport security offer three mechanisms each.  Those that a
section requests are listed by name, and the length of this list tells whether none,
one or several are requested.
-/

namespace AdmissionGate

/-! ## Choices -/

section

variable {Choice : Type} {all : List Choice} {made : Choice → Bool}
  {name : Choice → String}

theorem map_filter_eq_flatMap : (all.filter made).map name =
    all.flatMap fun choice => if made choice then [name choice] else [] := by
  induction all with
  | nil => rfl
  | cons choice rest ih =>
      rw [List.filter_cons, List.flatMap_cons, ← ih]
      split <;> rfl

variable (complete : ∀ choice, choice ∈ all)

include complete

theorem mem_filter_of_complete {choice : Choice} :
    choice ∈ all.filter made ↔ made choice = true := by
  rw [List.mem_filter, and_iff_right (complete choice)]

theorem exists_map_filter_eq_singleton_iff (nodup : all.Nodup) :
    (∃ text, (all.filter made).map name = [text]) ↔
      ∃! choice, made choice = true := by
  constructor
  · rintro ⟨text, htext⟩
    obtain ⟨choice, hfilter, -⟩ := List.map_eq_singleton_iff.1 htext
    have hmade : ∀ other, made other = true ↔ other = choice := by
      intro other
      rw [← mem_filter_of_complete complete, hfilter, List.mem_singleton]
    exact ⟨choice, (hmade choice).2 rfl, fun other => (hmade other).1⟩
  · rintro ⟨choice, hmade, hunique⟩
    have hperm : (all.filter made).Perm [choice] := by
      apply (List.perm_ext_iff_of_nodup (nodup.filter _) (List.nodup_singleton _)).2
      intro other
      rw [mem_filter_of_complete complete, List.mem_singleton]
      exact ⟨hunique other, fun h => h ▸ hmade⟩
    exact ⟨name choice, by rw [List.perm_singleton.1 hperm]; rfl⟩

theorem exists_map_filter_eq_cons_cons {first second : Choice}
    (different : first ≠ second) (hfirst : made first = true)
    (hsecond : made second = true) :
    ∃ text next rest, (all.filter made).map name = text :: next :: rest := by
  rw [← mem_filter_of_complete complete] at hfirst hsecond
  cases hfilter : all.filter made with
  | nil =>
      rw [hfilter] at hfirst
      cases hfirst
  | cons choice rest =>
      cases rest with
      | nil =>
          rw [hfilter, List.mem_singleton] at hfirst hsecond
          exact absurd (hfirst.trans hsecond.symm) different
      | cons next rest => exact ⟨_, _, _, rfl⟩

end

/-! ## Reconfiguration -/

namespace ReconfigureSpec

inductive Mechanism where
  | removal
  | files
  | secret
deriving DecidableEq, Repr

namespace Mechanism

def name : Mechanism → String
  | .removal => "removeCustomConfig"
  | .files => "applyConfig"
  | .secret => "configSecret"

def all : List Mechanism := [.removal, .files, .secret]

theorem mem_all (mechanism : Mechanism) : mechanism ∈ all := by
  cases mechanism <;> decide

theorem nodup_all : all.Nodup := by decide

end Mechanism

/-- A removal that is switched off and an empty set of files request nothing. -/
def Requests (spec : ReconfigureSpec) : Mechanism → Prop
  | .removal => spec.removeCustomConfig = some true
  | .files => ∃ files, spec.applyConfig = some files ∧ files.entries ≠ []
  | .secret => spec.configSecret ≠ none

def requests (spec : ReconfigureSpec) : Mechanism → Bool
  | .removal => spec.removes
  | .files => spec.applies
  | .secret => spec.configSecret.isSome

variable {spec : ReconfigureSpec}

theorem requests_iff {mechanism : Mechanism} :
    spec.requests mechanism = true ↔ spec.Requests mechanism := by
  cases mechanism with
  | removal => exact beq_iff_eq
  | files => simp [requests, Requests, applies, Option.any_eq_true, Dict.isEmpty]
  | secret => exact Option.isSome_iff_ne_none

theorem mechanisms_eq :
    spec.mechanisms = (Mechanism.all.filter spec.requests).map Mechanism.name := by
  rw [map_filter_eq_flatMap, mechanisms, List.append_assoc]
  simp only [Mechanism.all, List.flatMap_cons, List.flatMap_nil, List.append_nil]
  rfl

theorem exists_mechanisms_eq_singleton_iff :
    (∃ name, spec.mechanisms = [name]) ↔ ∃! mechanism, spec.Requests mechanism := by
  simp only [mechanisms_eq, ← requests_iff]
  exact exists_map_filter_eq_singleton_iff Mechanism.mem_all Mechanism.nodup_all

end ReconfigureSpec

/-! ## Transport security -/

namespace ReconfigureTlsSpec

inductive Mechanism where
  | removal
  | rotation
  | issue
deriving DecidableEq, Repr

namespace Mechanism

def name : Mechanism → String
  | .removal => "remove"
  | .rotation => "rotateCertificates"
  | .issue => "issuerRef/certificates"

def all : List Mechanism := [.removal, .rotation, .issue]

theorem mem_all (mechanism : Mechanism) : mechanism ∈ all := by
  cases mechanism <;> decide

theorem nodup_all : all.Nodup := by decide

end Mechanism

def Requests (spec : ReconfigureTlsSpec) : Mechanism → Prop
  | .removal => spec.remove = some true
  | .rotation => spec.rotateCertificates = some true
  | .issue => spec.config.issuer ≠ none ∨ spec.config.certificates ≠ []

def requests (spec : ReconfigureTlsSpec) : Mechanism → Bool
  | .removal => spec.removes
  | .rotation => spec.rotates
  | .issue => spec.config.isSet

variable {spec : ReconfigureTlsSpec}

theorem requests_iff {mechanism : Mechanism} :
    spec.requests mechanism = true ↔ spec.Requests mechanism := by
  cases mechanism with
  | removal => exact beq_iff_eq
  | rotation => exact beq_iff_eq
  | issue =>
      simp [requests, Requests, TlsConfig.isSet, Option.isSome_iff_ne_none]

theorem mechanisms_eq :
    spec.mechanisms = (Mechanism.all.filter spec.requests).map Mechanism.name := by
  rw [map_filter_eq_flatMap, mechanisms, List.append_assoc]
  simp only [Mechanism.all, List.flatMap_cons, List.flatMap_nil, List.append_nil]
  rfl

theorem exists_mechanisms_eq_singleton_iff :
    (∃ name, spec.mechanisms = [name]) ↔ ∃! mechanism, spec.Requests mechanism := by
  simp only [mechanisms_eq, ← requests_iff]
  exact exists_map_filter_eq_singleton_iff Mechanism.mem_all Mechanism.nodup_all

end ReconfigureTlsSpec
end AdmissionGate
