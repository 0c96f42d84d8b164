import AdmissionGate.Proofs.SchemaRequest.Structure
import Mathlib.Data.List.Forall2

/-!
# Clauses of schema requests

A specification is well formed if it keeps a number of clauses, two of them for
every subject.  Each clause that is violated is reported by an error of its own,
in the order of the clauses, whatever else is wrong with the specification.
-/

namespace AdmissionGate

/-! ## Clauses -/

inductive SchemaClause where
  | database
  | vault
  | name
  | readOnly
  | source
  | inhabited
  | subjectKind (index : Nat)
  | subjectName (index : Nat)
  | defaultTtl
  | maxTtl
  | ttlOrder
deriving DecidableEq, Repr

namespace SchemaClause

def stage : SchemaClause → Nat
  | .database => 0
  | .vault => 1
  | .name => 2
  | .readOnly => 3
  | .source => 4
  | .inhabited => 5
  | .subjectKind _ | .subjectName _ => 6
  | .defaultTtl => 7
  | .maxTtl => 8
  | .ttlOrder => 9

/-- Subjects come one after the other, each with its kind and then its name. -/
def turn : SchemaClause → Nat
  | .subjectKind index => 2 * index
  | .subjectName index => 2 * index + 1
  | _ => 0

def Before (first second : SchemaClause) : Prop :=
  first.stage < second.stage ∨
    first.stage = second.stage ∧ first.turn < second.turn

theorem stage_lt (clause : SchemaClause) : clause.stage < 10 := by
  cases clause <;> simp [stage]

theorem eq_of_stage_eq {clause other : SchemaClause}
    (single : ∀ index, clause ≠ .subjectKind index ∧ clause ≠ .subjectName index)
    (same : other.stage = clause.stage) : other = clause := by
  cases clause with
  | subjectKind index => exact absurd rfl (single index).1
  | subjectName index => exact absurd rfl (single index).2
  | _ => cases other <;> first | rfl | cases same

end SchemaClause

namespace SchemaSpec

open SchemaClause

def Violates [Duration.Reader] (lower : Text.LowerCase) (kind : SchemaKind)
    (spec : SchemaSpec) : SchemaClause → Prop
  | .database => spec.database.name = ""
  | .vault => spec.vault.name = ""
  | .name => spec.config.name = "" ∨
      lower.text spec.config.name ∈ kind.reservedNames
  | .readOnly => ∃ flag, spec.config.readOnly = some flag ∧
      ¬ (kind = .mySQL ∧ (flag = 0 ∨ flag = 1))
  | .source => ∃ init, spec.init = some init ∧ ¬ init.HasOneSource
  | .inhabited => spec.access.subjects = []
  | .subjectKind index => ∃ subject, spec.access.subjects[index]? = some subject ∧
      subject.kind = ""
  | .subjectName index => ∃ subject, spec.access.subjects[index]? = some subject ∧
      subject.name = ""
  | .defaultTtl => ∃ text, spec.access.defaultTtl = some text ∧
      ¬ ∃ duration, Duration.Lasts text duration
  | .maxTtl => ∃ text, spec.access.maxTtl = some text ∧
      ¬ ∃ duration, Duration.Lasts text duration
  | .ttlOrder => ∃ text duration greatestText greatest,
      spec.access.defaultTtl = some text ∧
      spec.access.maxTtl = some greatestText ∧
      Duration.Lasts text duration ∧ Duration.Lasts greatestText greatest ∧
      greatest.nanos < duration.nanos

/-- The error that a violated clause has, whatever its detail says. -/
inductive Reports (kind : SchemaKind) (spec : SchemaSpec) :
    SchemaClause → FieldError → Prop where
  | database {detail : String} :
      Reports kind spec .database (.required "spec.databaseRef.name" detail)
  | vault {detail : String} :
      Reports kind spec .vault (.required "spec.vaultRef.name" detail)
  | unnamed {detail : String} (empty : spec.config.name = "") :
      Reports kind spec .name (.required "spec.databaseConfig.name" detail)
  | reserved {detail : String} (named : spec.config.name ≠ "") :
      Reports kind spec .name
        (.invalid "spec.databaseConfig.name" (.string spec.config.name) detail)
  | unavailable {detail : String} (different : kind ≠ .mySQL) :
      Reports kind spec .readOnly
        (.forbidden "spec.databaseConfig.readOnly" detail)
  | noFlag {flag : Int} (same : kind = .mySQL)
      (given : spec.config.readOnly = some flag) :
      Reports kind spec .readOnly
        (.notSupported "spec.databaseConfig.readOnly" (.integer flag) ["0", "1"])
  | sources {init : InitSpec} {detail : String} (given : spec.init = some init)
      (both : init.script.isSome ∧ init.snapshot.isSome) :
      Reports kind spec .source (.forbidden "spec.init" detail)
  | noSource {init : InitSpec} {detail : String} (given : spec.init = some init)
      (neither : init.script = none ∧ init.snapshot = none) :
      Reports kind spec .source (.required "spec.init" detail)
  | inhabited {detail : String} :
      Reports kind spec .inhabited
        (.required "spec.accessPolicy.subjects" detail)
  | subjectKind {index : Nat} {detail : String} :
      Reports kind spec (.subjectKind index)
        (.required (subjectPath index "kind") detail)
  | subjectName {index : Nat} {detail : String} :
      Reports kind spec (.subjectName index)
        (.required (subjectPath index "name") detail)
  | defaultTtl {text detail : String} (given : spec.access.defaultTtl = some text) :
      Reports kind spec .defaultTtl
        (.invalid "spec.accessPolicy.defaultTTL" (.string text) detail)
  | maxTtl {text detail : String} (given : spec.access.maxTtl = some text) :
      Reports kind spec .maxTtl
        (.invalid "spec.accessPolicy.maxTTL" (.string text) detail)
  | ttlOrder {text detail : String} (given : spec.access.defaultTtl = some text) :
      Reports kind spec .ttlOrder
        (.invalid "spec.accessPolicy.defaultTTL" (.string text) detail)

inductive IsCheck (kind : SchemaKind) (spec : SchemaSpec) (clause : SchemaClause) :
    List FieldError → Prop where
  | passed : IsCheck kind spec clause []
  | failed {error : FieldError} (report : spec.Reports kind clause error) :
      IsCheck kind spec clause [error]

/-! ## Lists of reports -/

/-- The errors report the clauses that fail, one each and in order. -/
def Lists (kind : SchemaKind) (spec : SchemaSpec) (fails : SchemaClause → Prop)
    (errors : List FieldError) : Prop :=
  ∃ clauses : List SchemaClause, clauses.Pairwise Before ∧
    (∀ clause, clause ∈ clauses ↔ fails clause) ∧
    List.Forall₂ (spec.Reports kind) clauses errors

section

variable {lower : Text.LowerCase} {kind : SchemaKind} {spec : SchemaSpec}
  {fails later : SchemaClause → Prop} {clause : SchemaClause}
  {errors front back : List FieldError}

theorem Lists.nothing (none : ∀ clause, ¬ fails clause) :
    spec.Lists kind fails [] :=
  ⟨[], .nil, fun clause => ⟨nofun, fun h => absurd h (none clause)⟩, .nil⟩

theorem Lists.congr {other : SchemaClause → Prop} (h : spec.Lists kind fails errors)
    (same : ∀ clause, other clause ↔ fails clause) :
    spec.Lists kind other errors := by
  obtain ⟨clauses, hordered, hmem, hreports⟩ := h
  exact ⟨clauses, hordered,
    fun clause => (hmem clause).trans (same clause).symm, hreports⟩

theorem Lists.append (hfront : spec.Lists kind fails front)
    (hback : spec.Lists kind later back)
    (follows : ∀ first second, fails first → later second → first.Before second) :
    spec.Lists kind (fun clause => fails clause ∨ later clause)
      (front ++ back) := by
  obtain ⟨fronts, hfronts, hfails, hfrontReports⟩ := hfront
  obtain ⟨backs, hbacks, hlater, hbackReports⟩ := hback
  refine ⟨fronts ++ backs, ?_, fun clause => ?_,
    List.rel_append hfrontReports hbackReports⟩
  · refine List.pairwise_append.2 ⟨hfronts, hbacks, ?_⟩
    intro first hfirst second hsecond
    exact follows first second ((hfails first).1 hfirst)
      ((hlater second).1 hsecond)
  · rw [List.mem_append, hfails, hlater]

theorem Lists.single {violated : Prop} (hcheck : spec.IsCheck kind clause errors)
    (hnil : errors = [] ↔ ¬ violated) :
    spec.Lists kind (fun other => other = clause ∧ violated) errors := by
  cases hcheck with
  | passed => exact .nothing fun _ h => hnil.1 rfl h.2
  | failed report =>
      have hviolated : violated := by simpa using hnil
      refine ⟨[clause], List.pairwise_singleton _ _, fun other => ?_,
        .cons report .nil⟩
      exact List.mem_singleton.trans (and_iff_left hviolated).symm

theorem IsCheck.ite {error : FieldError} {condition : Prop} [Decidable condition]
    (report : condition → spec.Reports kind clause error) :
    spec.IsCheck kind clause (if condition then [error] else []) := by
  split
  · exact .failed (report ‹_›)
  · exact .passed

/-! ## Subjects -/

def SubjectFails (index : Nat) (subject : Subject) (clause : SchemaClause) : Prop :=
  clause = .subjectKind index ∧ subject.kind = "" ∨
    clause = .subjectName index ∧ subject.name = ""

theorem lists_subjectErrors (index : Nat) (subject : Subject) :
    spec.Lists kind (SubjectFails index subject) (subjectErrors index subject) := by
  refine Lists.append (.single (.ite fun _ => .subjectKind) (by simp))
    (.single (.ite fun _ => .subjectName) (by simp)) ?_
  rintro _ _ ⟨rfl, -⟩ ⟨rfl, -⟩
  exact .inr ⟨rfl, Nat.lt_succ_self _⟩

theorem lists_subjectsErrors (index : Nat) (subjects : List Subject) :
    spec.Lists kind
      (fun clause => ∃ offset subject, subjects[offset]? = some subject ∧
        SubjectFails (index + offset) subject clause)
      (subjectsErrors index subjects) := by
  induction subjects generalizing index with
  | nil => exact .nothing fun _ ⟨_, _, hfound, _⟩ => nomatch hfound
  | cons subject rest ih =>
      have hhead : spec.Lists kind (SubjectFails index subject)
          (subjectErrors index subject) := lists_subjectErrors index subject
      have hindex (offset : Nat) : index + 1 + offset = index + (offset + 1) := by
        omega
      apply (hhead.append (ih (index + 1)) ?_).congr
      · intro clause
        -- The first subject stands at the index itself, the others after it.
        constructor
        · rintro ⟨_ | offset, other, hfound, hfails⟩
          · cases hfound
            exact .inl hfails
          · refine .inr ⟨offset, other, hfound, ?_⟩
            rwa [hindex]
        · rintro (hfails | ⟨offset, other, hfound, hfails⟩)
          · exact ⟨0, subject, rfl, hfails⟩
          · refine ⟨offset + 1, other, hfound, ?_⟩
            rwa [← hindex]
      · rintro first second hfirst ⟨offset, other, -, hsecond⟩
        rcases hfirst with ⟨rfl, -⟩ | ⟨rfl, -⟩ <;>
          rcases hsecond with ⟨rfl, -⟩ | ⟨rfl, -⟩ <;>
          exact .inr ⟨rfl, by simp only [turn]; omega⟩

/-! ## Stages -/

variable [Duration.Reader]

/-- The errors report the violated clauses of the stages before the given one. -/
def Through (lower : Text.LowerCase) (kind : SchemaKind) (spec : SchemaSpec)
    (stage : Nat) (errors : List FieldError) : Prop :=
  spec.Lists kind
    (fun clause => clause.stage < stage ∧ spec.Violates lower kind clause) errors

theorem Through.next {stage : Nat} (hfront : spec.Through lower kind stage front)
    (hback : spec.Lists kind
      (fun clause => clause.stage = stage ∧ spec.Violates lower kind clause) back) :
    spec.Through lower kind (stage + 1) (front ++ back) := by
  refine (hfront.append hback ?_).congr fun clause => ?_
  · rintro first second ⟨hfirst, -⟩ ⟨hsecond, -⟩
    exact .inl (hsecond ▸ hfirst)
  · rw [Nat.lt_succ_iff_lt_or_eq, or_and_right]

theorem Through.check (clause : SchemaClause)
    (hfront : spec.Through lower kind clause.stage front)
    (single : ∀ index, clause ≠ .subjectKind index ∧ clause ≠ .subjectName index)
    (hcheck : spec.IsCheck kind clause back)
    (hnil : back = [] ↔ ¬ spec.Violates lower kind clause) :
    spec.Through lower kind (clause.stage + 1) (front ++ back) := by
  refine hfront.next ((Lists.single hcheck hnil).congr fun other => ?_)
  constructor
  · rintro ⟨hstage, hviolated⟩
    have hclause := eq_of_stage_eq single hstage
    exact ⟨hclause, hclause ▸ hviolated⟩
  · rintro ⟨rfl, hviolated⟩
    exact ⟨rfl, hviolated⟩

end

section

variable (lower : Text.LowerCase) (kind : SchemaKind) (spec : SchemaSpec)

/-! ## Checks -/

private theorem forall_imp_iff_not_exists {Value : Type}
    {given keeps : Value → Prop} :
    (∀ value, given value → keeps value) ↔
      ¬ ∃ value, given value ∧ ¬ keeps value := by
  rw [not_exists]
  simp only [not_and_not_right]

theorem isCheck_nameErrors : spec.IsCheck kind .name (nameErrors kind spec) := by
  dsimp only [nameErrors]
  split
  · rename_i hempty
    exact .failed (.unnamed (String.isEmpty_iff.1 hempty))
  · rename_i hnamed
    exact .ite fun _ => .reserved (mt String.isEmpty_iff.2 hnamed)

theorem isCheck_readOnlyErrors :
    spec.IsCheck kind .readOnly (readOnlyErrors kind spec) := by
  unfold readOnlyErrors
  split
  · exact .passed
  · rename_i flag hflag
    split
    · rename_i hdifferent
      rw [Bool.not_eq_true', ← Bool.not_eq_true, supportsReadOnly_iff] at hdifferent
      exact .failed (.unavailable hdifferent)
    · rename_i hsame
      rw [Bool.not_eq_true', Bool.not_eq_false, supportsReadOnly_iff] at hsame
      split
      · exact .passed
      · exact .failed (.noFlag hsame hflag)

theorem isCheck_initErrors : spec.IsCheck kind .source spec.initErrors := by
  unfold initErrors
  split
  · exact .passed
  · rename_i init hinit
    split
    · rename_i hscript hsnapshot
      exact .failed (.sources hinit (by simp [hscript, hsnapshot]))
    · rename_i hscript hsnapshot
      exact .failed (.noSource hinit ⟨hscript, hsnapshot⟩)
    · exact .passed

variable [Duration.Reader]

variable {kind spec} in
theorem isCheck_ttlErrors {clause : SchemaClause} {path : String}
    {text : Option String}
    (report : ∀ given detail, text = some given →
      spec.Reports kind clause (.invalid path (.string given) detail)) :
    spec.IsCheck kind clause (ttlErrors path text) := by
  cases text with
  | none => exact .passed
  | some given =>
      rcases Duration.positiveErrors_eq_nil_or_singleton path given "1h or 24h" with
        hnil | ⟨detail, hone⟩
      · rw [ttlErrors, hnil]
        exact .passed
      · rw [ttlErrors, hone]
        exact .failed (report given detail rfl)

theorem isCheck_ttlOrderErrors :
    spec.IsCheck kind .ttlOrder (ttlOrderErrors spec.access) := by
  unfold ttlOrderErrors
  split
  · rename_i duration greatest hdefault hgreatest
    obtain ⟨given, hgiven, -⟩ := positiveTtl?_eq_some_iff.1 hdefault
    refine .ite fun _ => .ttlOrder ?_
    rw [hgiven, Option.getD_some]
  · exact .passed

/-! ## Violations -/

theorem ttlOrderErrors_eq_nil_iff_not_violates : ttlOrderErrors spec.access = [] ↔
    ¬ spec.Violates lower kind .ttlOrder := by
  simp only [ttlOrderErrors_eq_nil_iff, positiveTtl?_eq_some_iff, Violates,
    not_exists, not_and, Int.not_lt]
  constructor
  · intro h text duration greatestText greatest htext hgreatestText hlasts hlasts'
    exact h duration greatest ⟨text, htext, hlasts⟩
      ⟨greatestText, hgreatestText, hlasts'⟩
  · rintro h duration greatest ⟨text, htext, hlasts⟩
      ⟨greatestText, hgreatestText, hlasts'⟩
    exact h text duration greatestText greatest htext hgreatestText hlasts hlasts'

theorem lists_subjectStage :
    spec.Lists kind
      (fun clause => clause.stage = 6 ∧ spec.Violates lower kind clause)
      (subjectsErrors 0 spec.access.subjects) := by
  refine (lists_subjectsErrors 0 spec.access.subjects).congr fun clause => ?_
  simp only [Nat.zero_add]
  constructor
  · rintro ⟨hstage, hviolated⟩
    cases clause with
    | subjectKind index =>
        obtain ⟨subject, hfound, hempty⟩ := hviolated
        exact ⟨index, subject, hfound, .inl ⟨rfl, hempty⟩⟩
    | subjectName index =>
        obtain ⟨subject, hfound, hempty⟩ := hviolated
        exact ⟨index, subject, hfound, .inr ⟨rfl, hempty⟩⟩
    | _ => cases hstage
  · rintro ⟨index, subject, hfound, ⟨rfl, hempty⟩ | ⟨rfl, hempty⟩⟩
    · exact ⟨rfl, subject, hfound, hempty⟩
    · exact ⟨rfl, subject, hfound, hempty⟩

/-! ## The whole report -/

theorem through_structureErrors :
    spec.Through lower kind 10 (structureErrors kind spec) := by
  have hstart : spec.Through lower kind 0 [] :=
    .nothing fun clause h => Nat.not_lt_zero _ h.1
  have hdatabase := hstart.check .database (fun _ => ⟨nofun, nofun⟩)
    (.ite fun _ => .database) spec.databaseErrors_eq_nil_iff
  have hvault := hdatabase.check .vault (fun _ => ⟨nofun, nofun⟩)
    (.ite fun _ => .vault) spec.vaultErrors_eq_nil_iff
  have hname := hvault.check .name (fun _ => ⟨nofun, nofun⟩)
    (isCheck_nameErrors kind spec)
    ((nameErrors_eq_nil_iff kind spec lower).trans not_or.symm)
  have hreadOnly := hname.check .readOnly (fun _ => ⟨nofun, nofun⟩)
    (isCheck_readOnlyErrors kind spec)
    ((readOnlyErrors_eq_nil_iff kind spec).trans forall_imp_iff_not_exists)
  have hsource := hreadOnly.check .source (fun _ => ⟨nofun, nofun⟩)
    (isCheck_initErrors kind spec)
    ((initErrors_eq_nil_iff spec).trans forall_imp_iff_not_exists)
  have hinhabited := hsource.check .inhabited (fun _ => ⟨nofun, nofun⟩)
    (.ite fun _ => .inhabited) spec.missingSubjectErrors_eq_nil_iff
  have hsubjects := hinhabited.next (lists_subjectStage lower kind spec)
  have hdefaultTtl := hsubjects.check .defaultTtl (fun _ => ⟨nofun, nofun⟩)
    (isCheck_ttlErrors fun _ _ given => .defaultTtl given)
    ((ttlErrors_eq_nil_iff _ _).trans forall_imp_iff_not_exists)
  have hmaxTtl := hdefaultTtl.check .maxTtl (fun _ => ⟨nofun, nofun⟩)
    (isCheck_ttlErrors fun _ _ given => .maxTtl given)
    ((ttlErrors_eq_nil_iff _ _).trans forall_imp_iff_not_exists)
  exact hmaxTtl.check .ttlOrder (fun _ => ⟨nofun, nofun⟩)
    (isCheck_ttlOrderErrors kind spec)
    (ttlOrderErrors_eq_nil_iff_not_violates lower kind spec)

/-- However durations are read, every violated clause is reported once and in
order, and nothing else is. -/
theorem reports_every_violation :
    ∃ violated : List SchemaClause, violated.Pairwise Before ∧
      (∀ clause, clause ∈ violated ↔ spec.Violates lower kind clause) ∧
      List.Forall₂ (spec.Reports kind) violated (structureErrors kind spec) :=
  (through_structureErrors lower kind spec).congr fun clause =>
    (and_iff_right clause.stage_lt).symm

end

example :
    (structureErrors .postgres {
      vault := { name := "vault" }
      config := { name := "Postgres" }
      access := {
        subjects := [{ kind := "User" }, { name := "app" }]
        defaultTtl := some "2h"
        maxTtl := some "1h" } }).map FieldError.field =
    ["spec.databaseRef.name", "spec.databaseConfig.name",
      "spec.accessPolicy.subjects[0].name", "spec.accessPolicy.subjects[1].kind",
      "spec.accessPolicy.defaultTTL"] := by
  decide +kernel

end SchemaSpec
end AdmissionGate
