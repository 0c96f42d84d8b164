import AdmissionGate.Proofs.Profile
import AdmissionGate.Proofs.Rule.Questions
import AdmissionGate.Proofs.Version.Constraint

/-!
# Permitted transitions

A version is updated exactly if the target is in the catalog, is not deprecated,
and is permitted by the entry of the current version, which must be in the
catalog too.  What that entry says about the other topology does not matter.
-/

namespace AdmissionGate

/-! ## Constraints of one topology -/

namespace TopologyConstraints

def Lists (constraints : TopologyConstraints) (clustered : Prop)
    (constraint : String) : Prop :=
  clustered ∧ constraint ∈ constraints.cluster ∨
    ¬ clustered ∧ constraint ∈ constraints.standalone

structure AgreeFor (clustered : Prop) (left right : TopologyConstraints) :
    Prop where
  cluster (h : clustered) : left.cluster = right.cluster
  standalone (h : ¬ clustered) : left.standalone = right.standalone

variable {constraints left right : TopologyConstraints} {clustered : Bool}
  {constraint : String}

theorem mem_forTopology_iff :
    constraint ∈ constraints.forTopology clustered ↔
      constraints.Lists (clustered = true) constraint := by
  cases clustered <;> simp [forTopology, Lists]

theorem AgreeFor.forTopology_eq (agree : AgreeFor (clustered = true) left right) :
    left.forTopology clustered = right.forTopology clustered := by
  cases clustered with
  | true => exact agree.cluster rfl
  | false => exact agree.standalone Bool.false_ne_true

end TopologyConstraints

namespace CatalogVersion

def allowlist (entry : CatalogVersion) : TopologyConstraints :=
  (entry.spec.updateConstraints.bind UpdateConstraints.allowlist).getD {}

def denylist (entry : CatalogVersion) : TopologyConstraints :=
  (entry.spec.updateConstraints.bind UpdateConstraints.denylist).getD {}

/-- Without constraints for the topology the allowlist lets every version in. -/
def Allows [Version.RangeReader] (entry : CatalogVersion) (clustered : Prop)
    (version : String) : Prop :=
  (∀ constraint, ¬ entry.allowlist.Lists clustered constraint) ∨
    ∃ constraint, entry.allowlist.Lists clustered constraint ∧
      Version.Matches version constraint

def Denies [Version.RangeReader] (entry : CatalogVersion) (clustered : Prop)
    (version : String) : Prop :=
  ∃ constraint, entry.denylist.Lists clustered constraint ∧
    Version.Matches version constraint

structure AgreeFor (clustered : Prop) (left right : CatalogVersion) : Prop where
  name : left.metadata.name = right.metadata.name
  allowlist : left.allowlist.AgreeFor clustered right.allowlist
  denylist : left.denylist.AgreeFor clustered right.denylist

end CatalogVersion

namespace UpdateVersionRule

/-! ## Errors of a transition -/

/-- A refusal is reported by one error, about the version that is asked for. -/
def Reports (refused : Prop) (requested : String) (errors : List FieldError) :
    Prop :=
  ¬ refused ∧ errors = [] ∨
    refused ∧ ∃ detail, errors =
      [.invalid "spec.updateVersion.targetVersion" (.string requested) detail]

theorem Reports.eq_nil_iff {refused : Prop} {requested : String}
    {errors : List FieldError} (reports : Reports refused requested errors) :
    errors = [] ↔ ¬ refused := by
  rcases reports with ⟨hpassed, rfl⟩ | ⟨hrefused, detail, rfl⟩
  · simp [hpassed]
  · simp [hrefused]

section

variable [Version.RangeReader] {clustered : Bool} {requested : String}
  {current target : CatalogVersion}

theorem reports_allowlistErrors :
    Reports (¬ current.Allows (clustered = true) target.softwareVersion) requested
      (allowlistErrors clustered requested current target current.allowlist) := by
  have hallows : current.Allows (clustered = true) target.softwareVersion ↔
      ((current.allowlist.forTopology clustered).isEmpty ||
        (current.allowlist.forTopology clustered).any
          (Version.satisfies target.softwareVersion)) = true := by
    simp only [CatalogVersion.Allows, Bool.or_eq_true, List.isEmpty_iff,
      List.eq_nil_iff_forall_not_mem, List.any_eq_true, Version.satisfies_iff,
      TopologyConstraints.mem_forTopology_iff]
  simp only [Reports, hallows, allowlistErrors]
  split
  · rename_i hallowed
    exact .inl ⟨not_not_intro hallowed, rfl⟩
  · rename_i hrefused
    exact .inr ⟨hrefused, _, rfl⟩

theorem reports_denylistErrors :
    Reports (current.Denies (clustered = true) target.softwareVersion) requested
      (denylistErrors clustered requested current target current.denylist) := by
  unfold denylistErrors
  split
  · rename_i hnone
    rw [List.find?_eq_none] at hnone
    refine .inl ⟨?_, rfl⟩
    rintro ⟨constraint, hlisted, hmatches⟩
    exact hnone constraint (TopologyConstraints.mem_forTopology_iff.2 hlisted)
      (Version.satisfies_iff.2 hmatches)
  · rename_i denied hdenied
    refine .inr ⟨⟨denied, ?_, ?_⟩, _, rfl⟩
    · exact TopologyConstraints.mem_forTopology_iff.1
        (List.mem_of_find?_eq_some hdenied)
    · exact Version.satisfies_iff.1 (List.find?_some hdenied)

/-- Lists that are not declared are as good as empty ones. -/
theorem transitionErrors_eq :
    transitionErrors clustered requested current target =
      allowlistErrors clustered requested current target current.allowlist ++
        denylistErrors clustered requested current target current.denylist := by
  have hallowlist : allowlistErrors clustered requested current target {} = [] := by
    cases clustered <;> rfl
  have hdenylist : denylistErrors clustered requested current target {} = [] := by
    cases clustered <;> rfl
  unfold transitionErrors CatalogVersion.allowlist CatalogVersion.denylist
  cases current.spec.updateConstraints with
  | none => simp [hallowlist, hdenylist]
  | some constraints =>
      simp only [Option.bind_some]
      congr 1
      · cases constraints.allowlist <;> simp [hallowlist]
      · cases constraints.denylist <;> simp [hdenylist]

theorem transitionErrors_congr {other : CatalogVersion}
    (agree : current.AgreeFor (clustered = true) other) :
    transitionErrors clustered requested current target =
      transitionErrors clustered requested other target := by
  have hname : current.metadata.nameText = other.metadata.nameText := by
    rw [Metadata.nameText, agree.name, Metadata.nameText]
  simp only [transitionErrors_eq, allowlistErrors, denylistErrors, hname,
    agree.allowlist.forTopology_eq, agree.denylist.forTopology_eq]

end

/-! ## Versions in the catalog -/

structure Catalogued (context : RuleContext) (spec : UpdateVersionSpec)
    (target current : CatalogVersion) : Prop where
  requested : context.spec.updateVersion = some spec
  named : spec.targetVersion ≠ ""
  offered : context.collaborators.target = some target
  supported : target.spec.deprecated = false
  running : context.collaborators.current = some current

section

variable [Version.RangeReader] {context : RuleContext} {spec : UpdateVersionSpec}
  {target current : CatalogVersion}

theorem Catalogued.errors_eq (catalogued : Catalogued context spec target current) :
    errors context =
      transitionErrors context.isClustered spec.targetVersion current target := by
  have hnamed : spec.targetVersion.isEmpty = false := by
    simpa using catalogued.named
  simp [errors, sectionErrors, deprecationErrors, currentErrors,
    catalogued.requested, hnamed, catalogued.offered, catalogued.supported,
    catalogued.running]

theorem catalogued_of_errors_eq_nil (h : errors context = []) :
    ∃ spec target current, Catalogued context spec target current := by
  obtain ⟨spec, target, current, hspec, htarget, hcurrent⟩ :=
    versions_of_errors_eq_nil h
  refine ⟨spec, target, current, hspec, ?_, htarget, ?_, hcurrent⟩
  · intro hunnamed
    simp [errors, hspec, sectionErrors, hunnamed] at h
  · refine Bool.eq_false_iff.2 fun hdeprecated => ?_
    simp only [errors, hspec, sectionErrors, htarget] at h
    split at h
    · cases h
    · simp [deprecationErrors, hdeprecated] at h

theorem Catalogued.reports (catalogued : Catalogued context spec target current) :
    ∃ front back, errors context = front ++ back ∧
      Reports (¬ current.Allows context.Clustered target.softwareVersion)
        spec.targetVersion front ∧
      Reports (current.Denies context.Clustered target.softwareVersion)
        spec.targetVersion back := by
  rw [catalogued.errors_eq, transitionErrors_eq,
    ← propext context.isClustered_iff]
  exact ⟨_, _, rfl, reports_allowlistErrors, reports_denylistErrors⟩

theorem Catalogued.errors_eq_nil_iff
    (catalogued : Catalogued context spec target current) :
    errors context = [] ↔
      current.Allows context.Clustered target.softwareVersion ∧
        ¬ current.Denies context.Clustered target.softwareVersion := by
  obtain ⟨front, back, herrors, hfront, hback⟩ := catalogued.reports
  rw [herrors, List.append_eq_nil_iff, hfront.eq_nil_iff, hback.eq_nil_iff,
    Classical.not_not]

theorem errors_told_congr {answers : Answers} {other : CatalogVersion}
    (agree : current.AgreeFor context.Clustered other) :
    errors (context.told { answers with current := some current }) =
      errors (context.told { answers with current := some other }) := by
  rw [← propext context.isClustered_iff] at agree
  have hcurrent (requested : String) (target : CatalogVersion) :
      currentErrors (context.told { answers with current := some current })
          requested target =
        currentErrors (context.told { answers with current := some other })
          requested target :=
    transitionErrors_congr agree
  have hspec (answers : Answers) : (context.told answers).spec = context.spec :=
    rfl
  cases hsection : context.spec.updateVersion with
  | none => simp only [errors, hspec, hsection]
  | some spec =>
      simp only [errors, hspec, hsection, sectionErrors, hcurrent]
      rfl

end

/-- However ranges are read, the rule finds nothing wrong exactly with transitions
between versions of the catalog that the current entry allows and does not deny.
Of the constraints, if nothing else is wrong, either list is reported at most once;
constraints that can not be read match nothing, and those for the other topology
have no effect. -/
theorem transitions_catalogued [Version.RangeReader] :
    (∀ context : RuleContext, errors context = [] ↔
      ∃ spec target current, Catalogued context spec target current ∧
        current.Allows context.Clustered target.softwareVersion ∧
        ¬ current.Denies context.Clustered target.softwareVersion) ∧
    (∀ text constraint : String, Version.Unreadable constraint →
      ¬ Version.Matches text constraint) ∧
    (∀ (context : RuleContext) (spec : UpdateVersionSpec)
      (target current : CatalogVersion),
      Catalogued context spec target current →
      ∃ front back, errors context = front ++ back ∧
        Reports (¬ current.Allows context.Clustered target.softwareVersion)
          spec.targetVersion front ∧
        Reports (current.Denies context.Clustered target.softwareVersion)
          spec.targetVersion back) ∧
    ∀ (context : RuleContext) (answers : Answers) (current other : CatalogVersion),
      current.AgreeFor context.Clustered other →
      errors (context.told { answers with current := some current }) =
        errors (context.told { answers with current := some other }) := by
  refine ⟨?_, ?_, ?_, ?_⟩
  · intro context
    constructor
    · intro h
      obtain ⟨spec, target, current, catalogued⟩ := catalogued_of_errors_eq_nil h
      exact ⟨spec, target, current, catalogued, catalogued.errors_eq_nil_iff.1 h⟩
    · rintro ⟨spec, target, current, catalogued, permitted⟩
      exact catalogued.errors_eq_nil_iff.2 permitted
  · exact fun text constraint => Version.not_matches_of_unreadable
  · exact fun context spec target current catalogued => catalogued.reports
  · intro context answers current other agree
    exact errors_told_congr agree

/-! ### A patch for clusters only -/

def patchConstraints (standalone : List String) : UpdateConstraints where
  allowlist := some { standalone := ["5.7"], cluster := [">= 8.0.36, < 8.1"] }
  denylist := some { standalone := standalone, cluster := ["newest"] }

def patchedFrom (standalone : List String) : CatalogVersion where
  metadata := { name := some "8.0.35" }
  spec := {
    version := "8.0.35", updateConstraints := some (patchConstraints standalone) }

def patchUpdate (topology : Option Topology) : RuleContext where
  request := {
    spec := {
      database := ⟨"db"⟩, type := "UpdateVersion"
      updateVersion := some ⟨"8.0.36-debian"⟩ } }
  database := { spec := { version := "8.0.35", topology := topology } }
  profile := Engine.mySQL.profile
  collaborators := {
    target := some { metadata := { name := some "8.0.36-debian" } }
    current := some (patchedFrom ["8.0.x"]) }

def patchCluster : RuleContext :=
  patchUpdate (some { mode := some "GroupReplication" })

/-- The patch is for clusters, whatever is denied to other databases.  For those
it is denied, and not allowed either. -/
theorem patchUpdate_for_clusters :
    errors patchCluster = [] ∧
      errors (patchCluster.told
        { patchCluster.collaborators with current := some (patchedFrom []) }) = [] ∧
      ¬ Version.Matches "8.0.36-debian" "newest" ∧
      ∃ front back, errors (patchUpdate none) = front ++ back ∧
        front ≠ [] ∧ back ≠ [] := by
  have hclustered : patchCluster.Clustered := ⟨_, _, rfl, rfl, by decide⟩
  have hstandalone : ¬ (patchUpdate none).Clustered :=
    fun ⟨_, _, htopology, _⟩ => nomatch htopology
  obtain ⟨hpermitted, hunreadable, hreported, hagree⟩ := transitions_catalogued
  have hunmatched : ¬ Version.Matches "8.0.36-debian" "newest" :=
    hunreadable _ _ ⟨by decide +kernel, by decide +kernel⟩
  have hadmitted : errors patchCluster = [] := by
    refine (hpermitted _).2
      ⟨_, _, _, ⟨rfl, by decide, rfl, rfl, rfl⟩, .inr ?_, ?_⟩
    · exact ⟨_, .inl ⟨hclustered, List.mem_singleton_self _⟩,
        by decide +kernel⟩
    · rintro ⟨constraint, ⟨-, hmember⟩ | ⟨hother, -⟩, hmatches⟩
      · cases List.mem_singleton.1 hmember
        exact hunmatched hmatches
      · exact hother hclustered
  refine ⟨hadmitted, ?_, hunmatched, ?_⟩
  · refine (hagree patchCluster patchCluster.collaborators
      (patchedFrom ["8.0.x"]) (patchedFrom []) ?_).symm.trans hadmitted
    exact ⟨rfl, ⟨fun _ => rfl, fun h => absurd hclustered h⟩,
      ⟨fun _ => rfl, fun h => absurd hclustered h⟩⟩
  · obtain ⟨front, back, herrors, hfront, hback⟩ :=
      hreported (patchUpdate none) _ _ _ ⟨rfl, by decide, rfl, rfl, rfl⟩
    refine ⟨front, back, herrors, ?_, ?_⟩
    · refine mt hfront.eq_nil_iff.1 (not_not_intro ?_)
      rintro (hnone | ⟨constraint, ⟨hother, -⟩ | ⟨-, hmember⟩, hmatches⟩)
      · exact hnone "5.7" (.inr ⟨hstandalone, List.mem_singleton_self _⟩)
      · exact hstandalone hother
      · cases List.mem_singleton.1 hmember
        revert hmatches
        decide +kernel
    · refine mt hback.eq_nil_iff.1 (not_not_intro ?_)
      exact ⟨_, .inr ⟨hstandalone, List.mem_singleton_self _⟩,
        by decide +kernel⟩

end UpdateVersionRule
end AdmissionGate
