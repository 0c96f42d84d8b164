import AdmissionGate.Proofs.Rule.UpdateVersion
import AdmissionGate.Proofs.Version.Order

/-!
# Gates of versions

Some requests are admitted only from one version on, or only up to one.  An
accepted request is never on the wrong side of such a gate.  Whether it may have a
version that can not be read depends on the gate: two of the gates hold it back,
and the other two are as good as absent.
-/

namespace AdmissionGate

/-! ## Gates -/

/-- Where a request is judged by a version: that of the database, or for updates
that of the target. -/
inductive VersionGate where
  | requireSsl
  | rotateAuth
  | allowlist
  | denylist
deriving DecidableEq

namespace VersionGate

def operation : VersionGate → Operation
  | .requireSsl => .reconfigureTls
  | .rotateAuth => .rotateAuth
  | .allowlist | .denylist => .updateVersion

/-- A gate that takes a version for permitted unless it can be read. -/
def FailsOpen (gate : VersionGate) : Prop := gate = .rotateAuth ∨ gate = .denylist

/-- The request has to pass the gate with the version in the text, which has to be
one of those that are permitted. -/
inductive Guards [Version.RangeReader] (context : RuleContext) :
    VersionGate → String → (Version → Prop) → Prop
  | requireSsl {spec : ReconfigureTlsSpec} {minimum : String}
      (requested : context.spec.tls = some spec)
      (demanded : spec.requireSsl = some true)
      (bound : context.profile.requireSslFrom = some minimum) :
      Guards context .requireSsl context.databaseVersion (·.Reaches minimum)
  | rotateAuth {greatest : Nat}
      (bound : context.profile.rotateAuthTlsAbove = some greatest)
      (plain : context.database.spec.tls = none) :
      Guards context .rotateAuth context.databaseVersion (·.major ≤ greatest)
  | allowlist {target current : CatalogVersion} {constraint : String}
      (offered : context.collaborators.target = some target)
      (running : context.collaborators.current = some current)
      (listed : current.allowlist.Lists context.Clustered constraint) :
      Guards context .allowlist target.softwareVersion fun version =>
        ∃ constraint, current.allowlist.Lists context.Clustered constraint ∧
          version.AllowedBy constraint
  | denylist {target current : CatalogVersion} {constraint : String}
      (offered : context.collaborators.target = some target)
      (running : context.collaborators.current = some current)
      (listed : current.denylist.Lists context.Clustered constraint) :
      Guards context .denylist target.softwareVersion fun version =>
        ∀ constraint, current.denylist.Lists context.Clustered constraint →
          ¬ version.AllowedBy constraint

end VersionGate

def Version.Passes (text : String) (permitted : Version → Prop) : Prop :=
  ∃ version, ofText? text = some version ∧ permitted version

def VersionGate.Bypassed [Version.RangeReader] (gate : VersionGate)
    (context : RuleContext) : Prop :=
  ∃ text permitted, gate.Guards context text permitted ∧
    gate.operation.ruleErrors context = [] ∧ ¬ Version.Passes text permitted

/-! ## Requests without a gate -/

def CatalogVersion.constrain (entry : CatalogVersion)
    (change : UpdateConstraints → UpdateConstraints) : CatalogVersion :=
  { entry with spec := { entry.spec with
      updateConstraints := entry.spec.updateConstraints.map change } }

/-- The request as if there was no such gate. -/
def VersionGate.lift (gate : VersionGate) (context : RuleContext) : RuleContext :=
  let running (change : UpdateConstraints → UpdateConstraints) : RuleContext :=
    context.told { context.collaborators with
      current := context.collaborators.current.map (·.constrain change) }
  match gate with
  | .requireSsl =>
      { context with profile := { context.profile with requireSslFrom := none } }
  | .rotateAuth =>
      { context with
        profile := { context.profile with rotateAuthTlsAbove := none } }
  | .allowlist => running ({ · with allowlist := none })
  | .denylist => running ({ · with denylist := none })

/-! ## Each gate -/

section

variable {context : RuleContext}

theorem ReconfigureTlsRule.passes_of_errors_eq_nil (h : errors context = [])
    {spec : ReconfigureTlsSpec} {minimum : String}
    (requested : context.spec.tls = some spec)
    (demanded : spec.requireSsl = some true)
    (bound : context.profile.requireSslFrom = some minimum) :
    Version.Passes context.databaseVersion (·.Reaches minimum) := by
  have hrequires : spec.requiresSsl = true := by
    rw [ReconfigureTlsSpec.requiresSsl, demanded]
    rfl
  simp only [errors, requested, sectionErrors, List.append_eq_nil_iff, hrequires,
    bound, if_true, Option.map_some, Option.getD_some] at h
  have hgate : requireSslErrors context minimum = [] := h.2
  unfold requireSslErrors at hgate
  split at hgate
  · rename_i hatLeast
    exact Version.atLeast_iff.1 hatLeast
  · cases hgate

theorem RotateAuthRule.tlsErrors_eq_nil_iff {greatest : Nat} :
    tlsErrors context greatest = [] ↔
      context.database.spec.tls = none → ∀ version,
        Version.ofText? context.databaseVersion = some version →
          version.major ≤ greatest := by
  have hrefused : ((Version.ofText? context.databaseVersion).any
        (greatest < ·.major) && !context.database.hasTls) = true ↔
      (∃ version, Version.ofText? context.databaseVersion = some version ∧
        greatest < version.major) ∧ context.database.spec.tls = none := by
    simp [Database.hasTls, Option.any_eq_true]
  simp only [tlsErrors, hrefused]
  split
  · rename_i hunmet
    obtain ⟨⟨version, hversion, hgreater⟩, hplain⟩ := hunmet
    refine ⟨nofun, fun h => ?_⟩
    exact absurd (h hplain version hversion) (Nat.not_le.2 hgreater)
  · rename_i hmet
    refine ⟨fun _ hplain version hversion => ?_, fun _ => rfl⟩
    exact Nat.not_lt.1 fun hgreater => hmet ⟨⟨version, hversion, hgreater⟩, hplain⟩

theorem RotateAuthRule.major_le_of_errors_eq_nil (h : errors context = [])
    {greatest : Nat}
    (bound : context.profile.rotateAuthTlsAbove = some greatest)
    (plain : context.database.spec.tls = none) {version : Version}
    (read : Version.ofText? context.databaseVersion = some version) :
    version.major ≤ greatest := by
  unfold errors at h
  split at h
  · cases h
  · simp only [sectionErrors, List.append_eq_nil_iff, bound, Option.map_some,
      Option.getD_some] at h
    exact tlsErrors_eq_nil_iff.1 h.2 plain version read

theorem UpdateVersionRule.permitted_of_errors_eq_nil [Version.RangeReader]
    (h : errors context = [])
    {target current : CatalogVersion}
    (offered : context.collaborators.target = some target)
    (running : context.collaborators.current = some current) :
    current.Allows context.Clustered target.softwareVersion ∧
      ¬ current.Denies context.Clustered target.softwareVersion := by
  obtain ⟨spec, target', current', catalogued⟩ := catalogued_of_errors_eq_nil h
  cases offered.symm.trans catalogued.offered
  cases running.symm.trans catalogued.running
  exact catalogued.errors_eq_nil_iff.1 h

theorem RotateAuthRule.errors_eq_lift
    (unread : Version.ofText? context.databaseVersion = none) :
    errors context = errors (VersionGate.rotateAuth.lift context) := by
  have hgate : (context.profile.rotateAuthTlsAbove.map
      (tlsErrors context)).getD [] = [] := by
    cases context.profile.rotateAuthTlsAbove with
    | none => rfl
    | some greatest =>
        refine tlsErrors_eq_nil_iff.2 fun _ version hversion => ?_
        cases unread.symm.trans hversion
  have hspec : (VersionGate.rotateAuth.lift context).spec = context.spec := rfl
  unfold errors
  rw [hspec]
  split
  · rfl
  · rw [sectionErrors, hgate]
    rfl

theorem UpdateVersionRule.denylistErrors_of_unread [Version.RangeReader]
    {clustered : Bool} {requested : String} {current target : CatalogVersion}
    (unread : Version.ofText? target.softwareVersion = none)
    (denylist : TopologyConstraints) :
    denylistErrors clustered requested current target denylist = [] := by
  have hnone : (denylist.forTopology clustered).find?
      (Version.satisfies target.softwareVersion) = none := by
    rw [List.find?_eq_none]
    intro constraint _ hsatisfied
    obtain ⟨version, hversion, -⟩ := Version.satisfies_iff.1 hsatisfied
    cases unread.symm.trans hversion
  rw [denylistErrors, hnone]

theorem UpdateVersionRule.errors_eq_lift [Version.RangeReader]
    {target : CatalogVersion}
    (offered : context.collaborators.target = some target)
    (unread : Version.ofText? target.softwareVersion = none) :
    errors context = errors (VersionGate.denylist.lift context) := by
  have htransition (requested : String) (current : CatalogVersion) :
      transitionErrors context.isClustered requested current target =
        transitionErrors context.isClustered requested
          (current.constrain ({ · with denylist := none })) target := by
    have hallowlist :
        (current.constrain ({ · with denylist := none })).allowlist =
          current.allowlist := by
      cases hconstraints : current.spec.updateConstraints <;>
        simp [CatalogVersion.allowlist, CatalogVersion.constrain, hconstraints]
    simp only [transitionErrors_eq, denylistErrors_of_unread unread, hallowlist]
    rfl
  have hcurrent (requested : String) : currentErrors context requested target =
      currentErrors (VersionGate.denylist.lift context) requested target := by
    cases hrunning : context.collaborators.current with
    | none =>
        simp only [currentErrors, VersionGate.lift, RuleContext.told, hrunning]
        rfl
    | some current =>
        simp only [currentErrors, VersionGate.lift, RuleContext.told, hrunning]
        exact htransition requested current
  have hspec : (VersionGate.denylist.lift context).spec = context.spec := rfl
  have hoffered :
      (VersionGate.denylist.lift context).collaborators.target = some target :=
    offered
  cases hsection : context.spec.updateVersion with
  | none => simp only [errors, hspec, hsection]
  | some spec =>
      simp only [errors, hspec, hsection, sectionErrors, offered, hoffered,
        hcurrent]
      rfl

end

/-! ## All gates -/

namespace VersionGate

section

variable [Version.RangeReader] {context : RuleContext} {gate : VersionGate}
  {text : String} {permitted : Version → Prop} (guards : gate.Guards context text permitted)
  (accepted : gate.operation.ruleErrors context = [])

include guards accepted

theorem Guards.permits {version : Version}
    (read : Version.ofText? text = some version) : permitted version := by
  cases guards with
  | requireSsl requested demanded bound =>
      obtain ⟨other, hother, hreaches⟩ :=
        ReconfigureTlsRule.passes_of_errors_eq_nil accepted requested demanded bound
      cases read.symm.trans hother
      exact hreaches
  | rotateAuth bound plain =>
      exact RotateAuthRule.major_le_of_errors_eq_nil accepted bound plain read
  | allowlist offered running listed =>
      rcases (UpdateVersionRule.permitted_of_errors_eq_nil accepted offered
        running).1 with hnone | ⟨constraint, hlisted, other, hother, hallowed⟩
      · exact absurd listed (hnone _)
      · cases read.symm.trans hother
        exact ⟨constraint, hlisted, hallowed⟩
  | denylist offered running listed =>
      intro constraint hlisted hallowed
      exact (UpdateVersionRule.permitted_of_errors_eq_nil accepted offered
        running).2 ⟨constraint, hlisted, _, read, hallowed⟩

theorem Guards.passes_iff :
    Version.Passes text permitted ↔ (Version.ofText? text).isSome = true := by
  rw [Option.isSome_iff_exists]
  exact exists_congr fun version =>
    and_iff_left_of_imp fun read => guards.permits accepted read

theorem Guards.readable_or_failsOpen :
    (Version.ofText? text).isSome = true ∨ gate.FailsOpen := by
  cases guards with
  | requireSsl requested demanded bound =>
      obtain ⟨version, hversion, -⟩ :=
        ReconfigureTlsRule.passes_of_errors_eq_nil accepted requested demanded bound
      exact .inl (Option.isSome_iff_exists.2 ⟨version, hversion⟩)
  | rotateAuth bound plain => exact .inr (.inl rfl)
  | allowlist offered running listed =>
      rcases (UpdateVersionRule.permitted_of_errors_eq_nil accepted offered
        running).1 with hnone | ⟨constraint, -, version, hversion, -⟩
      · exact absurd listed (hnone _)
      · exact .inl (Option.isSome_iff_exists.2 ⟨version, hversion⟩)
  | denylist offered running listed => exact .inr (.inr rfl)

end

theorem Guards.ruleErrors_eq_lift [Version.RangeReader] {context : RuleContext}
    {gate : VersionGate} {text : String} {permitted : Version → Prop}
    (guards : gate.Guards context text permitted) (failsOpen : gate.FailsOpen)
    (unread : Version.ofText? text = none) :
    gate.operation.ruleErrors context =
      gate.operation.ruleErrors (gate.lift context) := by
  cases guards with
  | rotateAuth bound plain => exact RotateAuthRule.errors_eq_lift unread
  | denylist offered running listed =>
      exact UpdateVersionRule.errors_eq_lift offered unread
  | requireSsl | allowlist =>
      rcases failsOpen with h | h
      · cases h
      · cases h

/-- However ranges are read, a gate is bypassed exactly if it fails open, the version
can not be read, and nothing else is wrong with the request. -/
theorem bypassed_iff [Version.RangeReader] (gate : VersionGate)
    (context : RuleContext) :
    gate.Bypassed context ↔ gate.FailsOpen ∧ ∃ text permitted,
      gate.Guards context text permitted ∧ Version.ofText? text = none ∧
        gate.operation.ruleErrors (gate.lift context) = [] := by
  constructor
  · rintro ⟨text, permitted, guards, accepted, hfails⟩
    have hunread : ¬ (Version.ofText? text).isSome = true :=
      mt (guards.passes_iff accepted).2 hfails
    have hopen : gate.FailsOpen :=
      (guards.readable_or_failsOpen accepted).resolve_left hunread
    rw [Option.not_isSome_iff_eq_none] at hunread
    rw [guards.ruleErrors_eq_lift hopen hunread] at accepted
    exact ⟨hopen, text, permitted, guards, hunread, accepted⟩
  · rintro ⟨hopen, text, permitted, guards, hunread, hlifted⟩
    have accepted := (guards.ruleErrors_eq_lift hopen hunread).trans hlifted
    refine ⟨text, permitted, guards, accepted, mt (guards.passes_iff accepted).1 ?_⟩
    rw [hunread]
    exact Bool.false_ne_true

/-! ### The latest version -/

def rotation (version : String) : RuleContext where
  request := { spec := { type := "RotateAuth", authentication := some {} } }
  database := { spec := { version } }
  profile := Engine.redis.profile

def innovation (target : String) : RuleContext where
  request := {
    spec := { type := "UpdateVersion", updateVersion := some ⟨target⟩ } }
  database := { spec := { version := "8.0.35" } }
  profile := Engine.mySQL.profile
  collaborators := {
    target := some { metadata := { name := some target } }
    current := some {
      spec := {
        version := "8.0.35"
        updateConstraints := some {
          denylist := some { standalone := [">= 9.0"] } } } } }

/-- What is called the latest version gets through both gates, and by its number
it gets through neither. -/
theorem latest_version_bypasses :
    rotateAuth.Bypassed (rotation "latest") ∧
      denylist.Bypassed (innovation "latest") ∧
      Operation.rotateAuth.ruleErrors (rotation "7.2") ≠ [] ∧
      Operation.updateVersion.ruleErrors (innovation "9.1") ≠ [] := by
  have hunread : Version.ofText? "latest" = none := by decide +kernel
  have hstandalone : ¬ (innovation "latest").Clustered :=
    fun ⟨_, _, htopology, _⟩ => nomatch htopology
  refine ⟨(bypassed_iff _ _).2 ⟨.inl rfl, _, _, .rotateAuth rfl rfl, hunread, rfl⟩,
    (bypassed_iff _ _).2 ⟨.inr rfl, _, _, .denylist rfl rfl
      (.inr ⟨hstandalone, List.mem_singleton_self _⟩), hunread, ?_⟩, ?_, ?_⟩
  · decide +kernel
  · decide +kernel
  · decide +kernel

end VersionGate
end AdmissionGate
