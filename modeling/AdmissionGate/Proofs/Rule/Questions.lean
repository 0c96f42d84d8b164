import AdmissionGate.Rule

/-!
# Questions of the rules

What a rule asks about objects other than the database: an update of the version
asks for two catalog entries, reconfiguration and new credentials ask for the
secret that they name, and the other rules ask for nothing.
-/

namespace AdmissionGate

def Operation.secret? (operation : Operation) (spec : OpsRequestSpec) :
    Option LocalReference :=
  match operation with
  | .reconfigure => spec.configuration.bind ReconfigureSpec.configSecret
  | .rotateAuth => spec.authentication.bind RotateAuthSpec.secret
  | _ => none

/-- Two askers are told alike if the rule of the operation, whatever it asks, is
told the same. -/
structure Operation.ToldAlike (operation : Operation) (spec : OpsRequestSpec)
    (answers others : Answers) : Prop where
  target (h : operation = .updateVersion) : answers.target = others.target
  current (h : operation = .updateVersion) : answers.current = others.current
  secret {secret : LocalReference} (named : operation.secret? spec = some secret)
    (hname : secret.name ≠ "") :
    answers.hasSecret secret.name = others.hasSecret secret.name

def RuleContext.told (context : RuleContext) (answers : Answers) : RuleContext :=
  { context with collaborators := answers }

section

variable {context : RuleContext} {answers others : Answers}

theorem ReconfigureRule.secretErrors_congr {secret : LocalReference}
    (h : secret.name ≠ "" →
      answers.hasSecret secret.name = others.hasSecret secret.name) :
    secretErrors (context.told answers) secret =
      secretErrors (context.told others) secret := by
  by_cases hname : secret.name = ""
  · simp [secretErrors, hname]
  · have hanswer : (context.told answers).collaborators.hasSecret secret.name =
        (context.told others).collaborators.hasSecret secret.name := h hname
    simp only [secretErrors, hanswer]

theorem ReconfigureRule.errors_congr
    (alike : Operation.reconfigure.ToldAlike context.spec answers others) :
    errors (context.told answers) = errors (context.told others) := by
  have hspec : ∀ answers, (context.told answers).spec = context.spec :=
    fun _ => rfl
  cases hsection : context.spec.configuration with
  | none => simp only [errors, hspec, hsection]
  | some spec =>
      have hsecret : spec.configSecret.map (secretErrors (context.told answers)) =
          spec.configSecret.map (secretErrors (context.told others)) := by
        refine Option.map_congr fun secret hnamed => secretErrors_congr ?_
        exact alike.secret (by simpa [Operation.secret?, hsection] using hnamed)
      simp only [errors, hspec, hsection, sectionErrors, hsecret]
      rfl

theorem RotateAuthRule.secretErrors_congr {secret : LocalReference}
    (h : secret.name ≠ "" →
      answers.hasSecret secret.name = others.hasSecret secret.name) :
    secretErrors (context.told answers) secret =
      secretErrors (context.told others) secret := by
  by_cases hname : secret.name = ""
  · simp [secretErrors, hname]
  · have hanswer : (context.told answers).collaborators.hasSecret secret.name =
        (context.told others).collaborators.hasSecret secret.name := h hname
    simp only [secretErrors, hanswer]

theorem RotateAuthRule.errors_congr
    (alike : Operation.rotateAuth.ToldAlike context.spec answers others) :
    errors (context.told answers) = errors (context.told others) := by
  have hspec : ∀ answers, (context.told answers).spec = context.spec :=
    fun _ => rfl
  cases hsection : context.spec.authentication with
  | none => simp only [errors, hspec, hsection]
  | some spec =>
      have hsecret : spec.secret.map (secretErrors (context.told answers)) =
          spec.secret.map (secretErrors (context.told others)) := by
        refine Option.map_congr fun secret hnamed => secretErrors_congr ?_
        exact alike.secret (by simpa [Operation.secret?, hsection] using hnamed)
      simp only [errors, hspec, hsection, sectionErrors, hsecret]
      rfl

theorem Operation.ruleErrors_congr [Version.RangeReader] {operation : Operation}
    (alike : operation.ToldAlike context.spec answers others) :
    operation.ruleErrors (context.told answers) =
      operation.ruleErrors (context.told others) := by
  cases operation with
  | updateVersion =>
      obtain ⟨htarget, hcurrent, -⟩ := alike
      cases answers
      cases others
      cases htarget rfl
      cases hcurrent rfl
      rfl
  | reconfigure => exact ReconfigureRule.errors_congr alike
  | rotateAuth => exact RotateAuthRule.errors_congr alike
  | _ => rfl

end

/-! ## What an accepted request was told -/

section

variable {context : RuleContext}

theorem ReconfigureRule.hasSecret_of_errors_eq_nil (h : errors context = [])
    {secret : LocalReference}
    (named : Operation.reconfigure.secret? context.spec = some secret) :
    context.collaborators.hasSecret secret.name = true := by
  obtain ⟨spec, hsection, hsecret⟩ := Option.bind_eq_some_iff.1 named
  simp only [errors, hsection, sectionErrors] at h
  split at h
  · cases h
  · simp only [hsecret, Option.map_some, Option.getD_some,
      List.append_eq_nil_iff, secretErrors] at h
    obtain ⟨-, h⟩ := h
    split at h
    · cases h
    · split at h
      · assumption
      · cases h
  · cases h

theorem RotateAuthRule.hasSecret_of_errors_eq_nil (h : errors context = [])
    {secret : LocalReference}
    (named : Operation.rotateAuth.secret? context.spec = some secret) :
    context.collaborators.hasSecret secret.name = true := by
  obtain ⟨spec, hsection, hsecret⟩ := Option.bind_eq_some_iff.1 named
  simp only [errors, hsection, sectionErrors, hsecret, Option.map_some,
    Option.getD_some, List.append_eq_nil_iff, secretErrors] at h
  obtain ⟨h, -⟩ := h
  split at h
  · cases h
  · split at h
    · assumption
    · cases h

theorem Operation.hasSecret_of_ruleErrors_eq_nil [Version.RangeReader]
    {operation : Operation}
    (h : operation.ruleErrors context = []) {secret : LocalReference}
    (named : operation.secret? context.spec = some secret) :
    context.collaborators.hasSecret secret.name = true := by
  cases operation with
  | reconfigure => exact ReconfigureRule.hasSecret_of_errors_eq_nil h named
  | rotateAuth => exact RotateAuthRule.hasSecret_of_errors_eq_nil h named
  | _ => cases named

theorem UpdateVersionRule.versions_of_errors_eq_nil [Version.RangeReader]
    (h : errors context = []) :
    ∃ spec target current, context.spec.updateVersion = some spec ∧
      context.collaborators.target = some target ∧
      context.collaborators.current = some current := by
  unfold errors at h
  split at h
  · cases h
  · rename_i spec hspec
    simp only [sectionErrors] at h
    split at h
    · cases h
    · split at h
      · cases h
      · rename_i target htarget
        simp only [List.append_eq_nil_iff, currentErrors] at h
        obtain ⟨-, h⟩ := h
        split at h
        · rename_i current hcurrent
          exact ⟨spec, target, current, hspec, htarget, hcurrent⟩
        · cases h

end
end AdmissionGate
