import AdmissionGate.Proofs.OpsRequest.Mechanism
import AdmissionGate.Proofs.Version.Order
import AdmissionGate.Proofs.Version.Spelling
import AdmissionGate.Rule.ReconfigureTls

/-!
# Transitions of transport security

A request for transport security is accepted if it asks for one thing, and for
something that the database can do.  A database without certificates has none to
remove or to renew, so that an issuer is all it can be given.
-/

namespace AdmissionGate.ReconfigureTlsRule

open ReconfigureTlsSpec

/-- One mechanism is requested, there are certificates or a source of them, and the
database is new enough to do without plain connections. -/
structure Admits (context : RuleContext) (spec : ReconfigureTlsSpec) : Prop where
  single : ∃! mechanism, spec.Requests mechanism
  grounded : context.database.spec.tls ≠ none ∨ spec.config.issuer ≠ none
  encrypted : spec.requireSsl = some true →
    ∀ minimum, context.profile.requireSslFrom = some minimum →
      ∃ version, Version.Denotes context.databaseVersion version ∧
        version.Reaches minimum

section

variable {context : RuleContext} {spec : ReconfigureTlsSpec}

/-! ## Checks -/

theorem mechanismErrors_eq_nil_iff :
    mechanismErrors spec = [] ↔ ∃! mechanism, spec.Requests mechanism := by
  rw [← exists_mechanisms_eq_singleton_iff, mechanismErrors]
  cases spec.mechanisms with
  | nil => simp
  | cons name rest => cases rest <;> simp

/-- Whatever is requested of a database without certificates has to come with an
issuer. -/
theorem absentTlsErrors_eq_nil_iff : absentTlsErrors spec = [] ↔
    ∀ mechanism, spec.Requests mechanism →
      mechanism = .issue ∧ spec.config.issuer ≠ none := by
  have hremoves : spec.removes = true ↔ spec.Requests .removal :=
    @requests_iff spec .removal
  have hrotates : spec.rotates = true ↔ spec.Requests .rotation :=
    @requests_iff spec .rotation
  have hissues : spec.config.isSet = true ↔ spec.Requests .issue :=
    @requests_iff spec .issue
  simp only [absentTlsErrors, List.append_eq_nil_iff, ite_eq_right_iff,
    Bool.and_eq_true, hremoves, hrotates, hissues, Option.isNone_iff_eq_none,
    List.cons_ne_nil, imp_false, not_and]
  constructor
  · rintro ⟨⟨hremoval, hrotation⟩, hissue⟩ mechanism hrequested
    cases mechanism with
    | removal => exact absurd hrequested hremoval
    | rotation => exact absurd hrequested hrotation
    | issue => exact ⟨rfl, hissue hrequested⟩
  · intro h
    refine ⟨⟨fun hremoval => ?_, fun hrotation => ?_⟩, fun hissue => (h _ hissue).2⟩
    · cases (h _ hremoval).1
    · cases (h _ hrotation).1

theorem absentTlsErrors_eq_nil_iff_issuer
    (single : ∃! mechanism, spec.Requests mechanism) :
    absentTlsErrors spec = [] ↔ spec.config.issuer ≠ none := by
  rw [absentTlsErrors_eq_nil_iff]
  obtain ⟨mechanism, hrequested, hunique⟩ := single
  constructor
  · exact fun h => (h mechanism hrequested).2
  · intro hissuer other hother
    have hissue : .issue = mechanism := hunique .issue (.inl hissuer)
    exact ⟨(hunique other hother).trans hissue.symm, hissuer⟩

theorem requireSslErrors_eq_nil_iff {minimum : String} :
    requireSslErrors context minimum = [] ↔
      ∃ version, Version.Denotes context.databaseVersion version ∧
        version.Reaches minimum := by
  simp [requireSslErrors, Version.atLeast_iff, Version.ofText?_eq_some_iff]

theorem gateErrors_eq_nil_iff :
    (if spec.requiresSsl then
      (context.profile.requireSslFrom.map (requireSslErrors context)).getD [] else
      []) = [] ↔
      (spec.requireSsl = some true →
        ∀ minimum, context.profile.requireSslFrom = some minimum →
          ∃ version, Version.Denotes context.databaseVersion version ∧
            version.Reaches minimum) := by
  have hrequires : spec.requiresSsl = true ↔ spec.requireSsl = some true :=
    beq_iff_eq
  rw [ite_eq_right_iff, hrequires]
  refine imp_congr_right fun _ => ?_
  cases context.profile.requireSslFrom with
  | none => simp
  | some minimum => simp [requireSslErrors_eq_nil_iff]

theorem sectionErrors_eq_nil_iff :
    sectionErrors context spec = [] ↔ Admits context spec := by
  have hplain : (if context.database.hasTls then [] else absentTlsErrors spec) =
      [] ↔ context.database.spec.tls ≠ none ∨ absentTlsErrors spec = [] := by
    rw [Database.hasTls]
    cases context.database.spec.tls <;> simp
  rw [sectionErrors, List.append_eq_nil_iff, List.append_eq_nil_iff,
    mechanismErrors_eq_nil_iff, hplain, gateErrors_eq_nil_iff]
  constructor
  · rintro ⟨⟨single, hgrounded⟩, hencrypted⟩
    rw [absentTlsErrors_eq_nil_iff_issuer single] at hgrounded
    exact ⟨single, hgrounded, hencrypted⟩
  · intro admits
    rw [absentTlsErrors_eq_nil_iff_issuer admits.single]
    exact ⟨⟨admits.single, admits.grounded⟩, admits.encrypted⟩

end

/-! ## Transitions -/

theorem errors_eq_nil_iff {context : RuleContext} :
    errors context = [] ↔ ∃ spec,
      context.spec.tls = some spec ∧ Admits context spec := by
  cases hsection : context.spec.tls with
  | none => simp [errors, hsection]
  | some spec => simp [errors, hsection, sectionErrors_eq_nil_iff]

/-- The rule finds nothing wrong exactly in one transition from where the database
is.  From where there are no certificates that is the installation of an issuer, and
nothing else. -/
theorem transitions_safe (context : RuleContext) :
    (errors context = [] ↔ ∃ spec,
      context.spec.tls = some spec ∧ Admits context spec) ∧
    (errors context = [] → context.database.spec.tls = none →
      ∃ spec issuer, context.spec.tls = some spec ∧
        spec.config.issuer = some issuer ∧
        ∀ mechanism, spec.Requests mechanism ↔ mechanism = .issue) := by
  refine ⟨errors_eq_nil_iff, fun h plain => ?_⟩
  obtain ⟨spec, hsection, admits⟩ := errors_eq_nil_iff.1 h
  have hissuer : spec.config.issuer ≠ none :=
    admits.grounded.resolve_left fun htls => htls plain
  obtain ⟨issuer, hissuer'⟩ := Option.ne_none_iff_exists'.1 hissuer
  have hissue : spec.Requests .issue := .inl hissuer
  refine ⟨spec, issuer, hsection, hissuer', fun mechanism => ⟨fun hrequested => ?_, ?_⟩⟩
  · exact admits.single.unique hrequested hissue
  · rintro rfl
    exact hissue

/-! ### Encryption from a version on -/

def plainDatabase (version : String) (spec : ReconfigureTlsSpec) : RuleContext where
  request := { spec := { type := "ReconfigureTLS", tls := some spec } }
  database := { spec := { version } }
  profile := Engine.mariaDB.profile

def encryption : ReconfigureTlsSpec where
  config := { issuer := some ⟨"ca", none, none⟩ }
  requireSsl := some true

/-- Certificates without an issuer are not installed, whatever they are. -/
theorem issuer_installed :
    errors (plainDatabase "10.5.23-debian" encryption) = [] ∧
    (∀ mechanism, encryption.Requests mechanism ↔ mechanism = .issue) ∧
    ∀ certificates, errors (plainDatabase "10.5.23-debian"
      { config := { certificates } }) ≠ [] := by
  have haccepted : errors (plainDatabase "10.5.23-debian" encryption) = [] := by
    decide +kernel
  refine ⟨haccepted, ?_, fun certificates h => ?_⟩
  · obtain ⟨spec, issuer, hspec, -, hissue⟩ :=
      (transitions_safe _).2 haccepted rfl
    cases hspec
    exact hissue
  · obtain ⟨spec, issuer, hspec, hissuer, -⟩ := (transitions_safe _).2 h rfl
    cases hspec
    cases hissuer

end AdmissionGate.ReconfigureTlsRule
