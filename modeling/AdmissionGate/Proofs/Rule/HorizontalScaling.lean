import AdmissionGate.Proofs.Json.Entries
import AdmissionGate.Proofs.Profile
import AdmissionGate.Rule.HorizontalScaling

/-!
# Kept quorums

A database is scaled exactly to counts of names that its engine and topology
have, all of them positive and within the quorum, if it can be resized at all.
Where there is a quorum, one count is scaled, and the database is a cluster.
-/

namespace AdmissionGate

/-! ## Quorums -/

def Quorum.Admits (quorum : Quorum) (count : Int) : Prop :=
  quorum.least ≤ count ∧
    ∀ greatest, quorum.greatest = some greatest → count ≤ greatest

theorem Quorum.contains_iff {quorum : Quorum} {count : Int} :
    quorum.contains count = true ↔ quorum.Admits count := by
  cases hgreatest : quorum.greatest <;> simp [contains, Admits, hgreatest]

/-- An engine with a quorum counts its members alone.  It either has modes that
can be resized, which all make a cluster, or requires a cluster. -/
theorem Engine.profile_of_quorum {engine : Engine} {quorum : Quorum}
    (h : engine.profile.horizontal.quorum = some quorum) :
    engine.profile.horizontal.shape = { shared := ["member"] } ∧
      quorum.field = "member" ∧
      (engine.profile.horizontal.resizableModes = [] ∧
          engine.profile.horizontal.requiresClustered = true ∨
        engine.profile.horizontal.resizableModes ≠ [] ∧
          ∃ modes, engine.profile.clustering = .topologyModeIn modes ∧
            ∀ mode ∈ engine.profile.horizontal.resizableModes, mode ∈ modes) := by
  cases engine with
  | mariaDB =>
      cases h
      exact ⟨rfl, rfl, .inl ⟨rfl, rfl⟩⟩
  | perconaXtraDB =>
      cases h
      exact ⟨rfl, rfl, .inl ⟨rfl, rfl⟩⟩
  | mySQL =>
      cases h
      exact ⟨rfl, rfl, .inr ⟨by decide, _, rfl, by decide⟩⟩
  | _ => cases h

theorem Clustering.Applies.mono {modes others : List String} {database : Database}
    (applies : (topologyModeIn modes).Applies database)
    (included : ∀ mode ∈ modes, mode ∈ others) :
    (topologyModeIn others).Applies database := by
  obtain ⟨topology, mode, htopology, hmode, hmember⟩ := applies
  exact ⟨topology, mode, htopology, hmode, included mode hmember⟩

/-! ## Databases that can be resized -/

/-- The topology has a mode that can be resized, if the engine has such modes.
If it has none, the database is a cluster where that is required. -/
structure RuleContext.Resizable (context : RuleContext) : Prop where
  mode (h : context.profile.horizontal.resizableModes ≠ []) :
    (Clustering.topologyModeIn
      context.profile.horizontal.resizableModes).Applies context.database
  cluster (h : context.profile.horizontal.resizableModes = [])
    (required : context.profile.horizontal.requiresClustered = true) :
    context.Clustered

theorem RuleContext.Resizable.clustered {context : RuleContext} {engine : Engine}
    {quorum : Quorum} (resizable : context.Resizable)
    (hprofile : context.profile = engine.profile)
    (hquorum : engine.profile.horizontal.quorum = some quorum) :
    context.Clustered := by
  rcases (Engine.profile_of_quorum hquorum).2.2 with
    ⟨hnone, hrequired⟩ | ⟨hsome, modes, hclustering, hincluded⟩
  · rw [← hprofile] at hnone hrequired
    exact resizable.cluster hnone hrequired
  · rw [← hprofile] at hsome hclustering hincluded
    rw [RuleContext.Clustered, hclustering]
    exact (resizable.mode hsome).mono hincluded

namespace HorizontalScalingRule

/-! ## The rule -/

theorem countErrors_eq_nil_iff {rules : HorizontalRules} {name : String}
    {count : Int} :
    countErrors rules name count = [] ↔ 1 ≤ count ∧
      ∀ quorum, rules.quorum = some quorum → quorum.field = name →
        quorum.Admits count := by
  unfold countErrors
  by_cases hcount : count ≤ 0
  · rw [if_pos hcount]
    exact ⟨nofun, fun h => absurd h.1 (by omega)⟩
  rw [if_neg hcount]
  have hpositive : 1 ≤ count := by omega
  split
  · rename_i hquorum
    simp [hpositive, hquorum]
  · rename_i quorum hquorum
    simp [hpositive, hquorum, Quorum.contains_iff]

theorem topologyErrors_eq_nil_iff {context : RuleContext} :
    topologyErrors context = [] ↔ context.Resizable := by
  have hmode : context.database.topologyMode?.any
      context.profile.horizontal.resizableModes.contains = true ↔
      (Clustering.topologyModeIn
        context.profile.horizontal.resizableModes).Applies context.database :=
    Clustering.holds_iff (.topologyModeIn _) _
  have hrequired : (context.profile.horizontal.requiresClustered &&
        !context.isClustered) = true ↔
      ¬ (context.profile.horizontal.requiresClustered = true →
        context.Clustered) := by
    rw [Bool.and_eq_true, Bool.not_eq_true', ← Bool.not_eq_true,
      context.isClustered_iff, Classical.not_imp]
  simp only [topologyErrors]
  split
  · rename_i hnone
    rw [List.isEmpty_iff] at hnone
    split
    · rename_i hunmet
      exact ⟨nofun, fun h => absurd (h.cluster hnone) (hrequired.1 hunmet)⟩
    · rename_i hmet
      have hcluster := Classical.not_not.1 (mt hrequired.2 hmet)
      exact ⟨fun _ => ⟨fun h => absurd hnone h, fun _ => hcluster⟩, fun _ => rfl⟩
  · rename_i hsome
    rw [List.isEmpty_iff] at hsome
    split
    · rename_i hresizable
      exact ⟨fun _ => ⟨fun _ => hmode.1 hresizable, fun h => absurd h hsome⟩,
        fun _ => rfl⟩
    · rename_i hfixed
      exact ⟨nofun, fun h => absurd (hmode.2 (h.mode hsome)) hfixed⟩

structure Admits (context : RuleContext) (spec : HorizontalScalingSpec) :
    Prop where
  nonempty : spec.counts.entries ≠ []
  allowed : ∀ name ∈ spec.counts.keys,
    context.profile.horizontal.shape.Allows context.Clustered name
  positive : ∀ entry ∈ spec.counts.entries, 1 ≤ entry.2
  quorum : ∀ entry ∈ spec.counts.entries, ∀ quorum,
    context.profile.horizontal.quorum = some quorum →
      quorum.field = entry.1 → quorum.Admits entry.2
  resizable : context.Resizable

theorem sectionErrors_eq_nil_iff {context : RuleContext}
    {spec : HorizontalScalingSpec} :
    sectionErrors context spec = [] ↔ Admits context spec := by
  simp only [sectionErrors, List.append_eq_nil_iff, Shape.errors_eq_nil_iff,
    ne_eq, Dict.keys_eq_nil_iff, List.flatMap_eq_nil_iff, countErrors_eq_nil_iff,
    topologyErrors_eq_nil_iff, context.isClustered_iff]
  constructor
  · rintro ⟨⟨⟨hnonempty, hallowed⟩, hcounts⟩, hresizable⟩
    exact ⟨hnonempty, hallowed, fun entry hentry => (hcounts entry hentry).1,
      fun entry hentry => (hcounts entry hentry).2, hresizable⟩
  · intro admits
    exact ⟨⟨⟨admits.nonempty, admits.allowed⟩, fun entry hentry =>
      ⟨admits.positive entry hentry, admits.quorum entry hentry⟩⟩,
      admits.resizable⟩

theorem errors_eq_nil_iff {context : RuleContext} :
    errors context = [] ↔ ∃ spec,
      context.spec.horizontalScaling = some spec ∧ Admits context spec := by
  cases hsection : context.spec.horizontalScaling with
  | none => simp [errors, hsection]
  | some spec => simp [errors, hsection, sectionErrors_eq_nil_iff]

theorem Admits.eq_member {context : RuleContext} {spec : HorizontalScalingSpec}
    {engine : Engine} {quorum : Quorum} (admits : Admits context spec)
    (hprofile : context.profile = engine.profile)
    (hquorum : engine.profile.horizontal.quorum = some quorum) :
    ∃ count, spec = ⟨.singleton "member" count⟩ ∧ quorum.Admits count := by
  obtain ⟨hshape, hfield, -⟩ := Engine.profile_of_quorum hquorum
  rw [← hprofile] at hshape hquorum
  have honly : ∀ name ∈ spec.counts.keys, name = "member" := by
    intro name hname
    simpa [hshape, Shape.Allows] using admits.allowed name hname
  obtain ⟨count, hcounts⟩ := Dict.eq_singleton_of_keys admits.nonempty honly
  have hmember : ("member", count) ∈ spec.counts.entries := by
    rw [hcounts]
    exact List.mem_singleton_self _
  exact ⟨count, congrArg HorizontalScalingSpec.mk hcounts,
    admits.quorum _ hmember quorum hquorum hfield⟩

/-- The rule finds nothing wrong exactly in counts that the engine and the
topology permit.  Where the engine has a quorum, what is scaled is the number of
members alone, within the quorum, and of a cluster. -/
theorem quorum_kept :
    (∀ context : RuleContext, errors context = [] ↔ ∃ spec,
      context.spec.horizontalScaling = some spec ∧ Admits context spec) ∧
    ∀ (engine : Engine) (quorum : Quorum) (context : RuleContext),
      context.profile = engine.profile →
      engine.profile.horizontal.quorum = some quorum →
      errors context = [] →
      ∃ count,
        context.spec.horizontalScaling = some ⟨.singleton "member" count⟩ ∧
          quorum.Admits count ∧ context.Clustered := by
  refine ⟨fun context => errors_eq_nil_iff, ?_⟩
  intro engine quorum context hprofile hquorum h
  obtain ⟨spec, hsection, admits⟩ := errors_eq_nil_iff.1 h
  obtain ⟨count, rfl, hcount⟩ := admits.eq_member hprofile hquorum
  exact ⟨count, hsection, hcount, admits.resizable.clustered hprofile hquorum⟩

/-! ### A replication group of nine -/

def groupOf (count : Int) : RuleContext where
  request := {
    spec := {
      type := "HorizontalScaling"
      horizontalScaling := some ⟨.singleton "member" count⟩ } }
  database := {
    spec := { topology := some { mode := some "GroupReplication" } } }
  profile := Engine.mySQL.profile

theorem group_of_nine_at_most :
    errors (groupOf 9) = [] ∧ (groupOf 9).Clustered ∧ errors (groupOf 10) ≠ [] := by
  have hnine : errors (groupOf 9) = [] := by decide
  obtain ⟨-, hkept⟩ := quorum_kept
  obtain ⟨-, -, -, hclustered⟩ := hkept .mySQL _ (groupOf 9) rfl rfl hnine
  refine ⟨hnine, hclustered, fun hten => ?_⟩
  obtain ⟨count, hcount, hadmits, -⟩ := hkept .mySQL _ (groupOf 10) rfl rfl hten
  cases hcount
  exact absurd (hadmits.2 9 rfl) (by decide)

end HorizontalScalingRule
end AdmissionGate
