import AdmissionGate.Rule.Context

/-!
# Names in sections

Which databases are clusters, and which names a section may hold for them.  A
section has no errors of shape exactly if it holds such names only, and one of
them at least.
-/

namespace AdmissionGate

/-! ## Clusters -/

def Clustering.Applies (clustering : Clustering) (database : Database) : Prop :=
  match clustering with
  | .never => False
  | .topologyRoles => ∃ topology, database.spec.topology = some topology ∧
      topology.roles.entries ≠ []
  | .topologyModeIn modes => ∃ topology mode,
      database.spec.topology = some topology ∧ topology.mode = some mode ∧
        mode ∈ modes
  | .modeIn modes => ∃ mode, database.spec.mode = some mode ∧ mode ∈ modes
  | .replicasAbove count => count < database.spec.replicas.getD 1

theorem Clustering.holds_iff (clustering : Clustering) (database : Database) :
    clustering.holds database = true ↔ clustering.Applies database := by
  cases clustering with
  | never => simp [holds, Applies]
  | topologyRoles =>
      simp [holds, Applies, Database.hasTopologyRoles, Dict.isEmpty,
        Option.any_eq_true]
  | topologyModeIn modes =>
      simp only [holds, Applies, Database.topologyMode?, Option.any_eq_true,
        Option.bind_eq_some_iff, List.contains_iff_mem]
      constructor
      · rintro ⟨mode, ⟨topology, htopology, hmode⟩, hmember⟩
        exact ⟨topology, mode, htopology, hmode, hmember⟩
      · rintro ⟨topology, mode, htopology, hmode, hmember⟩
        exact ⟨mode, ⟨topology, htopology, hmode⟩, hmember⟩
  | modeIn modes => simp [holds, Applies, Option.any_eq_true]
  | replicasAbove count => exact decide_eq_true_iff

def RuleContext.Clustered (context : RuleContext) : Prop :=
  context.profile.clustering.Applies context.database

theorem RuleContext.isClustered_iff (context : RuleContext) :
    context.isClustered = true ↔ context.Clustered :=
  Clustering.holds_iff _ _

/-! ## Names -/

namespace Shape

/-- A name of several lists is taken for one of the first of them. -/
def Allows (shape : Shape) (clustered : Prop) (name : String) : Prop :=
  name ∈ shape.shared ∨ name ∈ shape.standalone ∧ ¬ clustered ∨
    name ∉ shape.standalone ∧ name ∈ shape.clustered ∧ clustered

variable {shape : Shape} {path : String} {clustered : Bool} {name : String}
  {names : List String}

theorem nameErrors_eq_nil_iff :
    shape.nameErrors path clustered name = [] ↔
      shape.Allows (clustered = true) name := by
  unfold nameErrors classify? Allows
  by_cases hshared : name ∈ shape.shared
  · simp [hshared]
  by_cases hstandalone : name ∈ shape.standalone
  · cases clustered <;> simp [hshared, hstandalone]
  by_cases hclustered : name ∈ shape.clustered <;>
    cases clustered <;> simp [hshared, hstandalone, hclustered]

theorem mem_of_first?_eq_some {wanted : ShapeClass}
    (found : shape.first? wanted names = some name) :
    name ∈ names ∧ shape.classify? name = some wanted :=
  ⟨List.mem_of_find?_eq_some found,
    beq_iff_eq.1 (List.find?_some (p := fun name =>
      shape.classify? name == some wanted) found)⟩

theorem mixtureErrors_eq_nil
    (allowed : ∀ name ∈ names, shape.Allows (clustered = true) name) :
    shape.mixtureErrors path names = [] := by
  unfold mixtureErrors
  split
  · rename_i standalone cluster hstandalone hcluster
    obtain ⟨hmember, hclass⟩ := mem_of_first?_eq_some hstandalone
    obtain ⟨hmember', hclass'⟩ := mem_of_first?_eq_some hcluster
    have hallowed : shape.nameErrors path clustered standalone = [] :=
      nameErrors_eq_nil_iff.2 (allowed standalone hmember)
    have hallowed' : shape.nameErrors path clustered cluster = [] :=
      nameErrors_eq_nil_iff.2 (allowed cluster hmember')
    cases clustered <;> simp [nameErrors, hclass, hclass'] at hallowed hallowed'
  · rfl

theorem errors_eq_nil_iff :
    shape.errors path clustered names = [] ↔
      names ≠ [] ∧ ∀ name ∈ names, shape.Allows (clustered = true) name := by
  have hempty : shape.emptyErrors path names = [] ↔ names ≠ [] := by
    simp [emptyErrors]
  rw [errors, List.append_eq_nil_iff, List.append_eq_nil_iff, hempty,
    List.flatMap_eq_nil_iff]
  simp only [nameErrors_eq_nil_iff]
  constructor
  · rintro ⟨⟨hallowed, hnonempty⟩, -⟩
    exact ⟨hnonempty, hallowed⟩
  · rintro ⟨hnonempty, hallowed⟩
    exact ⟨⟨hallowed, hnonempty⟩, mixtureErrors_eq_nil hallowed⟩

end Shape
end AdmissionGate
