import AdmissionGate.Proofs.Profile
import Mathlib.Data.List.Forall2

/-!
# Errors of names

What is said about the names in a section.  Each name that the database can not
have is told once, in the order of the names.  Then it is told if there are no
names, or if names for databases with a cluster come with names for databases
without one.
-/

namespace AdmissionGate.Shape

/-! ## Classes -/

/-- A name of several lists is of the class of the first of them. -/
def Has (shape : Shape) (name : String) : ShapeClass → Prop
  | .shared => name ∈ shape.shared
  | .standalone => name ∉ shape.shared ∧ name ∈ shape.standalone
  | .clustered => name ∉ shape.shared ∧ name ∉ shape.standalone ∧
      name ∈ shape.clustered

instance (shape : Shape) {clustered : Prop} [Decidable clustered] :
    DecidablePred (shape.Allows clustered) := fun _ =>
  inferInstanceAs (Decidable (_ ∨ _))

variable {shape : Shape} {path name : String} {clustered : Bool}
  {names : List String} {kind : ShapeClass} {error : FieldError}

theorem classify?_eq_some_iff :
    shape.classify? name = some kind ↔ shape.Has name kind := by
  unfold classify?
  by_cases hshared : name ∈ shape.shared
  · cases kind <;> simp [Has, hshared]
  by_cases hstandalone : name ∈ shape.standalone
  · cases kind <;> simp [Has, hshared, hstandalone]
  by_cases hclustered : name ∈ shape.clustered <;>
    cases kind <;> simp [Has, hshared, hstandalone, hclustered]

theorem classify?_eq_none_iff :
    shape.classify? name = none ↔ name ∉ shape.known := by
  unfold classify?
  by_cases hshared : name ∈ shape.shared
  · simp [known, hshared]
  by_cases hstandalone : name ∈ shape.standalone
  · simp [known, hshared, hstandalone]
  by_cases hclustered : name ∈ shape.clustered <;>
    simp [known, hshared, hstandalone, hclustered]

/-! ## Names one by one -/

/-- A name that a database can not have is unknown, or is for databases of the other
topology. -/
inductive Refuses (shape : Shape) (path : String) (clustered : Prop) (name : String) :
    FieldError → Prop where
  | unknown (absent : name ∉ shape.known) :
      Refuses shape path clustered name
        (.notSupported (path ++ "." ++ name) (.string name) shape.known)
  | needsSingle (isSingle : shape.Has name .standalone) (cluster : clustered) :
      Refuses shape path clustered name
        (.forbidden (path ++ "." ++ name) "can not be set on a clustered database")
  | needsCluster (isRole : shape.Has name .clustered) (single : ¬ clustered) :
      Refuses shape path clustered name
        (.forbidden (path ++ "." ++ name) "can only be set on a clustered database")

theorem Refuses.nameErrors_eq
    (refuses : shape.Refuses path (clustered = true) name error) :
    shape.nameErrors path clustered name = [error] := by
  cases refuses with
  | unknown absent => simp only [nameErrors, classify?_eq_none_iff.2 absent]
  | needsSingle isSingle cluster =>
      simp only [nameErrors, classify?_eq_some_iff.2 isSingle, if_pos cluster]
  | needsCluster isRole single =>
      simp only [nameErrors, classify?_eq_some_iff.2 isRole, if_neg single]

theorem exists_refuses (path : String)
    (h : ¬ shape.Allows (clustered = true) name) :
    ∃ error, shape.Refuses path (clustered = true) name error := by
  cases hclass : shape.classify? name with
  | none => exact ⟨_, .unknown (classify?_eq_none_iff.1 hclass)⟩
  | some kind =>
      rw [classify?_eq_some_iff] at hclass
      cases kind with
      | shared => exact absurd (.inl hclass) h
      | standalone =>
          have hcluster : clustered = true := by
            by_contra hsingle
            exact h (.inr (.inl ⟨hclass.2, hsingle⟩))
          exact ⟨_, .needsSingle hclass hcluster⟩
      | clustered =>
          have hsingle : ¬ clustered = true := fun hcluster =>
            h (.inr (.inr ⟨hclass.2.1, hclass.2.2, hcluster⟩))
          exact ⟨_, .needsCluster hclass hsingle⟩

theorem forall₂_refuses (names : List String) :
    List.Forall₂ (shape.Refuses path (clustered = true))
      (names.filter fun name => ¬ shape.Allows (clustered = true) name)
      (names.flatMap (shape.nameErrors path clustered)) := by
  induction names with
  | nil => exact .nil
  | cons name rest ih =>
      rw [List.flatMap_cons]
      -- A name adds one error or none, whatever the other names are.
      by_cases hallowed : shape.Allows (clustered = true) name
      · rw [List.filter_cons_of_neg (by simpa using hallowed),
          nameErrors_eq_nil_iff.2 hallowed]
        exact ih
      · obtain ⟨error, hrefuses⟩ := exists_refuses path hallowed
        rw [List.filter_cons_of_pos (by simpa using hallowed),
          hrefuses.nameErrors_eq]
        exact .cons hrefuses ih

/-! ## All names together -/

inductive TellsAbsence (shape : Shape) (path : String) :
    List String → List FieldError → Prop where
  | given {names : List String} (nonempty : names ≠ []) :
      TellsAbsence shape path names []
  | absent : TellsAbsence shape path []
      [.required path
        ("at least one of " ++ ", ".intercalate shape.known ++ " must be set")]

theorem tellsAbsence_emptyErrors :
    shape.TellsAbsence path names (shape.emptyErrors path names) := by
  cases names with
  | nil => exact .absent
  | cons name rest => exact .given (List.cons_ne_nil _ _)

def Mixes (shape : Shape) (names : List String) : Prop :=
  (∃ name ∈ names, shape.Has name .standalone) ∧
    ∃ name ∈ names, shape.Has name .clustered

def IsFirst (shape : Shape) (names : List String) (kind : ShapeClass)
    (name : String) : Prop :=
  shape.Has name kind ∧ ∃ front back, names = front ++ name :: back ∧
    ∀ other ∈ front, ¬ shape.Has other kind

/-- A mixture is told once, by the first name of either class. -/
inductive TellsMixture (shape : Shape) (path : String) (names : List String) :
    List FieldError → Prop where
  | unmixed (h : ¬ shape.Mixes names) : TellsMixture shape path names []
  | mixed {single role : String} (hsingle : shape.IsFirst names .standalone single)
      (hrole : shape.IsFirst names .clustered role) :
      TellsMixture shape path names
        [.forbidden path (single ++ " and " ++ role ++ " can not be set together")]

theorem first?_eq_some_iff :
    shape.first? kind names = some name ↔ shape.IsFirst names kind name := by
  simp only [first?, List.find?_eq_some_iff_append, beq_iff_eq,
    classify?_eq_some_iff, IsFirst, Bool.not_eq_true', beq_eq_false_iff_ne, ne_eq]

theorem exists_first?_iff :
    (∃ name, shape.first? kind names = some name) ↔
      ∃ name ∈ names, shape.Has name kind := by
  rw [← Option.isSome_iff_exists, first?, List.find?_isSome]
  simp only [beq_iff_eq, classify?_eq_some_iff]

theorem tellsMixture_mixtureErrors :
    shape.TellsMixture path names (shape.mixtureErrors path names) := by
  unfold mixtureErrors
  split
  · rename_i single role hsingle hrole
    exact .mixed (first?_eq_some_iff.1 hsingle) (first?_eq_some_iff.1 hrole)
  · rename_i hunmixed
    refine .unmixed ?_
    rintro ⟨hsingles, hroles⟩
    obtain ⟨single, hsingle⟩ := exists_first?_iff.2 hsingles
    obtain ⟨role, hrole⟩ := exists_first?_iff.2 hroles
    exact hunmixed single role hsingle hrole

theorem Mixes.exists_misplaced (mixes : shape.Mixes names) :
    ∃ name ∈ names, ∃ detail,
      shape.Refuses path (clustered = true) name
        (.forbidden (path ++ "." ++ name) detail) := by
  obtain ⟨⟨single, hsingle, hclass⟩, role, hrole, hclass'⟩ := mixes
  by_cases hcluster : clustered = true
  · exact ⟨single, hsingle, _, .needsSingle hclass hcluster⟩
  · exact ⟨role, hrole, _, .needsCluster hclass' hcluster⟩

/-- Names are checked exactly: nothing is said about names that the database can
have, and about other ones everything is said, name by name and then of all. -/
theorem names_checked_exactly (shape : Shape) (path : String) (clustered : Bool)
    (names : List String) :
    (shape.errors path clustered names = [] ↔
      names ≠ [] ∧ ∀ name ∈ names, shape.Allows (clustered = true) name) ∧
    ∃ refusals absence mixture,
      shape.errors path clustered names = refusals ++ absence ++ mixture ∧
      List.Forall₂ (shape.Refuses path (clustered = true))
        (names.filter fun name => ¬ shape.Allows (clustered = true) name)
        refusals ∧
      shape.TellsAbsence path names absence ∧
      shape.TellsMixture path names mixture ∧
      (shape.Mixes names → ∃ name ∈ names, ∃ detail,
        FieldError.forbidden (path ++ "." ++ name) detail ∈ refusals) := by
  refine ⟨errors_eq_nil_iff, _, _, _, rfl, forall₂_refuses names,
    tellsAbsence_emptyErrors, tellsMixture_mixtureErrors, fun mixes => ?_⟩
  obtain ⟨name, hname, detail, hrefuses⟩ := mixes.exists_misplaced
  refine ⟨name, hname, detail, List.mem_flatMap.2 ⟨name, hname, ?_⟩⟩
  rw [hrefuses.nameErrors_eq]
  exact List.mem_singleton_self _

/-! ### Two topologies at once -/

def searchNodes : Shape := Engine.elasticsearch.profile.vertical

theorem searchNodes_mixed :
    searchNodes.Mixes ["data", "node", "warm"] ∧
      (searchNodes.errors "spec.verticalScaling" true
        ["data", "node", "warm"]).map FieldError.field =
        ["spec.verticalScaling.node", "spec.verticalScaling.warm",
          "spec.verticalScaling"] ∧
      ∃ name ∈ ["data", "node", "warm"], ∃ detail,
        FieldError.forbidden ("spec.verticalScaling" ++ "." ++ name) detail ∈
          searchNodes.errors "spec.verticalScaling" true
            ["data", "node", "warm"] := by
  have hmixes : searchNodes.Mixes ["data", "node", "warm"] :=
    ⟨⟨"node", by decide, by decide, by decide⟩,
      "data", by decide, by decide, by decide, by decide⟩
  obtain ⟨-, refusals, absence, mixture, herrors, -, -, -, hmisplaced⟩ :=
    names_checked_exactly searchNodes "spec.verticalScaling" true
      ["data", "node", "warm"]
  refine ⟨hmixes, by decide, ?_⟩
  obtain ⟨name, hname, detail, hrefused⟩ := hmisplaced hmixes
  refine ⟨name, hname, detail, ?_⟩
  rw [herrors]
  exact List.mem_append_left _ (List.mem_append_left _ hrefused)

end AdmissionGate.Shape
