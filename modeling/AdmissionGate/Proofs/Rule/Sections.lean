import AdmissionGate.Proofs.Rule.Ordinary
import AdmissionGate.Proofs.Text.Blank
import AdmissionGate.Rule
import Mathlib.Data.List.Nodup

/-!
# Errors within a section

A rule looks at more than the section of its operation, but what it reports is in
that section, and so in no other one.  Only an update of the version may report
besides that the catalog does not have the version that the database runs.
-/

namespace AdmissionGate

/-! ## Fields -/

def Within (path field : String) : Prop :=
  field = path ∨ ∃ rest, field = path ++ "." ++ rest

@[simp] theorem within_self (path : String) : Within path path := .inl rfl

@[simp] theorem within_member (path name : String) :
    Within path (path ++ "." ++ name) :=
  .inr ⟨name, rfl⟩

theorem within_point (path rest : String) : Within path (path ++ ("." ++ rest)) :=
  .inr ⟨rest, String.append_assoc.symm⟩

theorem Within.trans {outer inner field : String} (h : Within inner field)
    (h' : Within outer inner) : Within outer field := by
  rcases h with rfl | ⟨rest, rfl⟩
  · exact h'
  · rcases h' with rfl | ⟨middle, rfl⟩
    · exact within_member _ _
    · exact .inr ⟨middle ++ "." ++ rest, by simp only [String.append_assoc]⟩

/-! ### Sections apart -/

/-- What a field has after `spec.`, up to the next point. -/
def sectionOf (field : String) : List Char :=
  (field.toList.drop "spec.".toList.length).takeWhile (· ≠ '.')

theorem sectionOf_of_within {operation : Operation} {field : String}
    (h : Within operation.path field) :
    sectionOf field = operation.sectionName.toList := by
  have hname : operation.sectionName.toList.takeWhile (· ≠ '.') =
      operation.sectionName.toList := by
    cases operation <;> decide
  -- No section has a point in its name, so that the next point ends it.
  rcases h with rfl | ⟨rest, rfl⟩
  · rw [sectionOf, Operation.path, String.toList_append, List.drop_left, hname]
  · rw [sectionOf, Operation.path, String.toList_append, String.toList_append,
      String.toList_append, List.append_assoc, List.append_assoc, List.drop_left,
      Text.takeWhile_append_of_stop (by simp), hname]

theorem Operation.path_injective : Function.Injective path := by
  have hpaths : (all.map path).Nodup := by decide
  exact fun _ _ => List.inj_on_of_nodup_map hpaths (mem_all _) (mem_all _)

theorem Operation.eq_of_within {operation other : Operation} {field : String}
    (h : Within operation.path field) (h' : Within other.path field) :
    other = operation := by
  have hname : other.sectionName = operation.sectionName :=
    String.toList_injective
      ((sectionOf_of_within h').symm.trans (sectionOf_of_within h))
  exact path_injective (congrArg ("spec." ++ ·) hname)

theorem Operation.not_within_database (operation : Operation) :
    ¬ Within operation.path "spec.databaseRef" := by
  intro h
  have hsection := sectionOf_of_within h
  revert hsection
  cases operation <;> decide

/-! ## Errors -/

namespace FieldError

def Placed (path : String) (error : FieldError) : Prop :=
  error.Ordinary ∧ Within path error.field

def AllPlaced (path : String) (errors : List FieldError) : Prop :=
  ∀ error ∈ errors, error.Placed path

variable {path field detail : String} {value : Json}

@[simp] theorem allPlaced_nil : AllPlaced path [] := by
  simp [AllPlaced]

@[simp] theorem allPlaced_append {front back : List FieldError} :
    AllPlaced path (front ++ back) ↔ AllPlaced path front ∧ AllPlaced path back :=
  List.forall_mem_append

@[simp] theorem allPlaced_required :
    AllPlaced path [required field detail] ↔ Within path field := by
  simp [AllPlaced, Placed, Ordinary, required]

@[simp] theorem allPlaced_invalid :
    AllPlaced path [invalid field value detail] ↔ Within path field := by
  simp [AllPlaced, Placed, Ordinary, invalid]

@[simp] theorem allPlaced_forbidden :
    AllPlaced path [forbidden field detail] ↔ Within path field := by
  simp [AllPlaced, Placed, Ordinary, forbidden]

@[simp] theorem allPlaced_notFound :
    AllPlaced path [notFound field value detail] ↔ Within path field := by
  simp [AllPlaced, Placed, Ordinary, notFound]

@[simp] theorem allPlaced_notSupported {valid : List String} :
    AllPlaced path [notSupported field value valid] ↔ Within path field := by
  simp [AllPlaced, Placed, Ordinary, notSupported]

@[simp] theorem allPlaced_ite {condition : Prop} [Decidable condition]
    {yes no : List FieldError} :
    AllPlaced path (if condition then yes else no) ↔
      (condition → AllPlaced path yes) ∧ (¬ condition → AllPlaced path no) :=
  forall_mem_ite

theorem allPlaced_flatMap {Value : Type} {find : Value → List FieldError}
    (h : ∀ value, AllPlaced path (find value)) (values : List Value) :
    AllPlaced path (values.flatMap find) :=
  List.forall_mem_flatMap.2 fun value _ => h value

theorem allPlaced_getD_map {Value : Type} {find : Value → List FieldError}
    (h : ∀ value, AllPlaced path (find value)) (value? : Option Value) :
    AllPlaced path ((value?.map find).getD []) :=
  forall_mem_getD_map h value?

theorem AllPlaced.trans {inner : String} {errors : List FieldError}
    (h : AllPlaced inner errors) (h' : Within path inner) :
    AllPlaced path errors :=
  fun error herror => ⟨(h error herror).1, (h error herror).2.trans h'⟩

end FieldError

open FieldError

theorem Shape.allPlaced_errors (shape : Shape) (path : String)
    (clustered : Bool) (names : List String) :
    AllPlaced path (shape.errors path clustered names) := by
  have hname (name : String) :
      AllPlaced path (shape.nameErrors path clustered name) := by
    unfold nameErrors
    split <;> simp
  have hempty : AllPlaced path (shape.emptyErrors path names) := by
    simp [emptyErrors]
  have hmixture : AllPlaced path (shape.mixtureErrors path names) := by
    unfold mixtureErrors
    split <;> simp
  simp only [errors, allPlaced_append]
  exact ⟨⟨allPlaced_flatMap hname names, hempty⟩, hmixture⟩

/-! ## Rules -/

@[simp] theorem allPlaced_missingSection (operation : Operation) :
    AllPlaced operation.path [missingSection operation] := by
  simp [missingSection]

variable (context : RuleContext)

theorem HorizontalScalingRule.allPlaced_countErrors (rules : HorizontalRules)
    (name : String) (count : Int) :
    AllPlaced path (countErrors rules name count) := by
  unfold countErrors
  split
  · simp
  · split <;> simp

theorem HorizontalScalingRule.allPlaced_errors : AllPlaced path (errors context) := by
  unfold errors sectionErrors
  split
  · exact allPlaced_missingSection _
  · simp only [allPlaced_append]
    refine ⟨⟨Shape.allPlaced_errors _ _ _ _, ?_⟩, by simp [topologyErrors]⟩
    exact allPlaced_flatMap
      (fun entry : String × Int => allPlaced_countErrors _ entry.1 entry.2) _

theorem VerticalScalingRule.allPlaced_quantityErrors (path : String)
    (quantities : Option (Dict Quantity)) :
    AllPlaced path (quantityErrors path quantities) :=
  allPlaced_flatMap (by simp) _

theorem VerticalScalingRule.allPlaced_excessErrors (path : String)
    (requests limits : Dict Quantity) (name : String) :
    AllPlaced path (excessErrors path requests limits name) := by
  have hfield : Within path (path ++ ".requests." ++ name) := by
    rw [String.append_assoc]
    exact within_point path ("requests." ++ name)
  unfold excessErrors
  split <;> simp [hfield]

theorem VerticalScalingRule.allPlaced_resourceErrors (path : String)
    (resources : ComputeResources) :
    AllPlaced path (resourceErrors path resources) := by
  simp only [resourceErrors, allPlaced_append]
  refine ⟨⟨?_, ?_⟩, ?_⟩
  · exact (allPlaced_quantityErrors _ _).trans (within_point path "requests")
  · exact (allPlaced_quantityErrors _ _).trans (within_point path "limits")
  · split
    · exact allPlaced_flatMap (allPlaced_excessErrors _ _ _) _
    · exact allPlaced_nil

/-- Whatever the name of the node is, also if there are points in it. -/
theorem VerticalScalingRule.allPlaced_nodeErrors (name : String)
    (pod : PodResources) : AllPlaced path (nodeErrors name pod) := by
  have hresources : Within path (path ++ "." ++ name ++ ".resources") :=
    (within_point _ "resources").trans (within_member path name)
  unfold nodeErrors
  split
  · rw [allPlaced_ite]
    refine ⟨fun _ => ?_, fun _ => allPlaced_required.2 hresources⟩
    exact (allPlaced_resourceErrors _ _).trans hresources
  · exact allPlaced_required.2 hresources

theorem VerticalScalingRule.allPlaced_errors : AllPlaced path (errors context) := by
  unfold errors sectionErrors
  split
  · exact allPlaced_missingSection _
  · rw [allPlaced_append]
    refine ⟨Shape.allPlaced_errors _ _ _ _, ?_⟩
    exact allPlaced_flatMap
      (fun entry : String × PodResources =>
        allPlaced_nodeErrors entry.1 entry.2) _

theorem VolumeExpansionRule.allPlaced_sizeErrors (database : Database)
    (name : String) (desired : Quantity) :
    AllPlaced path (sizeErrors database name desired) := by
  unfold sizeErrors
  dsimp only
  split
  · split
    · simp
    · split <;> simp
  · simp

theorem VolumeExpansionRule.allPlaced_errors : AllPlaced path (errors context) := by
  unfold errors sectionErrors
  split
  · exact allPlaced_missingSection _
  · split
    · simp
    · rw [allPlaced_append, allPlaced_ite]
      refine ⟨Shape.allPlaced_errors _ _ _ _, by simp, fun _ => ?_⟩
      exact allPlaced_flatMap
        (fun entry : String × Quantity =>
          allPlaced_sizeErrors _ entry.1 entry.2) _

theorem ReconfigureRule.allPlaced_errors : AllPlaced path (errors context) := by
  have hremoval : Within path (path ++ ".removeCustomConfig") :=
    within_point path "removeCustomConfig"
  have hsecret : Within path (path ++ ".configSecret.name") :=
    within_point path "configSecret.name"
  unfold errors sectionErrors
  split
  · exact allPlaced_missingSection _
  · split
    · simp
    · rw [allPlaced_append]
      refine ⟨by simp [removalErrors, hremoval], ?_⟩
      refine allPlaced_getD_map (fun secret => ?_) _
      simp [secretErrors, hsecret]
    · simp

theorem ReconfigureTlsRule.allPlaced_errors : AllPlaced path (errors context) := by
  have hremoval : Within path (path ++ ".remove") := within_point path "remove"
  have hrotation : Within path (path ++ ".rotateCertificates") :=
    within_point path "rotateCertificates"
  have hissuer : Within path (path ++ ".issuerRef") :=
    within_point path "issuerRef"
  have hssl : Within path (path ++ ".requireSSL") :=
    within_point path "requireSSL"
  unfold errors sectionErrors
  split
  · exact allPlaced_missingSection _
  · simp only [allPlaced_append, allPlaced_ite]
    refine ⟨⟨?_, by simp, ?_⟩, fun _ => ?_, by simp⟩
    · unfold mechanismErrors
      split <;> simp
    · simp [absentTlsErrors, hremoval, hrotation, hissuer]
    · refine allPlaced_getD_map (fun minimum => ?_) _
      simp [requireSslErrors, hssl]

theorem RotateAuthRule.allPlaced_errors : AllPlaced path (errors context) := by
  have hsecret : Within path (path ++ ".secretRef.name") :=
    within_point path "secretRef.name"
  unfold errors sectionErrors
  split
  · exact allPlaced_missingSection _
  · rw [allPlaced_append]
    constructor
    · refine allPlaced_getD_map (fun secret => ?_) _
      simp [secretErrors, hsecret]
    · refine allPlaced_getD_map (fun greatest => ?_) _
      simp [tlsErrors]

/-! ### The version that the database runs -/

namespace RuleContext

def LeavesUnlisted : Prop :=
  ∃ spec target, context.spec.updateVersion = some spec ∧
    spec.targetVersion ≠ "" ∧ context.collaborators.target = some target ∧
    context.collaborators.current = none

def unlistedVersion : FieldError :=
  .notFound "spec.databaseRef" (.string context.databaseVersion)
    (context.engineKind ++ "Version \"" ++ context.databaseVersion ++
      "\" does not exist")

end RuleContext

theorem UpdateVersionRule.allPlaced_transitionErrors [Version.RangeReader]
    (clustered : Bool) (requested : String) (current target : CatalogVersion) :
    AllPlaced path (transitionErrors clustered requested current target) := by
  unfold transitionErrors
  split
  · simp
  · rw [allPlaced_append]
    constructor
    · refine allPlaced_getD_map (fun allowlist => ?_) _
      simp [allowlistErrors]
    · refine allPlaced_getD_map (fun denylist => ?_) _
      unfold denylistErrors
      split <;> simp

theorem UpdateVersionRule.within_path : Within Operation.updateVersion.path path :=
  within_point _ "targetVersion"

theorem UpdateVersionRule.allPlaced_deprecationErrors (requested : String)
    (target : CatalogVersion) :
    AllPlaced path (deprecationErrors context requested target) := by
  simp [deprecationErrors]

variable {context}

theorem UpdateVersionRule.allPlaced_errors [Version.RangeReader]
    (h : ¬ context.LeavesUnlisted) :
    AllPlaced Operation.updateVersion.path (errors context) := by
  unfold errors
  split
  · exact allPlaced_missingSection _
  · rename_i spec hsection
    refine AllPlaced.trans ?_ within_path
    unfold sectionErrors
    dsimp only
    split
    · simp
    · rename_i hnamed
      split
      · simp [missingVersion]
      · rename_i target htarget
        rw [allPlaced_append]
        refine ⟨allPlaced_deprecationErrors _ _ _, ?_⟩
        unfold currentErrors
        split
        · exact allPlaced_transitionErrors _ _ _ _
        · rename_i hcurrent
          exact absurd ⟨spec, target, hsection, by simpa using hnamed, htarget,
            hcurrent⟩ h

theorem UpdateVersionRule.errors_of_leavesUnlisted [Version.RangeReader]
    (h : context.LeavesUnlisted) :
    ∃ own, errors context = own ++ [context.unlistedVersion] ∧
      AllPlaced Operation.updateVersion.path own := by
  obtain ⟨spec, target, hsection, hnamed, htarget, hcurrent⟩ := h
  have hunlisted : currentErrors context spec.targetVersion target =
      [context.unlistedVersion] := by
    rw [currentErrors, hcurrent]
    rfl
  refine ⟨deprecationErrors context spec.targetVersion target, ?_, ?_⟩
  · simp [errors, hsection, sectionErrors, hnamed, htarget, hunlisted]
  · exact (allPlaced_deprecationErrors _ _ _).trans within_path

/-! ## All rules -/

namespace Operation

/-- What an operation's rule may report: an error in the section of the operation, or
else that the version of the database is not listed.  Neither is an error in the
section of another operation. -/
structure MayReport (operation : Operation) (context : RuleContext)
    (error : FieldError) : Prop where
  place : Within operation.path error.field ∨ operation = .updateVersion ∧
    context.LeavesUnlisted ∧ error = context.unlistedVersion
  alone {other : Operation} (h : Within other.path error.field) : other = operation
  ne_immutability : error.category ≠ .immutability
  ne_unsupportedType : error.category ≠ .unsupportedType

section

variable [Version.RangeReader]

theorem placed_of_mem_ruleErrors {operation : Operation} {error : FieldError}
    (h : error ∈ operation.ruleErrors context) :
    error.Placed operation.path ∨ operation = .updateVersion ∧
      context.LeavesUnlisted ∧ error = context.unlistedVersion := by
  cases operation with
  | updateVersion =>
      by_cases hunlisted : context.LeavesUnlisted
      · obtain ⟨own, herrors, hown⟩ :=
          UpdateVersionRule.errors_of_leavesUnlisted hunlisted
        rw [ruleErrors, herrors, List.mem_append, List.mem_singleton] at h
        rcases h with hmem | rfl
        · exact .inl (hown error hmem)
        · exact .inr ⟨rfl, hunlisted, rfl⟩
      · exact .inl (UpdateVersionRule.allPlaced_errors hunlisted error h)
  | horizontalScaling =>
      exact .inl (HorizontalScalingRule.allPlaced_errors context error h)
  | verticalScaling =>
      exact .inl (VerticalScalingRule.allPlaced_errors context error h)
  | volumeExpansion =>
      exact .inl (VolumeExpansionRule.allPlaced_errors context error h)
  | restart => cases h
  | reconfigure => exact .inl (ReconfigureRule.allPlaced_errors context error h)
  | reconfigureTls =>
      exact .inl (ReconfigureTlsRule.allPlaced_errors context error h)
  | rotateAuth => exact .inl (RotateAuthRule.allPlaced_errors context error h)

theorem allOrdinary_ruleErrors (operation : Operation) (context : RuleContext) :
    AllOrdinary (operation.ruleErrors context) := by
  intro error herror
  rcases placed_of_mem_ruleErrors herror with hplaced | ⟨-, -, rfl⟩
  · exact hplaced.1
  · rfl

theorem mayReport_of_mem_ruleErrors {operation : Operation} {error : FieldError}
    (h : error ∈ operation.ruleErrors context) :
    operation.MayReport context error := by
  have hordinary : error.Ordinary :=
    operation.allOrdinary_ruleErrors context error h
  refine ⟨?_, fun hother => ?_, hordinary.ne_immutability, ?_⟩
  · exact (placed_of_mem_ruleErrors h).imp_left And.right
  · rcases placed_of_mem_ruleErrors h with hplaced | ⟨-, -, rfl⟩
    · exact eq_of_within hplaced.2 hother
    · exact absurd hother (not_within_database _)
  · rcases hordinary.category_eq with hcategory | hcategory <;> simp [hcategory]

/-- A rule reports about the section of its own operation only, and neither frozen
fields nor operations that the engine does not have.  The one exception is made by an
update from a version that the catalog does not have, once and with certainty. -/
theorem rules_keep_to_sections (operation : Operation) (context : RuleContext) :
    (∀ error ∈ operation.ruleErrors context,
      operation.MayReport context error) ∧
    (context.LeavesUnlisted →
      (Operation.updateVersion.ruleErrors context).count
        context.unlistedVersion = 1) := by
  refine ⟨fun error => mayReport_of_mem_ruleErrors, fun hunlisted => ?_⟩
  obtain ⟨own, herrors, hown⟩ :=
    UpdateVersionRule.errors_of_leavesUnlisted hunlisted
  have habsent : context.unlistedVersion ∉ own := fun hmem =>
    not_within_database .updateVersion (hown _ hmem).2
  rw [ruleErrors, herrors, List.count_append,
    List.count_eq_zero_of_not_mem habsent, List.count_singleton_self]

end

/-! ### From a version that is not listed -/

def unlistedUpdate : RuleContext where
  request := { spec := { type := "UpdateVersion", updateVersion := some ⟨"8.4.0"⟩ } }
  database := { spec := { version := "8.0.35" } }
  profile := Engine.mySQL.profile
  collaborators := { target := some { spec := { deprecated := true } } }

/-- That the target is deprecated is reported in the section, and that the present
version is not listed outside of it. -/
theorem unlistedUpdate_reported :
    (updateVersion.ruleErrors unlistedUpdate).map FieldError.field =
        ["spec.updateVersion.targetVersion", "spec.databaseRef"] ∧
      unlistedUpdate.unlistedVersion ∈ updateVersion.ruleErrors unlistedUpdate ∧
      updateVersion.MayReport unlistedUpdate unlistedUpdate.unlistedVersion := by
  have hunlisted : unlistedUpdate.LeavesUnlisted :=
    ⟨_, _, rfl, by decide, rfl, rfl⟩
  obtain ⟨hreported, honce⟩ :=
    rules_keep_to_sections .updateVersion unlistedUpdate
  have hmem : unlistedUpdate.unlistedVersion ∈
      updateVersion.ruleErrors unlistedUpdate :=
    List.count_pos_iff.1 (by rw [honce hunlisted]; exact Nat.one_pos)
  exact ⟨by decide +kernel, hmem, hreported _ hmem⟩

end Operation
end AdmissionGate
