import AdmissionGate.Proofs.Json.Entries
import AdmissionGate.Rule
import Mathlib.Algebra.BigOperators.Group.List.Basic
import Mathlib.Algebra.Order.Group.Multiset

/-!
# Independent entries

The sections of scaling and expansion hold any number of entries.  Apart from the
errors about a section as a whole, what is found wrong with a section is what is
found wrong with its entries one by one: no entry hides the errors of another.
-/

namespace AdmissionGate

/-! ## Entries -/

structure Dict.Extends {Value : Type} (larger smaller : Dict Value) (name : String)
    (value : Value) : Prop where
  added : larger.find? name = some value
  fresh : smaller.find? name = none
  kept {other : String} (h : other ≠ name) :
    larger.find? other = smaller.find? other

theorem Dict.extends_insert {Value : Type} {dict : Dict Value} {name : String}
    (fresh : dict.find? name = none) (value : Value) :
    (dict.insert name value).Extends dict name value where
  added := by rw [find?_insert, if_pos rfl]
  fresh := fresh
  kept h := by rw [find?_insert, if_neg h.symm]

theorem insertEntry_perm {Value : Type} {name : String}
    {entries : List (String × Value)} (fresh : lookUp? name entries = none)
    (value : Value) :
    (insertEntry name value entries).Perm ((name, value) :: entries) := by
  induction entries with
  | nil => exact .refl _
  | cons head rest ih =>
      obtain ⟨key, held⟩ := head
      have hother : key ≠ name := by
        rintro rfl
        simp [lookUp?] at fresh
      rw [lookUp?, if_neg hother] at fresh
      rw [insertEntry, if_neg hother.symm]
      split
      · exact .refl _
      · exact ((ih fresh).cons (key, held)).trans (.swap _ _ _)

theorem Dict.Extends.perm {Value : Type} {larger smaller : Dict Value}
    {name : String} {value : Value} (h : larger.Extends smaller name value) :
    larger.entries.Perm ((name, value) :: smaller.entries) := by
  have hinserted : larger.entries = (smaller.insert name value).entries := by
    refine larger.increase.ext (smaller.insert name value).increase fun other => ?_
    change larger.find? other = (smaller.insert name value).find? other
    rw [Dict.find?_insert]
    split
    · rename_i hname
      rw [← hname, h.added]
    · rename_i hname
      exact h.kept (Ne.symm hname)
  rw [hinserted]
  exact insertEntry_perm h.fresh value

/-! ## Errors of entries -/

namespace FieldError

/-- The errors about anything but the section as a whole, in whatever order. -/
def apartFrom (path : String) (errors : List FieldError) : Multiset FieldError :=
  (errors.filter (·.field ≠ path) : List FieldError)

variable {path : String}

@[simp] theorem apartFrom_append (front back : List FieldError) :
    apartFrom path (front ++ back) = apartFrom path front + apartFrom path back := by
  simp only [apartFrom, List.filter_append, Multiset.coe_add]

theorem apartFrom_flatMap {Value : Type} (find : Value → List FieldError)
    (values : List Value) :
    apartFrom path (values.flatMap find) =
      (values.map fun value => apartFrom path (find value)).sum := by
  induction values with
  | nil => rfl
  | cons value rest ih => simp [ih]

theorem apartFrom_eq_zero {errors : List FieldError}
    (h : ∀ error ∈ errors, error.field = path) : apartFrom path errors = 0 := by
  rw [apartFrom, List.filter_eq_nil_iff.2 fun error herror => by simp [h error herror]]
  rfl

/-- A report finds with every entry what it finds with the entry alone. -/
def Separates {Value : Type} (path : String)
    (report : Dict Value → List FieldError) : Prop :=
  ∀ dict, apartFrom path (report dict) =
    (dict.entries.map fun entry =>
      apartFrom path (report (.singleton entry.1 entry.2))).sum

structure Independent {Value : Type} (path : String)
    (report : Dict Value → List FieldError) : Prop where
  separates : Separates path report
  added {larger smaller : Dict Value} {name : String} {value : Value}
    (extended : larger.Extends smaller name value) :
    apartFrom path (report larger) =
      apartFrom path (report (.singleton name value)) +
        apartFrom path (report smaller)

section

variable {Value : Type} {report other : Dict Value → List FieldError}

theorem Separates.append (h : Separates path report) (h' : Separates path other) :
    Separates path fun dict => report dict ++ other dict := by
  intro dict
  simp only [apartFrom_append, h dict, h' dict, List.sum_map_add]

theorem Separates.flatMap (find : String × Value → List FieldError) :
    Separates path fun dict => dict.entries.flatMap find := by
  intro dict
  simp only [Dict.singleton, List.flatMap_singleton, apartFrom_flatMap]

theorem Separates.of_whole
    (h : ∀ dict, ∀ error ∈ report dict, error.field = path) :
    Separates path report := by
  intro dict
  simp only [apartFrom_eq_zero (h _), List.map_const', List.sum_replicate,
    nsmul_zero]

theorem Separates.independent (h : Separates path report) :
    Independent path report := by
  refine ⟨h, ?_⟩
  intro larger smaller name value extended
  rw [h larger, h smaller, (extended.perm.map _).sum_eq, List.map_cons,
    List.sum_cons]

end

end FieldError

open FieldError

/-! ## Names -/

namespace Shape

variable {shape : Shape} {path : String}

/-- Which names are mixed, and whether there are any, is said of the section. -/
theorem separates_errors {Value : Type} (clustered : Bool) :
    Separates path fun dict : Dict Value =>
      shape.errors path clustered dict.keys := by
  have hnames : Separates path fun dict : Dict Value =>
      dict.keys.flatMap (shape.nameErrors path clustered) := by
    simp only [Dict.keys, List.flatMap_map]
    exact .flatMap _
  have hempty : Separates path fun dict : Dict Value =>
      shape.emptyErrors path dict.keys := by
    refine .of_whole fun dict => ?_
    unfold emptyErrors
    split <;> simp [required]
  have hmixture : Separates path fun dict : Dict Value =>
      shape.mixtureErrors path dict.keys := by
    refine .of_whole fun dict => ?_
    unfold mixtureErrors
    split <;> simp [forbidden]
  exact (hnames.append hempty).append hmixture

end Shape

/-! ## Rules -/

def RuleContext.asking (context : RuleContext) (spec : OpsRequestSpec) :
    RuleContext :=
  { context with request := { context.request with spec := spec } }

variable (context : RuleContext)

theorem HorizontalScalingRule.separates_sectionErrors :
    Separates path fun counts => sectionErrors context ⟨counts⟩ := by
  have htopology : Separates path fun _ : Dict Int => topologyErrors context := by
    refine .of_whole fun _ => ?_
    unfold topologyErrors
    dsimp only
    split
    · split <;> simp [forbidden]
    · split <;> simp [forbidden]
  exact ((Shape.separates_errors _).append (.flatMap _)).append htopology

theorem VerticalScalingRule.separates_sectionErrors :
    Separates path fun nodes => sectionErrors context ⟨nodes⟩ :=
  (Shape.separates_errors _).append (.flatMap _)

theorem VolumeExpansionRule.separates_sectionErrors (mode : Option ExpansionMode) :
    Separates path fun sizes => sectionErrors context ⟨mode, sizes⟩ := by
  unfold sectionErrors
  split
  · exact .of_whole fun _ => List.forall_mem_singleton.2 rfl
  · refine (Shape.separates_errors _).append ?_
    split
    · exact .of_whole fun _ => List.forall_mem_singleton.2 rfl
    · exact .flatMap _

/-- No entry of a scaling or an expansion hides what is wrong with another one:
only the errors about the section itself depend on how entries are combined. -/
theorem entries_independent :
    Independent Operation.horizontalScaling.path (fun counts =>
      Operation.horizontalScaling.ruleErrors (context.asking
        { context.spec with horizontalScaling := some ⟨counts⟩ })) ∧
    Independent Operation.verticalScaling.path (fun nodes =>
      Operation.verticalScaling.ruleErrors (context.asking
        { context.spec with verticalScaling := some ⟨nodes⟩ })) ∧
    ∀ mode, Independent Operation.volumeExpansion.path (fun sizes =>
      Operation.volumeExpansion.ruleErrors (context.asking
        { context.spec with volumeExpansion := some ⟨mode, sizes⟩ })) := by
  refine ⟨?_, ?_, fun mode => ?_⟩
  -- A rule looks at the rest of the context only, which stays the same.
  · exact (HorizontalScalingRule.separates_sectionErrors context).independent
  · exact (VerticalScalingRule.separates_sectionErrors context).independent
  · exact (VolumeExpansionRule.separates_sectionErrors context mode).independent

/-! ### A role beside a node -/

def standaloneSearch : RuleContext where
  request := { spec := {} }
  database := {}
  profile := Engine.elasticsearch.profile

def searchErrors (counts : Dict Int) : Multiset FieldError :=
  apartFrom Operation.horizontalScaling.path
    (Operation.horizontalScaling.ruleErrors (standaloneSearch.asking
      { standaloneSearch.spec with horizontalScaling := some ⟨counts⟩ }))

def oneNode : Dict Int := .singleton "node" 1

/-- The node has no errors, and the role that is added to it has two. -/
theorem role_added_to_node :
    (oneNode.insert "data" 0).Extends oneNode "data" 0 ∧
      searchErrors (oneNode.insert "data" 0) = searchErrors (.singleton "data" 0) ∧
      (searchErrors (.singleton "data" 0)).map FieldError.field =
        {"spec.horizontalScaling.data", "spec.horizontalScaling.data"} := by
  have hextended : (oneNode.insert "data" 0).Extends oneNode "data" 0 :=
    Dict.extends_insert rfl 0
  have hnode : searchErrors oneNode = 0 := by decide +kernel
  have hadded : searchErrors (oneNode.insert "data" 0) =
      searchErrors (.singleton "data" 0) + searchErrors oneNode :=
    (entries_independent standaloneSearch).1.added hextended
  rw [hnode, add_zero] at hadded
  exact ⟨hextended, hadded, by decide +kernel⟩

end AdmissionGate
