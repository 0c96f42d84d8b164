import AdmissionGate.Proofs.Json.Entries
import AdmissionGate.Proofs.Profile
import AdmissionGate.Proofs.Quantity.Value
import AdmissionGate.Rule.VerticalScaling

/-!
# Satisfiable resources

Nodes are given new resources exactly if the engine and the topology have such
nodes and every node asks for something that it can get: amounts that can all be
counted, and of processors and memory no more than their limits.
-/

namespace AdmissionGate

/-! ## Amounts -/

def GivenIn (amounts : Option (Dict Quantity)) (name : String)
    (amount : Quantity) : Prop :=
  ∃ dict, amounts = some dict ∧ (name, amount) ∈ dict.entries

def Quantity.Counted (quantity : Quantity) : Prop :=
  ∃ nanos, quantity.nanos? = some nanos

theorem Quantity.isValid_iff {quantity : Quantity} :
    quantity.isValid = true ↔ quantity.Counted := by
  rw [isValid, Option.isSome_iff_exists, Counted]

theorem Quantity.compare?_ne_gt_iff {left right : Quantity} (hleft : left.Counted)
    (hright : right.Counted) :
    left.compare? right ≠ some .gt ↔
      ∃ nanos nanos', left.nanos? = some nanos ∧ right.nanos? = some nanos' ∧
        nanos ≤ nanos' := by
  obtain ⟨nanos, hnanos⟩ := hleft
  obtain ⟨nanos', hnanos'⟩ := hright
  simp [compare?_eq_some_iff, hnanos, hnanos', Ordering.Compares]

/-! ## Resources -/

namespace ComputeResources

def Requests (resources : ComputeResources) (name : String) (amount : Quantity) :
    Prop :=
  GivenIn resources.requests name amount

def Limits (resources : ComputeResources) (name : String) (amount : Quantity) :
    Prop :=
  GivenIn resources.limits name amount

structure Satisfiable (resources : ComputeResources) : Prop where
  nonempty : (∃ name amount, resources.Requests name amount) ∨
    ∃ name amount, resources.Limits name amount
  requests {name : String} {amount : Quantity}
    (given : resources.Requests name amount) : amount.Counted
  limits {name : String} {amount : Quantity}
    (given : resources.Limits name amount) : amount.Counted
  within {name : String} (bounded : name = "cpu" ∨ name = "memory")
    {request limit : Quantity} (requested : resources.Requests name request)
    (limited : resources.Limits name limit) :
    ∃ nanos nanos', request.nanos? = some nanos ∧
      limit.nanos? = some nanos' ∧ nanos ≤ nanos'

theorem isSet_iff {resources : ComputeResources} :
    resources.isSet = true ↔
      (∃ name amount, resources.Requests name amount) ∨
        ∃ name amount, resources.Limits name amount := by
  have hgiven (amounts : Option (Dict Quantity)) :
      amounts.any (!·.isEmpty) = true ↔
        ∃ name amount, GivenIn amounts name amount := by
    cases amounts with
    | none => simp [GivenIn]
    | some dict =>
        simp [GivenIn, Dict.isEmpty, List.eq_nil_iff_forall_not_mem]
  rw [isSet, Bool.or_eq_true, hgiven, hgiven]
  rfl

end ComputeResources

namespace VerticalScalingRule

/-! ## The rule -/

theorem quantityErrors_eq_nil_iff {path : String}
    {amounts : Option (Dict Quantity)} :
    quantityErrors path amounts = [] ↔
      ∀ name amount, GivenIn amounts name amount → amount.Counted := by
  cases amounts with
  | none => simp [quantityErrors, GivenIn, Dict.empty]
  | some dict =>
      simp [quantityErrors, GivenIn, List.flatMap_eq_nil_iff,
        Quantity.isValid_iff]

theorem excessErrors_eq_nil_iff {path name : String}
    {requests limits : Dict Quantity} :
    excessErrors path requests limits name = [] ↔
      ∀ request limit, (name, request) ∈ requests.entries →
        (name, limit) ∈ limits.entries → request.compare? limit ≠ some .gt := by
  simp only [← requests.increase.lookUp?_eq_some_iff,
    ← limits.increase.lookUp?_eq_some_iff]
  unfold excessErrors Dict.find?
  split
  · rename_i request limit hrequest hlimit
    simp [hrequest, hlimit]
  · rename_i hmissing
    simpa using fun request limit hrequest hlimit =>
      (hmissing request limit hrequest hlimit).elim

theorem resourceErrors_eq_nil_iff {path : String} {resources : ComputeResources} :
    resourceErrors path resources = [] ↔
      (∀ name amount, resources.Requests name amount → amount.Counted) ∧
      (∀ name amount, resources.Limits name amount → amount.Counted) ∧
      ∀ name ∈ boundedResources, ∀ request limit,
        resources.Requests name request → resources.Limits name limit →
          request.compare? limit ≠ some .gt := by
  rw [resourceErrors, List.append_eq_nil_iff, List.append_eq_nil_iff,
    quantityErrors_eq_nil_iff, quantityErrors_eq_nil_iff, and_assoc]
  refine and_congr_right fun _ => and_congr_right fun _ => ?_
  unfold ComputeResources.Requests ComputeResources.Limits
  split
  · rename_i requests limits hrequests hlimits
    simp [hrequests, hlimits, List.flatMap_eq_nil_iff, excessErrors_eq_nil_iff,
      GivenIn]
  · rename_i hmissing
    refine iff_of_true rfl ?_
    rintro name - request limit ⟨requests, hrequests, -⟩ ⟨limits, hlimits, -⟩
    exact (hmissing requests limits hrequests hlimits).elim

/-- What the comparison passes over, for it can not be counted, is reported on
its own. -/
theorem satisfiable_iff {path : String} {resources : ComputeResources} :
    resources.Satisfiable ↔
      resources.isSet = true ∧ resourceErrors path resources = [] := by
  rw [ComputeResources.isSet_iff, resourceErrors_eq_nil_iff]
  constructor
  · intro satisfiable
    refine ⟨satisfiable.nonempty, fun _ _ => satisfiable.requests,
      fun _ _ => satisfiable.limits, ?_⟩
    intro name hbounded request limit hrequest hlimit
    rw [Quantity.compare?_ne_gt_iff (satisfiable.requests hrequest)
      (satisfiable.limits hlimit)]
    exact satisfiable.within (by simpa [boundedResources] using hbounded)
      hrequest hlimit
  · rintro ⟨hnonempty, hrequests, hlimits, hwithin⟩
    refine ⟨hnonempty, hrequests _ _, hlimits _ _, ?_⟩
    intro name hbounded request limit hrequest hlimit
    rw [← Quantity.compare?_ne_gt_iff (hrequests _ _ hrequest)
      (hlimits _ _ hlimit)]
    exact hwithin name (by simpa [boundedResources] using hbounded) request limit
      hrequest hlimit

theorem nodeErrors_eq_nil_iff {name : String} {pod : PodResources} :
    nodeErrors name pod = [] ↔
      ∃ resources, pod.resources = some resources ∧ resources.Satisfiable := by
  unfold nodeErrors
  split
  · rename_i resources hresources
    rw [hresources]
    simp only [Option.some.injEq, exists_eq_left']
    rw [satisfiable_iff]
    split
    · rename_i hset
      exact (and_iff_right hset).symm
    · rename_i hunset
      exact ⟨nofun, fun h => absurd h.1 hunset⟩
  · rename_i hmissing
    simp [hmissing]

structure Admits (context : RuleContext) (spec : VerticalScalingSpec) :
    Prop where
  nonempty : spec.nodes.entries ≠ []
  allowed : ∀ name ∈ spec.nodes.keys,
    context.profile.vertical.Allows context.Clustered name
  satisfiable : ∀ entry ∈ spec.nodes.entries, ∃ resources,
    entry.2.resources = some resources ∧ resources.Satisfiable

theorem sectionErrors_eq_nil_iff {context : RuleContext}
    {spec : VerticalScalingSpec} :
    sectionErrors context spec = [] ↔ Admits context spec := by
  simp only [sectionErrors, List.append_eq_nil_iff, Shape.errors_eq_nil_iff,
    ne_eq, Dict.keys_eq_nil_iff, List.flatMap_eq_nil_iff, nodeErrors_eq_nil_iff,
    context.isClustered_iff]
  constructor
  · rintro ⟨⟨hnonempty, hallowed⟩, hsatisfiable⟩
    exact ⟨hnonempty, hallowed, hsatisfiable⟩
  · exact fun admits =>
      ⟨⟨admits.nonempty, admits.allowed⟩, admits.satisfiable⟩

/-- The rule finds nothing wrong exactly in nodes that the engine and the
topology have, all with resources that they can get. -/
theorem resources_satisfiable (context : RuleContext) :
    errors context = [] ↔ ∃ spec,
      context.spec.verticalScaling = some spec ∧ Admits context spec := by
  cases hsection : context.spec.verticalScaling with
  | none => simp [errors, hsection]
  | some spec => simp [errors, hsection, sectionErrors_eq_nil_iff]

def memoryBetween (request limit : String) : RuleContext where
  request := {
    spec := {
      type := "VerticalScaling"
      verticalScaling := some ⟨.singleton "postgres" { resources := some {
        requests := some (.singleton "memory" ⟨request⟩)
        limits := some (.singleton "memory" ⟨limit⟩) } }⟩ } }
  database := {}
  profile := Engine.postgres.profile

example :
    errors (memoryBetween "1Gi" "1073741824") = [] ∧
      errors (memoryBetween "1Gi" "1G") ≠ [] ∧
      errors (memoryBetween "1Gi" "much") ≠ [] := by
  decide +kernel

end VerticalScalingRule
end AdmissionGate
