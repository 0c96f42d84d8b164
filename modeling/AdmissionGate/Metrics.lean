import AdmissionGate.Binary64.Scaled

/-!
# Metrics

Counts of admission calls by kind, operation and outcome, and the distribution
of the time that they took by kind and operation.
-/

namespace AdmissionGate

/-! ## Labels -/

inductive CallResult where
  | allowed
  | denied
  | error
deriving DecidableEq, Repr

namespace CallResult

def all : List CallResult := [.allowed, .denied, .error]

def name : CallResult → String
  | .allowed => "allowed"
  | .denied => "denied"
  | .error => "error"

end CallResult

structure CallLabels where
  kind : String
  operation : String
deriving DecidableEq, Repr

structure ResultLabels where
  call : CallLabels
  result : CallResult
deriving DecidableEq, Repr

/-! ## Histograms -/

/-- The times observed under one label: their number, their sum and how many lie
in each of the ranges between two bounds. -/
structure Histogram where
  count : Nat
  sum : Binary64
  ranges : List Nat
deriving DecidableEq, Repr

namespace Histogram

/-- Half a thousandth of a second and its doubles. -/
def bounds : List Binary64 :=
  (List.range 14).map fun index =>
    (Binary64.ofRatio? false (5 * Nat.pow 2 index) 10000).getD (.zero false)

def empty : Histogram where
  count := 0
  sum := .zero false
  ranges := List.replicate (bounds.length + 1) 0

/-- Counts a value in the first range whose bound it does not exceed, or in the
last. -/
def countIn (value : Binary64) : List Binary64 → List Nat → List Nat
  | bound :: bounds, count :: counts =>
    if value.magnitudeLe bound then (count + 1) :: counts
    else count :: countIn value bounds counts
  | [], count :: counts => (count + 1) :: counts
  | _, [] => []

def observe (histogram : Histogram) (value : Binary64) : Histogram where
  count := histogram.count + 1
  sum := (histogram.sum.addMagnitudes? value).getD histogram.sum
  ranges := countIn value bounds histogram.ranges

def cumulative : (total : Nat) → List Nat → List Nat
  | _, [] => []
  | total, count :: counts =>
    (total + count) :: cumulative (total + count) counts

end Histogram

def secondsOfMicros? (micros : Nat) : Option Binary64 := do
  (← Binary64.ofInt? micros).div? (← Binary64.ofInt? 1000000)

/-! ## Families -/

def updateLabel {Label Value : Type} [DecidableEq Label] (label : Label)
    (fresh : Value) (change : Value → Value) :
    List (Label × Value) → List (Label × Value)
  | [] => [(label, change fresh)]
  | (held, value) :: rest =>
    if held = label then (held, change value) :: rest
    else (held, value) :: updateLabel label fresh change rest

structure Metrics where
  calls : List (ResultLabels × Nat) := []
  durations : List (CallLabels × Histogram) := []
deriving DecidableEq, Repr

namespace Metrics

def record (metrics : Metrics) (kind operation : String) (result : CallResult)
    (seconds : Binary64) : Metrics where
  calls := updateLabel ⟨⟨kind, operation⟩, result⟩ 0 (· + 1) metrics.calls
  durations :=
    updateLabel ⟨kind, operation⟩ .empty
      (fun histogram => histogram.observe seconds)
      metrics.durations

def callCount (metrics : Metrics) (kind operation : String)
    (result : CallResult) : Nat :=
  (metrics.calls.lookup ⟨⟨kind, operation⟩, result⟩).getD 0

def durationCount (metrics : Metrics) (kind operation : String) : Nat :=
  ((metrics.durations.lookup ⟨kind, operation⟩).map Histogram.count).getD 0

/-! ## Text -/

def numberLayout : Binary64.Layout where
  leastPositional := -6
  greatestPositional := 20
  plusSign := false

def numberText (number : Binary64) : String :=
  number.shortDecimal.render numberLayout

def labelText (name value : String) : String := name ++ "=\"" ++ value ++ "\""

def callText (labels : CallLabels) : String :=
  labelText "kind" labels.kind ++ "," ++ labelText "operation" labels.operation

def sample (name labels value : String) : String :=
  name ++ "\x7b" ++ labels ++ "\x7d " ++ value

def callSample (entry : ResultLabels × Nat) : String :=
  sample "dbops_admission_requests_total"
    (callText entry.1.call ++ "," ++ labelText "result" entry.1.result.name)
    (toString entry.2)

def durationName : String := "dbops_admission_duration_seconds"

def boundTexts : List String :=
  Histogram.bounds.map numberText ++ ["+Inf"]

def bucketSamples (labels : CallLabels) (histogram : Histogram) : List String :=
  (boundTexts.zip (Histogram.cumulative 0 histogram.ranges)).map
    fun (bound, count) =>
      sample (durationName ++ "_bucket")
        (labelText "le" bound ++ "," ++ callText labels)
      (toString count)

def durationSamples (entry : CallLabels × Histogram) : List String :=
  [sample (durationName ++ "_sum") (callText entry.1) (numberText entry.2.sum),
    sample (durationName ++ "_count") (callText entry.1)
      (toString entry.2.count)] ++
    bucketSamples entry.1 entry.2

def lines (metrics : Metrics) : List String :=
  ["# HELP dbops_admission_requests Total number of admission requests.",
    "# TYPE dbops_admission_requests counter"] ++
  metrics.calls.map callSample ++
  ["# HELP dbops_admission_duration_seconds Duration of admission validation in seconds.",
    "# TYPE dbops_admission_duration_seconds histogram"] ++
  metrics.durations.flatMap durationSamples ++
  ["# EOF"]

def render (metrics : Metrics) : String :=
  String.join (metrics.lines.map (· ++ "\n"))

end Metrics
end AdmissionGate
