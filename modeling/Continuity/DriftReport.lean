import Continuity.DelegatedAction
import Continuity.GraphFeatures

namespace Continuity
open Collections
set_option autoImplicit true

inductive DriftComponent where
  | key
  | graph
  | action
  | cadence
  | claim
  | agent
  | «local»
  deriving DecidableEq

namespace DriftComponent

def text : DriftComponent → JsString
  | .key => js "key"
  | .graph => js "graph"
  | .action => js "action"
  | .cadence => js "cadence"
  | .claim => js "claim"
  | .agent => js "agent"
  | .«local» => js "local"

/-- `DRIFT_${component.toUpperCase()}`. -/
def reasonCode : DriftComponent → JsString
  | .key => js "DRIFT_KEY"
  | .graph => js "DRIFT_GRAPH"
  | .action => js "DRIFT_ACTION"
  | .cadence => js "DRIFT_CADENCE"
  | .claim => js "DRIFT_CLAIM"
  | .agent => js "DRIFT_AGENT"
  | .«local» => js "DRIFT_LOCAL"

end DriftComponent

def componentKeys : List DriftComponent :=
  [.key, .graph, .action, .cadence, .claim, .agent, .«local»]

/-- A partial record of numbers by component. -/
abbrev DriftComponents := DriftComponent → Option JsNumber

def componentsJs (components : DriftComponents) : JsValue :=
  .obj (componentKeys.flatMap fun component => optField component.text .num (components component))

/-- A point of the feature history. -/
structure DriftPoint where
  timestamp : RFC3339
  components : DriftComponents
  verified_event : Option Bool
  high_value_action : Option Bool
  new_delegation_pattern : Option Bool
  adverse_evidence : Option Bool

def DriftPoint.toJs (point : DriftPoint) : JsValue :=
  .obj ([(js "timestamp", .str point.timestamp),
    (js "components", componentsJs point.components)] ++
    optField (js "verified_event") .bool point.verified_event ++
    optField (js "high_value_action") .bool point.high_value_action ++
    optField (js "new_delegation_pattern") .bool point.new_delegation_pattern ++
    optField (js "adverse_evidence") .bool point.adverse_evidence)

inductive DriftLabel where
  | stable
  | moderate
  | high
  | severe
  | dormant_reactivation
  | insufficient_baseline
  deriving DecidableEq

def DriftLabel.text : DriftLabel → JsString
  | .stable => js "stable"
  | .moderate => js "moderate"
  | .high => js "high"
  | .severe => js "severe"
  | .dormant_reactivation => js "dormant_reactivation"
  | .insufficient_baseline => js "insufficient_baseline"

inductive DriftAction where
  | none
  | lower_confidence
  | step_up
  | human_review
  | temporary_block
  deriving DecidableEq

def DriftAction.text : DriftAction → JsString
  | .none => js "none"
  | .lower_confidence => js "lower_confidence"
  | .step_up => js "step_up"
  | .human_review => js "human_review"
  | .temporary_block => js "temporary_block"

inductive SparseMode where
  | none
  | insufficient_baseline
  | cohort_baseline
  deriving DecidableEq

def SparseMode.text : SparseMode → JsString
  | .none => js "none"
  | .insufficient_baseline => js "insufficient_baseline"
  | .cohort_baseline => js "cohort_baseline"

/-- The input of `computeDriftReportV0`. -/
structure DriftInput where
  subject : TrustID
  issuer : Option TrustID
  drift_profile_id : Option JsString
  baseline_values_bps : Option (List JsNumber)
  observation_values_bps : Option (List JsNumber)
  feature_history : Option (List DriftPoint)
  baseline_window_days : JsNumber
  observation_window_days : JsNumber
  min_baseline_points : Option JsNumber
  dormant_days : Option JsNumber
  last_verified_event_at : Option RFC3339
  cohort_baseline_components : Option (List DriftComponents)
  high_value_action : Option Bool
  new_delegation_pattern : Option Bool
  adverse_evidence : Option Bool
  coverage_bps : Option JsNumber
  dcrit_bps : Option JsNumber
  dormant_penalty_bps : Option JsNumber
  key_penalty_bps : Option JsNumber
  severe_action : Option DriftAction
  component_scores_bps : Option (List (DriftComponent × JsNumber))
  computed_at : Option RFC3339
  signature : Option HexSig

/-- A drift report by the fields that the computation writes. -/
structure DriftReport where
  subject : TrustID
  issuer : Option TrustID
  drift_profile_id : Option JsString
  computed_at : RFC3339
  baseline_window_days : JsNumber
  observation_window_days : JsNumber
  coverage_bps : Option Nat
  dcrit_bps : Option Nat
  dormant_penalty_bps : Option Nat
  key_penalty_bps : Option Nat
  feature_history_commitment : Option Hex32
  baseline_profile_commitment : Option Hex32
  covariance_profile_commitment : Option Hex32
  robust_covariance_commitment : Option Hex32
  mahalanobis_bps : Option Nat
  cohort_baseline_profile_commitment : Option Hex32
  uncertainty_widening_bps : Option Nat
  last_verified_event_at : Option RFC3339
  days_since_last_verified_event : Option JsNumber
  sparse_mode : SparseMode
  drift_score_bps : Nat
  drift_label : DriftLabel
  action : DriftAction
  reason_codes : List JsString
  component_scores_bps : Option (List (DriftComponent × Nat))
  signature : HexSig

section Numbers

namespace JsNumber

/-- `Math.abs`. -/
def abs (n : JsNumber) : JsNumber := if n.isNegative then n.neg else n

/-- `Math.max(a, b)`. -/
def max (a b : JsNumber) : JsNumber :=
  if a = .nan ∨ b = .nan then .nan else if a.le b then b else a

/-- `BigInt(Math.trunc(n))`. -/
def toBigInt (n : JsNumber) : Js Int :=
  match n.trunc.toInt? with
  | some z => return z
  | none => throw "The number cannot be converted to a BigInt because it is not an integer"

end JsNumber

def numberSum (numbers : List JsNumber) : JsNumber := numbers.foldl (· + ·) (.ofNat 0)

/-- The median of the numbers in basis points, of none not a number. -/
def median (values : List JsNumber) : JsNumber :=
  let sorted := (values.map clampBps).insertionSort (· ≤ ·)
  if sorted.length % 2 = 1 then .ofNat (sorted[sorted.length / 2]?.getD 0)
  else
    match sorted[sorted.length / 2 - 1]?, sorted[sorted.length / 2]? with
    | some low, some high => .ofNat ((low + high) / 2)
    | _, _ => .nan

def robustDistance (baseline observation : List JsNumber) : Nat :=
  let baselineMedian := median baseline
  let deviations := baseline.map fun value => (value - baselineMedian).abs
  let mad := (JsNumber.ofNat 100).max (median deviations)
  let observationMedian := if observation.isEmpty then baselineMedian else median observation
  clampBps ((observationMedian - baselineMedian).abs * .ofNat 1000 / mad).floor

/-- The components of a point in the order of the keys. -/
def toVector (point : DriftPoint) : List JsNumber :=
  componentKeys.map fun component =>
    .ofNat (clampBps ((point.components component).getD (.ofNat 0)))

def vectorEntry (vector : List JsNumber) (index : Nat) : JsNumber :=
  vector[index]?.getD (.ofNat 0)

def medianVector (vectors : List (List JsNumber)) : List JsNumber :=
  (List.range componentKeys.length).map fun index =>
    median (vectors.map fun vector => vectorEntry vector index)

def covarianceMatrix (vectors : List (List JsNumber)) (center : List JsNumber) :
    List (List JsNumber) :=
  let denominator := JsNumber.ofNat (max 1 (vectors.length - 1))
  (List.range componentKeys.length).map fun row =>
    (List.range componentKeys.length).map fun column =>
      let total := numberSum (vectors.map fun vector =>
        (vectorEntry vector row - vectorEntry center row) *
          (vectorEntry vector column - vectorEntry center column))
      let entry := (total / denominator).floor
      if row = column then entry.max (.ofNat 10000) else entry

end Numbers

section Inverse

def bigScale : Int := 1000000

def cell (matrix : List (List Int)) (row column : Nat) : Int :=
  (matrix[row]?.bind fun entries => entries[column]?).getD 0

/-- The row of the largest entry of a column, from the diagonal on. -/
def pivotRow (matrix : List (List Int)) (column : Nat) : Nat :=
  (List.range' (column + 1) (matrix.length - (column + 1))).foldl
    (fun pivot row =>
      if (cell matrix pivot column).natAbs < (cell matrix row column).natAbs then row else pivot)
    column

def swapRows (matrix : List (List Int)) (a b : Nat) : List (List Int) :=
  (matrix.set a (matrix[b]?.getD [])).set b (matrix[a]?.getD [])

/-- One column of the elimination; divisions of `BigInt` go towards zero. -/
def eliminate (matrix : List (List Int)) (column : Nat) : Option (List (List Int)) :=
  let pivot := pivotRow matrix column
  if cell matrix pivot column = 0 then none
  else
    let matrix := if pivot = column then matrix else swapRows matrix pivot column
    let pivotValue := cell matrix column column
    let pivotEntries := ((matrix[column]?).getD []).map fun value =>
      (value * bigScale).tdiv pivotValue
    some (matrix.mapIdx fun row entries =>
      if row = column then pivotEntries
      else
        let factor := cell matrix row column
        entries.zipWith (fun value entry => value - (factor * entry).tdiv bigScale) pivotEntries)

def augmented (matrix : List (List JsNumber)) (regularization : JsNumber) :
    Js (List (List Int)) :=
  matrix.zipIdx.mapM fun (entries, row) => do
    let left ← entries.zipIdx.mapM fun (value, column) =>
      (value + (if row = column then regularization else .ofNat 0)).toBigInt
    return left ++ (List.range matrix.length).map fun column => if column = row then 1 else 0

def invertRegularizedMatrixFixed (matrix : List (List JsNumber)) (regularization : JsNumber) :
    Js (Option (List (List JsNumber))) :=
  if matrix.isEmpty || matrix.any fun row => row.length != matrix.length then return none
  else do
    let start ← augmented matrix regularization
    return ((List.range matrix.length).foldlM eliminate start).map fun rows =>
      rows.map fun row => (row.drop matrix.length).map fun value => JsNumber.rounded value

end Inverse

section Report

variable (H : Host)

/-- What the report measures of a history, whatever the weights of the score. -/
structure DriftMeasures where
  mahalanobis : Nat
  covariance : List (List JsNumber)
  center : List JsNumber
  componentScores : List (DriftComponent × Nat)
  lastVerifiedEventAt : Option RFC3339
  daysSinceLastVerifiedEvent : Option JsNumber
  dormant : Bool
  adverse : Bool

/-- The weights of the score, within their bounds. -/
structure DriftWeights where
  coverage : Nat
  dcrit : Nat
  dormantPenalty : Nat
  keyPenalty : Nat
  deriving DecidableEq

namespace DriftInput

variable (input : DriftInput)

def computedAt : RFC3339 := input.computed_at.getD H.nowText

def minBaselinePoints : JsNumber := input.min_baseline_points.getD (.ofNat 2)

def weights : DriftWeights where
  coverage := clampBps (input.coverage_bps.getD (.ofNat 10000))
  dcrit := max 1 (clampBps (input.dcrit_bps.getD (.ofNat 7500)))
  dormantPenalty := clampBps (input.dormant_penalty_bps.getD (.ofNat 2500))
  keyPenalty := clampBps (input.key_penalty_bps.getD (.ofNat 0))

end DriftInput

/-- `Date.parse(text)` as a number. -/
def parsedTime (text : RFC3339) : JsNumber :=
  match H.parse text with
  | some time => .ofInt time
  | none => .nan

def inDays (days : JsNumber) : JsNumber := days * .ofNat 86400000

def baselineHistory (input : DriftInput) : List DriftPoint :=
  let atMs := parsedTime H (input.computedAt H)
  (input.feature_history.getD []).filter fun point =>
    let ms := parsedTime H point.timestamp
    JsNumber.le (atMs - inDays (input.baseline_window_days + input.observation_window_days)) ms &&
      ms.lt (atMs - inDays input.observation_window_days)

def observationHistory (input : DriftInput) : List DriftPoint :=
  let atMs := parsedTime H (input.computedAt H)
  (input.feature_history.getD []).filter fun point =>
    let ms := parsedTime H point.timestamp
    JsNumber.le (atMs - inDays input.observation_window_days) ms && ms.le atMs

/-- Fewer baseline values than the report needs. -/
def sparseBaseline (input : DriftInput) : Bool :=
  let count := match input.baseline_values_bps with
    | some values => values.length
    | none => (baselineHistory H input).length
  (JsNumber.ofNat count).lt input.minBaselinePoints

def robustMahalanobis (input : DriftInput) :
    Js (Nat × List (List JsNumber) × List JsNumber) := do
  let baselineVectors := (baselineHistory H input).map toVector
  let observationVectors := (observationHistory H input).map toVector
  if (JsNumber.ofNat baselineVectors.length).lt input.minBaselinePoints ||
      observationVectors.isEmpty then return (0, [], [])
  let center := medianVector baselineVectors
  let covariance := covarianceMatrix baselineVectors center
  let observationMean := (List.range componentKeys.length).map fun index =>
    (numberSum (observationVectors.map fun vector => vectorEntry vector index) /
      .ofNat observationVectors.length).floor
  match ← invertRegularizedMatrixFixed covariance (.ofNat 10000) with
  | none => return (0, covariance, center)
  | some inverse =>
    let delta := observationMean.zipWith (· - ·) center
    let quadraticScaled := numberSum (delta.zipWith (fun left row =>
      delta.zipWith (fun right entry => (left * entry * right / .ofNat 1000000).trunc) row)
      inverse).flatten
    return (clampBps (rootNumber quadraticScaled.atLeastZero * .ofNat 1000), covariance, center)
where
  rootNumber : JsNumber → JsNumber
    | .fin q => .ofNat (fixedPointSqrt q.floor.toNat)
    | .negZero => .ofNat 0
    | n => n

/-- The scores by component: those of the history, and over them those that are given. -/
def componentScores (input : DriftInput) : List (DriftComponent × Nat) :=
  let values (points : List DriftPoint) (component : DriftComponent) : List JsNumber :=
    points.filterMap fun point => point.components component
  let derived := componentKeys.filterMap fun component =>
    let baseline := values (baselineHistory H input) component
    if (JsNumber.ofNat baseline.length).lt input.minBaselinePoints then none
    else some (component,
      robustDistance baseline (values (observationHistory H input) component))
  (input.component_scores_bps.getD []).foldl
    (fun scores entry => setEntry entry.1 (clampBps entry.2) scores) derived

/-- The last time of a verified event in the history. -/
def lastInHistory (input : DriftInput) : Option RFC3339 :=
  (sortStrings (((input.feature_history.getD []).filter fun point =>
    point.verified_event == some true).map DriftPoint.timestamp)).getLast?

def lastVerifiedEventAt (input : DriftInput) : Option RFC3339 :=
  input.last_verified_event_at.or (lastInHistory input)

def daysSinceLastVerifiedEvent (input : DriftInput) : Option JsNumber :=
  let last := (lastVerifiedEventAt input).getD []
  match H.parse last with
  | some time =>
    if last.isEmpty then given
    else some ((parsedTime H (input.computedAt H) - .ofInt time) / .ofNat 86400000).floor
  | none => given
where
  given : Option JsNumber := if H.flag "TSL_DEV_DRIFT_INPUTS" then input.dormant_days else none

def dormantAt (input : DriftInput) : Bool :=
  let some_ (f : DriftPoint → Option Bool) : Bool :=
    (observationHistory H input).any fun point => f point == some true
  JsNumber.le (input.dormant_days.getD (.ofNat 90))
      ((daysSinceLastVerifiedEvent H input).getD (.ofNat 0)) &&
    (input.high_value_action == some true || input.new_delegation_pattern == some true ||
      some_ DriftPoint.high_value_action || some_ DriftPoint.new_delegation_pattern)

def driftMeasures (input : DriftInput) : Js DriftMeasures := do
  let (mahalanobis, covariance, center) ← robustMahalanobis H input
  return {
    mahalanobis
    covariance
    center
    componentScores := componentScores H input
    lastVerifiedEventAt := lastVerifiedEventAt input
    daysSinceLastVerifiedEvent := daysSinceLastVerifiedEvent H input
    dormant := dormantAt H input
    adverse := input.adverse_evidence == some true ||
      (observationHistory H input).any fun point => point.adverse_evidence == some true }

namespace DriftMeasures

variable (M : DriftMeasures)

def keyScore : Nat := (getEntry .key M.componentScores).getD 0

/-- The score of the report. -/
def drift (w : DriftWeights) : Nat :=
  let mahaRisk := min 10000 (M.mahalanobis * 10000 / w.dcrit)
  let dormantPenalty := if M.dormant then w.dormantPenalty else 0
  let baseDrift := min 10000
    (mahaRisk * w.coverage / 10000 + dormantPenalty + max M.keyScore w.keyPenalty)
  if M.dormant then max 8000 baseDrift else baseDrift

def label (drift : Nat) : DriftLabel :=
  if M.dormant then .dormant_reactivation
  else if 7500 ≤ drift ∧ (M.adverse = true ∨ 7500 ≤ M.keyScore) then .severe
  else if 5000 ≤ drift then .high
  else if 2500 ≤ drift then .moderate
  else .stable

def action (severe_action : Option DriftAction) (label : DriftLabel) : DriftAction :=
  if M.dormant then .step_up
  else
    match label with
    | .severe => severe_action.getD .human_review
    | .high => .step_up
    | .moderate => .lower_confidence
    | _ => .none

def reasonCodes (adverse_evidence : Option Bool) : List JsString :=
  if M.dormant then [js "DORMANT_REACTIVATION", js "NEW_HIGH_VALUE_ACTION"] ++
    M.componentScores.map fun entry => entry.1.reasonCode
  else (if adverse_evidence = some true then [js "ADVERSE_EVIDENCE"] else []) ++
    (M.componentScores.filter fun entry => 2500 ≤ entry.2).map fun entry => entry.1.reasonCode

end DriftMeasures

/-- The commitment to the critical distance and the coverage. -/
def covarianceProfile (w : DriftWeights) : JsValue :=
  .obj [(js "estimator", .str (js "robust_median_covariance_fixed_point_v1")),
    (js "regularization", .num (.ofNat 10000)), (js "dcrit_bps", .num (.ofNat w.dcrit)),
    (js "coverage_bps", .num (.ofNat w.coverage))]

def numberMatrix (rows : List (List JsNumber)) : JsValue := .arr (rows.map numberList)

/-- `...(text ? { name: text } : {})`. -/
def textWhenSet (text : Option JsString) : Option JsString := if truthy text then text else none

def zeroSignature : HexSig := js "0x00"

/-- The report of a baseline that is long enough. -/
def normalReport (input : DriftInput) (M : DriftMeasures) : Js DriftReport := do
  let feature_history_commitment ← input.feature_history.mapM fun history =>
    canonicalHash H.noble (.arr (history.map DriftPoint.toJs))
  let baseline_profile_commitment ← canonicalHash H.noble
    (.obj [(js "baseline_window_days", .num input.baseline_window_days),
      (js "min_baseline_points", .num input.minBaselinePoints)])
  let covariance_profile_commitment ← canonicalHash H.noble (covarianceProfile input.weights)
  let robust_covariance_commitment ← canonicalHash H.noble
    (.obj [(js "covariance", numberMatrix M.covariance), (js "center", numberList M.center)])
  let drift := M.drift input.weights
  let label := M.label drift
  return {
    subject := input.subject
    issuer := textWhenSet input.issuer
    drift_profile_id := textWhenSet input.drift_profile_id
    computed_at := input.computedAt H
    baseline_window_days := input.baseline_window_days
    observation_window_days := input.observation_window_days
    coverage_bps := none
    dcrit_bps := none
    dormant_penalty_bps := none
    key_penalty_bps := none
    feature_history_commitment
    baseline_profile_commitment := some baseline_profile_commitment
    covariance_profile_commitment := some covariance_profile_commitment
    robust_covariance_commitment := some robust_covariance_commitment
    mahalanobis_bps := some M.mahalanobis
    cohort_baseline_profile_commitment := none
    uncertainty_widening_bps := none
    last_verified_event_at := textWhenSet M.lastVerifiedEventAt
    days_since_last_verified_event := M.daysSinceLastVerifiedEvent.map JsNumber.atLeastZero
    sparse_mode := .none
    drift_score_bps := drift
    drift_label := label
    action := M.action input.severe_action label
    reason_codes := M.reasonCodes input.adverse_evidence
    component_scores_bps := some M.componentScores
    signature := input.signature.getD zeroSignature }

def cohortAvailable (input : DriftInput) : Bool := nonEmptyList input.cohort_baseline_components

/-- The report without a baseline. -/
def insufficientReport (input : DriftInput) : DriftReport where
  subject := input.subject
  issuer := textWhenSet input.issuer
  drift_profile_id := textWhenSet input.drift_profile_id
  computed_at := input.computedAt H
  baseline_window_days := input.baseline_window_days
  observation_window_days := input.observation_window_days
  coverage_bps := some input.weights.coverage
  dcrit_bps := some input.weights.dcrit
  dormant_penalty_bps := some input.weights.dormantPenalty
  key_penalty_bps := some input.weights.keyPenalty
  feature_history_commitment := none
  baseline_profile_commitment := none
  covariance_profile_commitment := none
  robust_covariance_commitment := none
  mahalanobis_bps := none
  cohort_baseline_profile_commitment := none
  uncertainty_widening_bps := some (if cohortAvailable input then 1500 else 3000)
  last_verified_event_at := textWhenSet input.last_verified_event_at
  days_since_last_verified_event := none
  sparse_mode := if cohortAvailable input then .cohort_baseline else .insufficient_baseline
  drift_score_bps := 0
  drift_label := .insufficient_baseline
  action := .none
  reason_codes := [js "INSUFFICIENT_BASELINE"]
  component_scores_bps := none
  signature := input.signature.getD zeroSignature

/-- The report from the history alone. -/
def historyReport (input : DriftInput) : Js DriftReport :=
  if sparseBaseline H input then return insufficientReport H input
  else do
    let M ← driftMeasures H input
    normalReport H input M

/-- `new Date(time).toISOString()`; a time out of the range of dates is an error. -/
def isoTime (time : JsNumber) : Js RFC3339 :=
  match time.value? with
  | some q =>
    if 8640000000000000 < |q| then throw "Invalid time value"
    else return toISOString (if q < 0 then q.ceil else q.floor)
  | none => throw "Invalid time value"

/-- The points that stand for a cohort, one a day before the observation. -/
def syntheticHistory (input : DriftInput) (cohort : List DriftComponents) : Js (List DriftPoint) :=
  cohort.zipIdx.mapM fun (components, index) => do
    let timestamp ← isoTime (parsedTime H (input.computedAt H) -
      inDays (input.observation_window_days + .ofNat index + .ofNat 1))
    return {
      timestamp
      components
      verified_event := none
      high_value_action := none
      new_delegation_pattern := none
      adverse_evidence := none }

def cohortInput (input : DriftInput) (history : List DriftPoint) : DriftInput :=
  { input with
    feature_history := some (history ++ input.feature_history.getD [])
    cohort_baseline_components := none }

/-- A report from a cohort in place of the baseline. -/
def cohortReport (input : DriftInput) (cohort : List DriftComponents) : Js DriftReport := do
  let history ← syntheticHistory H input cohort
  let report ← historyReport H (cohortInput input history)
  let cohort_commitment ← canonicalHash H.noble (.arr (cohort.map componentsJs))
  let covariance_commitment ← canonicalHash H.noble
    (.obj [(js "estimator", .str (js "robust_median_covariance_fixed_point_v1")),
      (js "regularization", .num (.ofNat 10000)), (js "sparse_mode", .str (js "cohort_baseline"))])
  return { report with
    sparse_mode := .cohort_baseline
    uncertainty_widening_bps := some 1500
    cohort_baseline_profile_commitment := some cohort_commitment
    reason_codes := unique (js "COHORT_BASELINE" :: report.reason_codes)
    covariance_profile_commitment := some covariance_commitment }

/-- Whether the cohort stands in for the baseline. -/
def usesCohort (input : DriftInput) : Bool :=
  sparseBaseline H input && cohortAvailable input && !(observationHistory H input).isEmpty

def computeDriftReportV0 (input : DriftInput) : Js DriftReport :=
  if (input.baseline_values_bps.isSome || input.observation_values_bps.isSome) &&
      !H.flag "TSL_DEV_DRIFT_INPUTS" then throw "TSL_DEV_DRIFT_INPUTS_REQUIRED"
  else if usesCohort H input then
    cohortReport H input (input.cohort_baseline_components.getD [])
  else historyReport H input

end Report

end Continuity
