import Continuity.ReferenceFeatures

namespace Continuity
open Collections
set_option autoImplicit true

structure LabelThresholds where
  trusted_bps : JsNumber
  likely_trusted_bps : JsNumber
  medium_bps : JsNumber
  suspicious_bps : JsNumber
  high_risk_bps : JsNumber

/-- What the score reads of a domain policy. -/
structure ScoredPolicy where
  domain : JsString
  requires_settlement : Bool
  requires_delegation_check : Bool
  min_coverage_bps : JsNumber
  max_assessment_age_seconds : JsNumber
  thresholds : LabelThresholds

structure CalibrationPoint where
  raw_bps : JsNumber
  calibrated_bps : JsNumber

inductive ConfidenceMethod where
  | analytic_profile_v1
  | deterministic_bootstrap_v1
  | dev_heuristic_v0
  deriving DecidableEq

inductive BootstrapUnit where
  | feature
  | edge_counterparty_attestation
  deriving DecidableEq

structure ConfidenceProfile where
  min_width_bps : Option JsNumber
  max_width_bps : Option JsNumber
  coverage_weight_bps : Option JsNumber
  evidence_weight_bps : Option JsNumber
  bootstrap_seed : Option Hex32
  bootstrap_rounds : Option JsNumber
  bootstrap_unit : Option BootstrapUnit
  method : Option ConfidenceMethod

def ConfidenceProfile.empty : ConfidenceProfile :=
  ⟨none, none, none, none, none, none, none, none⟩

structure ReferenceScoreV0Input where
  subject : TrustID
  issuer : TrustID
  scoring_profile_id : JsString
  model_version : JsString
  gate_result : GateResult
  evidence_coverage : EvidenceCoverageV1
  normalized_features_bps : OrderedMap JsString JsNumber
  weights_bps : OrderedMap JsString JsNumber
  calibration_points : Option (List CalibrationPoint)
  confidence_profile : Option ConfidenceProfile
  bootstrap_evidence_hashes : Option (List Hex32)
  feature_vector_commitment : Option Hex32
  coverage_penalty_weight_bps : Option JsNumber
  has_adverse_evidence : Option Bool
  domain_policy : ScoredPolicy
  issued_at : RFC3339

/-- An assessment of version 2 before it is signed. -/
structure UnsignedAssessmentV2 where
  assessment_id : Hex32
  subject : TrustID
  issuer : TrustID
  domain : JsString
  scoring_profile_id : JsString
  model_version : JsString
  gate_result : GateResult
  score_bps : Option Nat
  confidence_interval_bps : Option (Nat × Nat)
  coverage_bps : JsNumber
  label : AssessmentLabelV2
  reason_codes : List JsString
  risk_codes : List JsString
  feature_vector_commitment : Option Hex32
  evidence_coverage_commitment : Option Hex32
  issued_at : RFC3339
  expires_at : RFC3339

section Score

variable (H : Host) (input : ReferenceScoreV0Input)

def numberRecord (record : OrderedMap JsString JsNumber) : JsValue :=
  .obj (record.entries.map fun entry => (entry.1, .num entry.2))

/-- The features that have a weight, in the order of their names. -/
def featureIds : List JsString := sortStrings input.weights_bps.keys

/-- What one feature adds to the score. -/
def weightedFeature (featureId : JsString) : Nat :=
  clampBps ((input.normalized_features_bps.get? featureId).getD (.ofNat 0)) *
    clampBps ((input.weights_bps.get? featureId).getD .nan) / 10000

def coveragePenalty : JsNumber :=
  ((.ofNat 10000 - input.evidence_coverage.coverage_bps) *
    .ofNat (clampBps (input.coverage_penalty_weight_bps.getD (.ofNat 1000))) / .ofNat 10000).floor

/-- The loop over the weights. -/
def weightedScore : JsNumber :=
  (featureIds input).foldl (fun score featureId =>
    score + .ofNat (weightedFeature input featureId)) (.ofNat 0)

def rawScoreBps : Nat := clampBps (weightedScore input - coveragePenalty input)

/-- The points of the calibration as pairs of basis points, in the order of the raw ones. -/
def calibrationPoints : List (Nat × Nat) :=
  ((input.calibration_points.getD []).map fun point =>
    (clampBps point.raw_bps, clampBps point.calibrated_bps)).insertionSort fun a b => a.1 ≤ b.1

/-- Raw values that rise and calibrated ones that do not fall. -/
def calibrationMonotone : List (Nat × Nat) → Bool
  | left :: right :: rest =>
    decide (left.1 < right.1 ∧ left.2 ≤ right.2) && calibrationMonotone (right :: rest)
  | _ => true

/-- The piece of the calibration over a raw score above the first point. -/
def interpolate (raw : Nat) : List (Nat × Nat) → Nat
  | left :: right :: rest =>
    if raw ≤ right.1 then
      min 10000 (left.2 + (raw - left.1) * (right.2 - left.2) / max 1 (right.1 - left.1))
    else interpolate raw (right :: rest)
  | [last] => last.2
  | [] => raw

def calibrate (points : List (Nat × Nat)) (raw : Nat) : Nat :=
  match points with
  | [] => raw
  | first :: rest => if raw ≤ first.1 then first.2 else interpolate raw (first :: rest)

def confidence : ConfidenceProfile := input.confidence_profile.getD .empty

def minWidth : JsNumber := (confidence input).min_width_bps.getD (.ofNat 150)

def maxWidth : JsNumber := (confidence input).max_width_bps.getD (.ofNat 2000)

def analyticWidth : JsNumber :=
  let coverage := input.evidence_coverage
  let missing (target : Nat) (name : String) : JsNumber :=
    (.ofNat target - (numberOf coverage.toFields name).getD .nan).atLeastZero
  ((.ofNat 10000 - coverage.coverage_bps) *
      (confidence input).coverage_weight_bps.getD (.ofNat 1000) / .ofNat 10000).floor +
    ((missing 25 "valid_signed_event_count" + missing 10 "valid_receipt_count" +
      missing 5 "unique_counterparty_count") *
      (confidence input).evidence_weight_bps.getD (.ofNat 20) / .ofNat 40).floor

/-- An index below `size` drawn from the canonical hash of the material. -/
def drawnIndex (material : JsValue) (size : Nat) : Js Nat := do
  let digest ← canonicalHash H.noble material
  let drawn ← bigIntOfString digest
  return (drawn % size).toNat

/-- The feature that a round of the bootstrap samples at an index. -/
def sampledFeature (seed : Hex32) (ids evidenceHashes : List Hex32) (round index : Nat) :
    Js Nat := do
  let at_ (last : JsString × JsValue) : JsValue :=
    .obj [(js "seed", .str seed), (js "round", .num (.ofNat round)),
      (js "index", .num (.ofNat index)), last]
  let evidenceMaterial ←
    if evidenceHashes.isEmpty then pure JsValue.undefined
    else do
      let pick ← drawnIndex H (at_ (js "evidence_hashes", textList evidenceHashes))
        evidenceHashes.length
      pure (JsValue.str (evidenceHashes[pick]?.getD []))
  let pick ← drawnIndex H (at_ (js "evidenceMaterial", evidenceMaterial)) ids.length
  return weightedFeature input (ids[pick]?.getD [])

def sampledScore (seed : Hex32) (ids evidenceHashes : List Hex32) (round : Nat) : Js Nat := do
  let sampled ← (List.range ids.length).mapM fun index =>
    sampledFeature H input seed ids evidenceHashes round index
  return min 10000 sampled.sum

def bootstrapRounds : Nat :=
  ((JsNumber.ofNat 8).max ((JsNumber.ofNat 256).min
    ((confidence input).bootstrap_rounds.getD (.ofNat 32)).trunc)).passes

def bootstrapSeed : Js Hex32 :=
  match (confidence input).bootstrap_seed with
  | some seed => return seed
  | none => canonicalHash H.noble (.obj [(js "subject", .str input.subject),
      (js "issued_at", .str input.issued_at),
      (js "scoring_profile_id", .str input.scoring_profile_id)])

/-- Half the spread of the sampled scores between their 2.5 and 97.5 percent points. -/
def halfSpread (sampled : List Nat) : JsNumber :=
  let sorted := sampled.insertionSort (· ≤ ·)
  let entry (index : Nat) : JsNumber := (sorted[index]?.map JsNumber.ofNat).getD .nan
  let low := entry (sorted.length / 40)
  let high := entry (min (sorted.length - 1) ((sorted.length * 39 + 39) / 40 - 1))
  ((high - low).abs / .ofNat 2).floor

def bootstrapWidth : Js JsNumber := do
  let seed ← bootstrapSeed H input
  let ids := featureIds input
  let evidenceHashes := sortStrings (input.bootstrap_evidence_hashes.getD [])
  if ids.isEmpty then return maxWidth input
  if (confidence input).bootstrap_unit = some .edge_counterparty_attestation &&
      decide (evidenceHashes.length < 3) then return maxWidth input
  let sampled ← (List.range (bootstrapRounds input)).mapM
    (sampledScore H input seed ids evidenceHashes)
  return halfSpread sampled + analyticWidth input

def confidenceMethod : ConfidenceMethod :=
  (confidence input).method.getD .deterministic_bootstrap_v1

def confidenceWidth : Js Nat := do
  let width ← if confidenceMethod input = .deterministic_bootstrap_v1 then bootstrapWidth H input
    else pure (analyticWidth input)
  return clampBps ((minWidth input).max ((maxWidth input).min width))

end Score

section Label

/-- `a >= b`. -/
def JsNumber.ge (a b : JsNumber) : Bool := b.le a

/-- The label of a score. -/
def referenceLabel (thresholds : LabelThresholds) (min_coverage_bps coverage_bps : JsNumber)
    (adverse : Bool) (score_bps width : Nat) : AssessmentLabel :=
  let score := JsNumber.ofNat score_bps
  let lowCoverage := coverage_bps.lt (.ofNat 5000)
  let insufficient := coverage_bps.lt (.ofNat 2500) || coverage_bps.lt min_coverage_bps
  if score.ge thresholds.trusted_bps && decide (8000 ≤ score_bps - width) &&
      coverage_bps.ge (.ofNat 7500) then .trusted
  else if score.ge thresholds.likely_trusted_bps && coverage_bps.ge (.ofNat 5000) then
    .likely_trusted
  else if lowCoverage && !adverse then
    if insufficient then .insufficient_evidence else .unknown_caution
  else if score.ge thresholds.medium_bps then .medium_trust
  else if insufficient then .insufficient_evidence
  else if score.lt thresholds.high_risk_bps then .high_risk
  else if score.lt thresholds.suspicious_bps && adverse then .suspicious
  else if score.lt thresholds.suspicious_bps then .unknown_caution
  else if adverse then .suspicious
  else .unknown_caution

theorem ite_ne {p : Prop} [Decidable p] {a b c : α} (ha : a ≠ c) (hb : b ≠ c) :
    (if p then a else b) ≠ c := by
  split
  · exact ha
  · exact hb

theorem referenceLabel_ne_revoked (thresholds : LabelThresholds) (m c : JsNumber) (adverse : Bool)
    (score width : Nat) : referenceLabel thresholds m c adverse score width ≠ .revoked := by
  unfold referenceLabel
  dsimp only
  repeat' refine ite_ne ?_ ?_
  all_goals decide

end Label

section Assessment

variable (H : Host) (input : ReferenceScoreV0Input)

def isAdverse : Bool := isOn input.has_adverse_evidence

/-- The failed gate of an input, with its label and its code. -/
def failedGate : Option (AssessmentLabelV2 × JsString) :=
  let gate := input.gate_result
  let policy := input.domain_policy
  if !gate.schema_valid then some (.cryptographic_failure, js "TSL_SCHEMA_INVALID")
  else if !gate.signature_valid then some (.cryptographic_failure, js "TSL_SIGNATURE_INVALID")
  else if !gate.key_active || !gate.not_revoked then
    some (.revoked_or_compromised, js "TSL_KEY_REVOKED")
  else if gate.included_in_log == some false || gate.checkpoint_valid == some false then
    some (.unsettled_or_unproven, js "TSL_UNSETTLED_OR_UNPROVEN")
  else if policy.requires_settlement && !isOn gate.settlement_satisfied then
    some (.settlement_missing, js "TSL_SETTLEMENT_MISSING")
  else if policy.requires_delegation_check && gate.delegation_valid == some false then
    some (.delegation_missing, js "TSL_DELEGATION_MISSING")
  else none

/-- Too little coverage for a score without adverse evidence. -/
def abstains : Bool :=
  input.evidence_coverage.coverage_bps.lt input.domain_policy.min_coverage_bps && !isAdverse input

def expiryOf : Js RFC3339 :=
  isoTime (parsedTime H input.issued_at +
    input.domain_policy.max_assessment_age_seconds * .ofNat 1000)

def failureAssessment (expires_at : RFC3339) (label : AssessmentLabelV2) (code : JsString) :
    Js UnsignedAssessmentV2 := do
  let assessment_id ← canonicalHash H.noble (.obj [(js "subject", .str input.subject),
    (js "code", .str code), (js "at", .str input.issued_at)])
  return {
    assessment_id
    subject := input.subject
    issuer := input.issuer
    domain := input.domain_policy.domain
    scoring_profile_id := input.scoring_profile_id
    model_version := input.model_version
    gate_result := input.gate_result
    score_bps := none
    confidence_interval_bps := none
    coverage_bps := input.evidence_coverage.coverage_bps
    label
    reason_codes := [code]
    risk_codes := [code]
    feature_vector_commitment := none
    evidence_coverage_commitment := none
    issued_at := input.issued_at
    expires_at }

/-- The calibrated score of an input. -/
def referenceScore : Js Nat :=
  let points := calibrationPoints input
  if calibrationMonotone points then return calibrate points (rawScoreBps input)
  else throw "TSL_CALIBRATION_PROFILE_NON_MONOTONE"

/-- The heuristic method is for development alone. -/
def methodAllowed : Js Unit :=
  if confidenceMethod input = .dev_heuristic_v0 && !H.flag "TSL_DEV_SCORING_INPUTS" then
    throw "TSL_DEV_CONFIDENCE_PROFILE_REJECTED"
  else return ()

def featureCommitment : Js Hex32 :=
  match input.feature_vector_commitment with
  | some commitment => return commitment
  | none => canonicalHash H.noble (numberRecord input.normalized_features_bps)

def scoredAssessment (expires_at : RFC3339) : Js UnsignedAssessmentV2 := do
  let score_bps ← referenceScore input
  methodAllowed H input
  let width ← confidenceWidth H input
  let coverage := input.evidence_coverage
  let policy := input.domain_policy
  let label := referenceLabel policy.thresholds policy.min_coverage_bps coverage.coverage_bps
    (isAdverse input) score_bps width
  let assessment_id ← canonicalHash H.noble (.obj [(js "subject", .str input.subject),
    (js "score_bps", .num (.ofNat score_bps)), (js "at", .str input.issued_at)])
  let feature_vector_commitment ← featureCommitment H input
  let evidence_coverage_commitment ← canonicalHash H.noble (.obj coverage.toFields)
  return {
    assessment_id
    subject := input.subject
    issuer := input.issuer
    domain := policy.domain
    scoring_profile_id := input.scoring_profile_id
    model_version := input.model_version
    gate_result := input.gate_result
    score_bps := some score_bps
    confidence_interval_bps := some (score_bps - width, min 10000 (score_bps + width))
    coverage_bps := coverage.coverage_bps
    label := .rated label (referenceLabel_ne_revoked _ _ _ _ _ _)
    reason_codes := sortStrings input.normalized_features_bps.keys
    risk_codes := []
    feature_vector_commitment := some feature_vector_commitment
    evidence_coverage_commitment := some evidence_coverage_commitment
    issued_at := input.issued_at
    expires_at }

def computeReferenceScoreV0 : Js UnsignedAssessmentV2 := do
  let expires_at ← expiryOf H input
  match failedGate input with
  | some (label, code) => failureAssessment H input expires_at label code
  | none =>
    if abstains input then
      failureAssessment H input expires_at (.rated .insufficient_evidence (by decide))
        (js "TSL_INSUFFICIENT_EVIDENCE")
    else scoredAssessment H input expires_at

end Assessment

end Continuity
