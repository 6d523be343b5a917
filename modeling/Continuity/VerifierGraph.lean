import Continuity.VerifierScoring

namespace Continuity
set_option autoImplicit true

/-- `checks.graph_artifacts_valid = checks.graph_artifacts_valid && value`. -/
def Report.graph (r : Report) (value : Bool) : Report :=
  r.check .graph_artifacts_valid (r.passes .graph_artifacts_valid && value)

def fieldsMatch (names : List JsString) (left right : JsObject) : Bool :=
  names.all fun name => strictEq (getField left name) (getField right name)

/-- `value ?? default`. -/
def orDefault (default_ value : JsValue) : JsValue :=
  match value with
  | .null => default_
  | .undefined => default_
  | value => value

/-- `JSON.stringify(f(left.name)) === JSON.stringify(f(right.name))`. -/
def jsonMatches (H : Host) (f : JsValue → JsValue) (left right : JsObject) (name : JsString) :
    Bool :=
  jsonStringify H (f (getField left name)) == jsonStringify H (f (getField right name))

def graphMetrics : List JsString :=
  [js "weighted_degree_bps", js "reciprocity_bps", js "counterparty_hhi_bps",
    js "counterparty_entropy_bps", js "effective_counterparty_count_milli",
    js "seed_escape_bps", js "adversarial_proximity_bps", js "community_algorithm_id",
    js "community_escape_bps", js "community_diversity_bps", js "conductance_bps",
    js "trusted_neighbor_mass_bps", js "trusted_seed_distance_bps",
    js "adversarial_seed_distance_bps", js "pagerank_bps", js "ppr_lite_bps",
    js "ppr_distance_bps", js "trusted_seed_distance_proxy_bps",
    js "adversarial_seed_distance_proxy_bps", js "cluster_distance_proxy_bps",
    js "trusted_manifold_distance_bps", js "adversarial_manifold_distance_bps",
    js "cluster_distance_bps", js "modularity_bps", js "community_pass_count",
    js "cluster_concentration_bps", js "recomputation_commitment", js "feature_commitment",
    js "privacy_disclosure_level"]

def sybilMetrics : List JsString :=
  [js "cluster_concentration_bps", js "trusted_escape_bps", js "internal_receipt_ratio_bps",
    js "seed_set_commitment", js "evidence_commitment", js "cluster_id_commitment",
    js "adversary_tier_assumed", js "creation_sync_bps", js "issuer_reuse_bps",
    js "external_diversity_bps", js "seed_contamination_bps", js "receipt_symmetry_bps",
    js "attack_cost_minor_units", js "expected_benefit_minor_units", js "attack_scenario",
    js "risk_score_bps", js "risk_label"]

def sybilSignals : List JsString :=
  [js "compromise_signals", js "issuer_collusion_signals",
    js "infrastructure_collusion_signals", js "compromise_evidence",
    js "issuer_collusion_evidence", js "infrastructure_collusion_evidence"]

def sybilMatches (H : Host) (recomputed stated : SybilAssessmentV1) : Bool :=
  fieldsMatch sybilMetrics recomputed.toFields stated.toFields &&
    jsonMatches H id recomputed.toFields stated.toFields (js "cost_components") &&
    sybilSignals.all (jsonMatches H (orDefault (.obj [])) recomputed.toFields stated.toFields) &&
    jsonMatches H (orDefault (.arr [])) recomputed.toFields stated.toFields
      (js "scenario_evidence_checks")

def driftMetrics : List JsString :=
  [js "drift_score_bps", js "drift_label", js "action", js "feature_history_commitment",
    js "baseline_profile_commitment", js "covariance_profile_commitment",
    js "robust_covariance_commitment", js "mahalanobis_bps",
    js "cohort_baseline_profile_commitment", js "uncertainty_widening_bps", js "sparse_mode",
    js "recomputation_status", js "last_verified_event_at",
    js "days_since_last_verified_event", js "coverage_bps", js "dcrit_bps",
    js "dormant_penalty_bps", js "key_penalty_bps"]

def driftMatches (H : Host) (recomputed stated : DriftReportV1) : Bool :=
  fieldsMatch driftMetrics recomputed.toFields stated.toFields &&
    jsonMatches H (orDefault (.obj [])) recomputed.toFields stated.toFields
      (js "component_scores_bps") &&
    jsonMatches H id recomputed.toFields stated.toFields (js "reason_codes")

section Blocks

variable (C : Context)

def requireGraphArtifacts : Bool :=
  isOn C.policy.require_graph_artifacts || isOn C.policy.require_exact_graph_formulas

/-- The result of a schema for an artifact that may be missing. -/
def Context.validateOption (name : SchemaName) (fields : Option JsObject) :
    Option SchemaValidationResult :=
  fields.map fun fields => C.validate name (.obj fields)

def graphValidations : List (Option SchemaValidationResult) :=
  [C.validateOption .graphProfileV2 (C.input.graph_profile.map GraphProfileV2.toFields),
    C.validateOption .graphFeatureVectorV1
      (C.input.graph_feature_vector.map GraphFeatureVectorV1.toFields),
    C.validateOption .sybilAssessmentV1
      (C.input.sybil_assessment.map SybilAssessmentV1.toFields),
    C.validateOption .driftReportV1 (C.input.drift_report.map DriftReportV1.toFields)]

def graphArtifactsBlock (r : Report) : Report :=
  let r := if requireGraphArtifacts C &&
      (C.input.graph_profile.isNone || C.input.graph_feature_vector.isNone) then
      (r.check .graph_artifacts_valid false).push ["TSL_GRAPH_ARTIFACT_REQUIRED"]
    else r
  r.keep .graph_artifacts_valid
    ((graphValidations C).all fun validation => validation.all SchemaValidationResult.valid)

def profileAlgorithm : Option JsString :=
  normalizeGraphAlgorithm
    (C.input.graph_profile.map fun profile => profile.community_detection.algorithm)

def graphVectorBlock (r : Report) : Js Report :=
  match C.input.graph_feature_vector with
  | none => return r
  | some vector => do
    let identity ← C.resolver vector.subject vector.computed_at
    let signed ← guarded (r.passes .graph_artifacts_valid &&
      vector.subject = C.envelope.sender && (!isOn C.policy.require_research_graph_algorithm ||
        vector.community_algorithm_id == profileAlgorithm C))
      (signedBy C.host (activeKey C.host identity vector.computed_at)
        (graphFeatureVectorV1Hash C.noble vector) vector.signature)
    return r.graph signed

def researchAlgorithmBlock (r : Report) : Report :=
  if isOn C.policy.require_research_graph_algorithm then
    let valid := profileAlgorithm C == some (js "louvain_modularity_v1") ||
      profileAlgorithm C == some (js "leiden_refinement_v1")
    ((r.check .research_graph_algorithm_valid valid).pushIf (!valid)
      ["TSL_GRAPH_ARTIFACTS_INVALID"]).graph valid
  else r

def manifoldFieldsPresent (vector : GraphFeatureVectorV1) : Bool :=
  [js "ppr_distance_bps", js "trusted_manifold_distance_bps",
    js "adversarial_manifold_distance_bps", js "cluster_distance_bps"].all fun name =>
      !(getField vector.toFields name).isUndefined

/-- `commitment === sha256Hex(canonicalBytes(opening ?? []))`. -/
def opens (commitment : Option Hex32) (opening : JsValue) : Js Bool := do
  let hash ← canonicalHash C.noble opening
  return commitment == some hash

def manifoldCommitmentsMatch (m : ManifoldProfile) : Js Bool := do
  if !(← opens C m.trusted_centroid_commitment (numberList (m.trusted_centroid_bps.getD []))) then
    return false
  if !(← opens C m.adversarial_centroid_commitment
    (numberList (m.adversarial_centroid_bps.getD []))) then return false
  if !(← opens C m.cluster_centroid_commitment (numberList (m.cluster_centroid_bps.getD []))) then
    return false
  opens C m.covariance_commitment (numberRows (m.inverse_covariance_bps.getD []))

def manifoldOpened (m : ManifoldProfile) : Js Bool := do
  let commitmentsPresent := truthy m.trusted_centroid_commitment &&
    truthy m.adversarial_centroid_commitment && truthy m.cluster_centroid_commitment &&
    truthy m.covariance_commitment
  let openingsPresent := nonEmptyList m.trusted_centroid_bps &&
    nonEmptyList m.adversarial_centroid_bps && nonEmptyList m.cluster_centroid_bps &&
    nonEmptyList m.inverse_covariance_bps
  let commitmentsMatch ← manifoldCommitmentsMatch C m
  return commitmentsPresent && openingsPresent && commitmentsMatch

/-- Fail the graph artifacts with an error, unless the condition holds. -/
def Report.requireGraph (r : Report) (condition : Bool) (error : String) : Report :=
  if condition then r else (r.check .graph_artifacts_valid false).push [error]

def exactFormulasBlock (r : Report) : Js Report :=
  match C.input.graph_feature_vector with
  | none => return r
  | some vector =>
    if isOn C.policy.require_exact_graph_formulas then do
      let r := r.requireGraph (manifoldFieldsPresent vector) "TSL_MANIFOLD_PROFILE_UNSUPPORTED"
      match C.input.graph_profile.bind GraphProfileV2.manifold_profile with
      | none => return r.requireGraph false "TSL_MANIFOLD_PROFILE_UNSUPPORTED"
      | some manifold =>
        if manifold.algorithm = .centroid_covariance_v1 then
          let opened ← manifoldOpened C manifold
          return r.requireGraph opened "TSL_MANIFOLD_PROFILE_UNSUPPORTED"
        else return r
    else return r

def seedGovernanceBlock (r : Report) : Js Report :=
  if isOn C.policy.require_seed_governance_opening then do
    let trustedSeeds := sortStrings (C.input.trusted_seeds.getD [])
    let adversarialSeeds := sortStrings (C.input.adversarial_seeds.getD [])
    let trustedCommitment ← canonicalHash C.noble (textList trustedSeeds)
    let adversarialCommitment ← canonicalHash C.noble (textList adversarialSeeds)
    let sets := C.input.graph_profile.map GraphProfileV2.seed_sets
    let trustedValid ← seedGovernanceProfileValid C C.input.trusted_seed_governance .trusted
      trustedSeeds (sets.map SeedSets.trusted_seed_commitment)
      (sets.bind SeedSets.trusted_seed_governance_commitment)
    let adversarialValid ← seedGovernanceProfileValid C C.input.adversarial_seed_governance
      .adversarial adversarialSeeds (sets.map SeedSets.adversarial_seed_commitment)
      (sets.bind SeedSets.adversarial_seed_governance_commitment)
    let valid := sets.map SeedSets.trusted_seed_commitment == some trustedCommitment &&
      sets.map SeedSets.adversarial_seed_commitment == some adversarialCommitment &&
      trustedValid && adversarialValid
    return ((r.check .seed_governance_valid valid).pushIf (!valid)
      ["TSL_SEED_GOVERNANCE_OPENING_INVALID"]).graph valid
  else return r

def sybilSignatureBlock (r : Report) : Js Report :=
  match C.input.sybil_assessment with
  | none => return r
  | some sybil => do
    let r := if isOn C.policy.require_sybil_provider_issuer && !truthy sybil.issuer then
        ((r.check .sybil_assessment_valid false).check .graph_artifacts_valid false).push
          ["TSL_SYBIL_PROVIDER_ISSUER_REQUIRED"]
      else r
    let identity ← C.resolver (sybil.issuer.getD sybil.subject) sybil.computed_at
    let signed ← guarded (r.notFailed .sybil_assessment_valid &&
      sybil.subject = C.envelope.sender)
      (signedBy C.host (activeKey C.host identity sybil.computed_at)
        (sybilAssessmentV1Hash C.noble sybil) sybil.signature)
    return (r.check .sybil_assessment_valid signed).graph signed

def driftSignatureBlock (r : Report) : Js Report :=
  match C.input.drift_report with
  | none => return r
  | some drift => do
    let r := if isOn C.policy.require_core_drift_formula &&
        (!truthy drift.issuer || drift.signature = js "0x00") then
        ((r.check .drift_report_valid false).check .graph_artifacts_valid false).push
          ["TSL_DRIFT_RECOMPUTATION_REQUIRED"]
      else r
    let identity ← C.resolver (drift.issuer.getD drift.subject) drift.computed_at
    let signed ← guarded (drift.subject = C.envelope.sender)
      (signedBy C.host (activeKey C.host identity drift.computed_at)
        (driftReportV1Hash C.noble drift) drift.signature)
    return (r.check .drift_report_valid signed).graph signed

def evidenceTime : RFC3339 :=
  match C.input.graph_feature_vector, C.input.sybil_assessment with
  | some vector, _ => vector.computed_at
  | none, some sybil => sybil.computed_at
  | none, none => C.envelope.timestamp

/-- The graph of the disclosed evidence, when there is an artifact to compare with it. -/
def evidenceGraph : Option (Js C.tools.GraphV0) :=
  match C.input.graph_profile with
  | none => none
  | some graph_profile =>
    if C.input.graph_feature_vector.isSome || C.input.sybil_assessment.isSome then
      some (C.tools.constructGraphFromEvidenceV0 {
        events := [C.envelope]
        receipts := C.input.receipts
        attestations := C.input.attestations
        attestations_v2 := C.input.attestations_v2
        receipt_disputes := C.input.receipt_disputes
        delegation_policies := C.input.delegation_policies
        resolver := C.resolver
        graph_profile
        at_time := evidenceTime C
        event_receivers := C.input.event_receivers })
    else none

def graphEvidenceError (message : String) : String :=
  if message = "TSL_NEGATIVE_EVIDENCE_INCOMPLETE" then message
  else if message = "TSL_GRAPH_EVENT_REPLAY_DETECTED" then message
  else "TSL_GRAPH_EVIDENCE_INVALID"

def recomputeVectorBlock (graph : C.tools.GraphV0) (r : Report) : Report :=
  match C.input.graph_profile, C.input.graph_feature_vector with
  | some profile, some vector =>
    match C.tools.computeGraphFeatureVectorV0 vector graph profile C.input.trusted_seeds
      C.input.adversarial_seeds with
    | .error message =>
      r.requireGraph false (if message = "TSL_MANIFOLD_PROFILE_UNSUPPORTED" then message
        else "TSL_GRAPH_ARTIFACTS_INVALID")
    | .ok recomputed =>
      let full := fieldsMatch graphMetrics recomputed.toFields vector.toFields
      (r.graph full).pushIf (!full) ["TSL_GRAPH_ARTIFACTS_INVALID"]
  | _, _ => r

def tierEvidencePresent (sybil : SybilAssessmentV1) : Bool :=
  match sybil.adversary_tier_assumed with
  | .B3 => sybil.compromise_evidence.isSome
  | .B4 => sybil.issuer_collusion_evidence.isSome
  | .B5 => sybil.infrastructure_collusion_evidence.isSome
  | _ => true

def recomputeSybilBlock (graph : C.tools.GraphV0) (r : Report) : Js Report :=
  match C.input.graph_profile, C.input.sybil_assessment with
  | some profile, some sybil => do
    let recomputed ← C.tools.computeSybilAssessmentV0 sybil graph profile C.input.trusted_seeds
      C.input.adversarial_seeds C.input.sybil_profile
    let sameSybil := sybilMatches C.host recomputed sybil
    let tierMissing := isOn C.policy.require_behavioral_sybil_tiers && !tierEvidencePresent sybil
    return ((r.pushIf tierMissing ["TSL_SYBIL_EVIDENCE_INCOMPLETE"]).graph
      (sameSybil && !tierMissing)).pushIf (!sameSybil) ["TSL_SYBIL_ARTIFACT_INVALID"]
  | _, _ => return r

def recomputeGraphBlock (r : Report) : Js Report :=
  match evidenceGraph C with
  | none => return r
  | some (.error message) => return r.requireGraph false (graphEvidenceError message)
  | some (.ok graph) => recomputeSybilBlock C graph (recomputeVectorBlock C graph r)

def recomputeDriftBlock (r : Report) : Js Report :=
  match C.input.drift_report with
  | none => return r
  | some drift => do
    let r := if isOn C.policy.require_core_drift_formula &&
        !nonEmptyList C.input.drift_feature_history then
        ((r.check .drift_report_valid false).check .graph_artifacts_valid false).push
          ["TSL_DRIFT_RECOMPUTATION_REQUIRED"]
      else r
    match C.input.drift_feature_history with
    | none => return r
    | some history => do
      let recomputed ← C.tools.computeDriftReportV0 drift history
        C.input.drift_cohort_baseline_components
      let sameDrift := driftMatches C.host recomputed drift
      return (r.graph sameDrift).pushIf (!sameDrift) ["TSL_DRIFT_ARTIFACT_INVALID"]

def covarianceDriftBlock (r : Report) : Report :=
  match C.input.drift_report with
  | none => r
  | some drift =>
    if isOn C.policy.require_full_covariance_drift then
      let valid := nonEmptyList C.input.drift_feature_history &&
        truthy drift.covariance_profile_commitment && truthy drift.feature_history_commitment
      ((r.check .full_covariance_drift_valid valid).pushIf (!valid)
        ["TSL_FULL_COVARIANCE_DRIFT_REQUIRED"]).graph valid
    else r

def graphErrorsBlock (r : Report) : Report :=
  r.pushIf (requireGraphArtifacts C && !r.passes .graph_artifacts_valid)
    ("TSL_GRAPH_ARTIFACTS_INVALID" :: (graphValidations C).flatMap fun validation =>
      (validation.map SchemaValidationResult.errors).getD [])

def graphScoped : Bool :=
  C.input.graph_profile.isSome || C.input.graph_feature_vector.isSome ||
    C.input.sybil_assessment.isSome || C.input.drift_report.isSome ||
    isOn C.policy.require_graph_artifacts

def graphBlock (r : Report) : Js Report :=
  if graphScoped C then do
    let r ← graphVectorBlock C (graphArtifactsBlock C r)
    let r ← exactFormulasBlock C (researchAlgorithmBlock C r)
    let r ← seedGovernanceBlock C r
    let r ← sybilSignatureBlock C r
    let r ← driftSignatureBlock C r
    let r ← recomputeGraphBlock C r
    let r ← recomputeDriftBlock C r
    return graphErrorsBlock C (covarianceDriftBlock C r)
  else return r

end Blocks

end Continuity
