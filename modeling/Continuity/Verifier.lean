import Continuity.VerifierGates

namespace Continuity
open Frames
set_option autoImplicit true

structure VerificationResult where
  verified : Bool
  commitment_hash : Option Hex32
  event_hash : Option Hex32
  checks : VerificationChecks
  settlement_status : Option SettlementStatus
  /-- `none` for "not_assessed". -/
  risk_label : Option AssessmentLabel
  explanation : List String
  errors : List String

/-- The blocks of the verifier after the key is checked, in their order. -/
def verifierBlocks (C : Context) : List (Report → Js Report) :=
  [chainRevocationBlock C, fun r => return explainKeyBlock r, revocationsBlock C,
    messageDisclosureBlock C, proofBlock C, receiptsBlock C, attestationsBlock C,
    attestationsV2Block C, privateFieldsBlock C, assessmentBlock C, scoringBlock C,
    metadataBlock C, graphBlock C, zkBlock C, delegationsBlock C, agentActionsBlock C,
    consistencyBlock C, nonMembershipBlock C, governancePolicyBlock C, auditBlock C,
    checkpointBlock C, checkpointMatchBlock C, settlementEvidenceBlock C,
    settlementBackendBlock C, finalAssessmentBlock C]

def finalErrors (policy : VerifierPolicy Option) (r : Report) : List String :=
  (if r.passes .key_found then [] else ["TSL_KEY_NOT_FOUND"]) ++
    (if r.passes .key_found && !r.passes .key_active then ["TSL_KEY_INACTIVE"] else []) ++
    (if r.passes .not_revoked then [] else ["TSL_KEY_REVOKED"]) ++
    (if r.passes .signature_valid then [] else ["TSL_SIGNATURE_INVALID"]) ++
    (if r.notFailed .content_commitment_matches then [] else ["TSL_CONTENT_COMMITMENT_MISMATCH"]) ++
    (if isOn policy.require_inclusion && !r.passes .included_in_log then
      ["TSL_INCLUSION_INVALID"] else []) ++
    (if isOn policy.require_checkpoint && !r.passes .checkpoint_matches_proof then
      ["TSL_CHECKPOINT_INVALID"] else []) ++
    (if isOn policy.require_settlement && !r.passes .checkpoint_settled then
      ["TSL_SETTLEMENT_MISSING"] else [])

/-- The checks that have to hold in any case. -/
def mandatoryChecks : List CheckName :=
  [.schema_valid, .signature_valid, .key_found, .key_active, .not_revoked]

/-- The checks that pass unless they were made and failed. -/
def optionalChecks : List CheckName :=
  [.content_commitment_matches, .disclosure_consent_valid, .checkpoint_signature_valid,
    .redaction_manifest_valid, .receipt_valid, .attestation_valid, .revocation_state_valid,
    .assessment_valid, .trust_assessment_v2_valid, .scoring_profile_valid,
    .domain_policy_valid, .evidence_coverage_valid, .metadata_fingerprint_valid,
    .graph_artifacts_valid, .sybil_assessment_valid, .drift_report_valid,
    .delegated_action_valid, .zk_valid, .agent_scope_valid, .consistency_proof_valid,
    .non_membership_proof_valid, .zk_circuit_registered, .research_graph_algorithm_valid,
    .provider_governance_valid, .seed_governance_valid, .full_covariance_drift_valid,
    .authorized_relay_valid, .governance_policy_valid, .audit_consistency_valid]

/-- The checks that the policy turns into required ones. -/
def requiredChecks (policy : VerifierPolicy Option) (input : ExpandedInput) :
    List (Bool × CheckName) :=
  [(isOn policy.require_chain_revocation, .chain_revocation_checked),
    (nonEmptyList policy.require_zk_claims, .zk_valid),
    (truthy policy.require_agent_scope, .agent_scope_valid),
    (isOn policy.require_consistency_proof, .consistency_proof_valid),
    (isOn policy.require_non_membership_proof, .non_membership_proof_valid),
    (isOn policy.require_registered_zk_circuit, .zk_circuit_registered),
    (isOn policy.require_research_graph_algorithm, .research_graph_algorithm_valid),
    (isOn policy.require_provider_governance_active, .provider_governance_valid),
    (isOn policy.require_seed_governance_opening, .seed_governance_valid),
    (isOn policy.require_full_covariance_drift, .full_covariance_drift_valid),
    (isOn policy.require_authorized_relay, .authorized_relay_valid),
    (isOn policy.require_receipt_inclusion_for_disclosed_receipts && nonEmptyList input.receipts,
      .receipt_included),
    (isOn policy.require_governance_policy, .governance_policy_valid),
    (isOn policy.require_audit_consistency, .audit_consistency_valid),
    (isOn policy.require_v2_assessment, .trust_assessment_v2_valid),
    (isOn policy.require_metadata_fingerprint_policy, .metadata_fingerprint_valid),
    (isOn policy.require_graph_artifacts, .graph_artifacts_valid),
    (isOn policy.require_inclusion, .included_in_log),
    (isOn policy.require_checkpoint, .checkpoint_matches_proof),
    (isOn policy.require_settlement, .checkpoint_settled)]

def verdict (policy : VerifierPolicy Option) (input : ExpandedInput) (r : Report) : Bool :=
  mandatoryChecks.all r.passes && optionalChecks.all r.notFailed && r.errors.isEmpty &&
    !r.errors.contains "TSL_UNSAFE_FIXTURE_POLICY_ENABLED" &&
    (requiredChecks policy input).all fun (required, name) => !required || r.passes name

/-- The report before the envelope is looked at. -/
def openingReport (H : Host) (policy : VerifierPolicy Option) (input : ExpandedInput)
    (errors : List String) : Report :=
  redactionBlock H input (bundleBlock H input (unsafeFixturesBlock H policy {
    checks := defaultChecks
    errors
    explanation := []
    settlement_status := if isOn policy.require_settlement then .pending else .not_required
    risk_label := none }))

/-- The result of a run that stops early. -/
def rejected (r : Report) (event_hash : Option Hex32) : VerificationResult where
  verified := false
  commitment_hash := none
  event_hash
  checks := r.checks
  settlement_status := none
  risk_label := none
  explanation := r.explanation
  errors := r.errors

def closingResult (C : Context) (event_hash : Hex32) (r : Report) : VerificationResult :=
  let r := r.push (finalErrors C.policy r)
  { verified := verdict C.policy C.input r
    commitment_hash := some C.commitmentHash
    event_hash := some event_hash
    checks := r.checks
    settlement_status := some r.settlement_status
    risk_label := r.risk_label
    explanation := r.explanation
    errors := unique r.errors }

/-- The rest of the run for an envelope that its schema accepts. -/
def verifyEnvelope (H : Host) (tools : Recomputation) (resolver : TrustResolver)
    (policy : VerifierPolicy Option) (backend : Option SettlementBackend) (input : ExpandedInput)
    (envelope : EventCommitmentV1) (r : Report) : Js VerificationResult := do
  let event_hash ← eventHash H.noble envelope
  let some identity ← resolver envelope.sender envelope.timestamp
    | return rejected (r.push ["TSL_KEY_NOT_FOUND"]) (some event_hash)
  let commitmentHash ← commitmentHashFromParts H.noble event_hash envelope.signature
  let legacyCommitmentHash ← legacyCommitmentHashFromParts H.noble event_hash envelope.signature
  let C : Context := ⟨H, tools, resolver, policy, backend, input, envelope, commitmentHash,
    legacyCommitmentHash⟩
  let r ← keyBlock C identity event_hash r
  let r ← pipeline (verifierBlocks C) r
  return closingResult C event_hash r

def verifyTSL (H : Host) (tools : Recomputation) (input : VerifyTSLInput)
    (resolver : TrustResolver) (policy : VerifierPolicy JsField)
    (backend : Option SettlementBackend) : Js VerificationResult :=
  let policy := policy.withDefaults
  let (input, errors) := expandProofBundleInput H input
  let r := openingReport H policy input errors
  let validation := H.validateSchema .event
    (optional (fun e => .obj (EventCommitmentV1.toFields e)) input.envelope)
  let r := r.check .schema_valid validation.valid
  if !validation.valid then
    return rejected (r.push ("TSL_SCHEMA_INVALID" :: validation.errors)) none
  else match input.envelope with
    | some envelope => verifyEnvelope H tools resolver policy backend input envelope r
    | none => throw "TypeError: Cannot use 'in' operator to search for 'signature' in undefined"

end Continuity
