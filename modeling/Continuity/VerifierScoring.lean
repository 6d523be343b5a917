import Continuity.VerifierEvidence

namespace Continuity
set_option autoImplicit true

/-- `!accepted?.length || accepted.includes(value)`. -/
def acceptedBy (accepted : Option (List JsString)) (value : JsString) : Bool :=
  match accepted with
  | some (first :: rest) => (first :: rest).contains value
  | _ => true

/-- The identity of a signer, looked up only for an object that its schema accepts. -/
def Context.resolveIf (C : Context) (valid : Bool) (trustId : TrustID) (timestamp : RFC3339) :
    Js (Option IdentityDocumentV1) :=
  if valid then C.resolver trustId timestamp else return none

section Blocks

variable (C : Context)

def maxAgeOk (issued_at : RFC3339) : Bool :=
  match C.policy.max_assessment_age_ms, C.host.parse issued_at with
  | none, _ => true
  | some age, some issued => (JsNumber.ofInt (C.host.now - issued)).le age
  | some _, none => false

def hasEvidence (assessment : TrustAssessmentV1) : Bool :=
  !assessment.evidence_commitment.isEmpty && nonEmptyList assessment.features_disclosed &&
    nonEmptyList assessment.explanation

/-- The registry entries of the issuer, when the policy asks for them. -/
def providerRegistryBlock (assessment : TrustAssessmentV1) (r : Report) : Js Report :=
  if isOn C.policy.require_provider_registry then
    match C.backend.bind SettlementBackend.isProviderActive,
      C.backend.bind SettlementBackend.isModelRegistered with
    | some isProviderActive, some isModelRegistered => do
      let active ← isProviderActive assessment.issuer
      let registered ← isModelRegistered assessment.issuer assessment.model_version
      return (r.check .provider_active active).check .model_registered registered
    | _, _ =>
      let r := (r.check .provider_active false).check .model_registered false
      return r.push ["TSL_PROVIDER_REGISTRY_UNAVAILABLE"]
  else return r

def assessmentSigned (assessment : TrustAssessmentV1) (issuerKey : Option VerificationMethodV1)
    (valid : Bool) (r : Report) : Js Bool :=
  guarded (valid && assessment.subject = C.envelope.sender &&
    timeLt (some C.host.now) (C.host.parse assessment.expires_at) &&
    acceptedBy C.policy.accepted_scoring_providers assessment.issuer &&
    maxAgeOk C assessment.issued_at && hasEvidence assessment &&
    (!isOn C.policy.require_provider_registry ||
      (r.passes .provider_active && r.passes .model_registered)))
    (signedBy C.host issuerKey (assessmentHash C.noble assessment) assessment.signature)

def assessmentErrors (assessment : TrustAssessmentV1) (validation : SchemaValidationResult)
    (r : Report) : List String :=
  "TSL_ASSESSMENT_INVALID" :: validation.errors ++
    (if acceptedBy C.policy.accepted_scoring_providers assessment.issuer then []
      else ["TSL_PROVIDER_NOT_ACCEPTED"]) ++
    (if maxAgeOk C assessment.issued_at then [] else ["TSL_ASSESSMENT_TOO_OLD"]) ++
    (if hasEvidence assessment then [] else ["TSL_ASSESSMENT_EVIDENCE_INCOMPLETE"]) ++
    (if isOn C.policy.require_provider_registry && !r.notFailed .provider_active then
      ["TSL_PROVIDER_INACTIVE"] else []) ++
    (if isOn C.policy.require_provider_registry && !r.notFailed .model_registered then
      ["TSL_MODEL_NOT_REGISTERED"] else [])

def assessmentBlock (r : Report) : Js Report :=
  match C.input.assessment with
  | none => return r
  | some assessment => do
    let validation := C.validate .trustAssessment (.obj assessment.toFields)
    let identity ← C.resolveIf validation.valid assessment.issuer assessment.issued_at
    let issuerKey := activeKey C.host identity assessment.issued_at
    let r ← providerRegistryBlock C assessment r
    let valid ← assessmentSigned C assessment issuerKey validation.valid r
    let r := r.check .assessment_valid valid
    if valid then return (r.explainIf true "Signed trust assessment is valid").rate assessment.label
    else return r.push (assessmentErrors C assessment validation r)

def scoringProfileBlock (r : Report) : Js Report :=
  match C.input.scoring_profile with
  | some profile => do
    let validation := C.validate .scoringProfileV2 (.obj profile.toFields)
    let identity ← C.resolveIf validation.valid profile.provider profile.issued_at
    let accepted := acceptedBy C.policy.accepted_scoring_profiles profile.profile_id
    let valid ← guarded (validation.valid && accepted &&
      timeLe (C.host.parse profile.valid_after) (C.host.parse C.envelope.timestamp) &&
      timeLt (C.host.parse C.envelope.timestamp) (C.host.parse profile.expires_at))
      (signedBy C.host (activeKey C.host identity profile.issued_at)
        (scoringProfileV2Hash C.noble profile) profile.signature)
    return (r.check .scoring_profile_valid valid).pushIf (!valid)
      ("TSL_SCORING_PROFILE_INVALID" :: validation.errors ++
        (if accepted then [] else ["TSL_SCORING_PROFILE_NOT_ACCEPTED"]))
  | none =>
    if isOn C.policy.require_v2_assessment then
      return (r.check .scoring_profile_valid false).push ["TSL_SCORING_PROFILE_MISSING"]
    else return r

def domainPolicyBlock (r : Report) : Report :=
  match C.input.domain_policy with
  | some domainPolicy =>
    let validation := C.validate .domainPolicyV1 (.obj domainPolicy.toFields)
    let valid := validation.valid && (!truthy C.policy.required_domain_policy ||
      C.policy.required_domain_policy == some domainPolicy.domain)
    (r.check .domain_policy_valid valid).pushIf (!valid)
      ("TSL_DOMAIN_POLICY_INVALID" :: validation.errors)
  | none =>
    if truthy C.policy.required_domain_policy then
      (r.check .domain_policy_valid false).push ["TSL_DOMAIN_POLICY_MISSING"]
    else r

def evidenceCoverageBlock (r : Report) : Report :=
  match C.input.evidence_coverage with
  | some coverage =>
    let validation := C.validate .evidenceCoverageV1 (.obj coverage.toFields)
    (r.check .evidence_coverage_valid validation.valid).pushIf (!validation.valid)
      ("TSL_EVIDENCE_COVERAGE_INVALID" :: validation.errors)
  | none => r

/-- The provider of the scoring profile, else the issuer of the assessment. -/
def expectedProvider : Option TrustID :=
  (C.input.scoring_profile.map ScoringProfileV2.provider).or
    (C.input.assessment_v2.map TrustAssessmentV2.issuer)

def governanceSigned (governance : ProviderGovernanceStatusV1) : Js Bool := do
  let identity ← C.resolveIf (truthy (expectedProvider C)) ((expectedProvider C).getD [])
    governance.issued_at
  guarded (truthy governance.signature) (signedBy C.host
    (liveKey C.host identity governance.issued_at)
    (unsignedObjectHash C.noble governance.toFields) (governance.signature.getD []))

def providerGovernanceBlock (r : Report) : Js Report :=
  if isOn C.policy.require_provider_governance_active then
    match C.input.provider_governance_status with
    | none =>
      return (r.check .provider_governance_valid false).push ["TSL_SCORING_GOVERNANCE_INVALID",
        "TSL_PROVIDER_GOVERNANCE_SIGNATURE_INVALID", "TSL_PROVIDER_INACTIVE"]
    | some governance => do
      let validation := C.validate .providerGovernanceStatusV1 (.obj governance.toFields)
      let signed ← governanceSigned C governance
      let valid := validation.valid && expectedProvider C == some governance.provider &&
        governance.status = .active && governance.model_registered &&
        governance.promotion_gate_result = .pass && governance.red_team_result = .pass &&
        governance.privacy_leakage_bps.le (.ofNat 1000) && signed
      return (r.check .provider_governance_valid valid).pushIf (!valid)
        (validation.errors ++ ["TSL_SCORING_GOVERNANCE_INVALID"] ++
          (if signed then [] else ["TSL_PROVIDER_GOVERNANCE_SIGNATURE_INVALID"]) ++
          ["TSL_PROVIDER_INACTIVE"] ++
          (if governance.model_registered then [] else ["TSL_MODEL_NOT_REGISTERED"]))
  else return r

/-- `stated === undefined || stated === actual`. -/
def agrees (stated actual : Option Bool) : Bool := stated.isNone || stated == actual

def gateMatches (gate : GateResult) (r : Report) : Bool :=
  r.checks .schema_valid == some gate.schema_valid &&
    r.checks .signature_valid == some gate.signature_valid &&
    r.checks .key_active == some gate.key_active &&
    r.checks .not_revoked == some gate.not_revoked &&
    agrees gate.included_in_log (r.checks .included_in_log)

def assessmentV2Block (r : Report) : Js Report :=
  match C.input.assessment_v2 with
  | some assessment => do
    let validation := C.validate .trustAssessmentV2 (.obj assessment.toFields)
    let identity ← C.resolveIf validation.valid assessment.issuer assessment.issued_at
    let profileMatches := C.input.scoring_profile.all fun profile =>
      assessment.scoring_profile_id == profile.profile_id
    let domainMatches := C.input.domain_policy.all fun policy => assessment.domain == policy.domain
    let gate := gateMatches assessment.gate_result r
    let issuerMatches := C.input.scoring_profile.all fun profile =>
      assessment.issuer == profile.provider
    let valid ← guarded (validation.valid && assessment.subject = C.envelope.sender &&
      timeLt (some C.host.now) (C.host.parse assessment.expires_at) && profileMatches &&
      domainMatches && gate && issuerMatches)
      (signedBy C.host (activeKey C.host identity assessment.issued_at)
        (trustAssessmentV2Hash C.noble assessment) assessment.signature)
    let r := r.check .trust_assessment_v2_valid valid
    if valid then
      return (r.explainIf true "Signed v2 trust assessment is valid").rate assessment.label.risk
    else return r.push ("TSL_TRUST_ASSESSMENT_V2_INVALID" :: validation.errors ++
      (if gate then [] else ["TSL_ASSESSMENT_GATE_MISMATCH"]))
  | none =>
    if isOn C.policy.require_v2_assessment then
      return (r.check .trust_assessment_v2_valid false).push ["TSL_TRUST_ASSESSMENT_V2_MISSING"]
    else return r

def scoringBlock (r : Report) : Js Report :=
  if C.input.scoring_profile.isSome || C.input.assessment_v2.isSome ||
    isOn C.policy.require_v2_assessment then do
    let r ← scoringProfileBlock C r
    let r := evidenceCoverageBlock C (domainPolicyBlock C r)
    let r ← providerGovernanceBlock C r
    assessmentV2Block C r
  else return r

def checkFingerprint (fingerprint : MetadataFingerprintCommitmentV1) : Js ItemResult := do
  let validation := C.validate .metadataFingerprintCommitmentV1 (.obj fingerprint.toFields)
  let identity ← C.resolveIf validation.valid fingerprint.subject fingerprint.expires_at
  let valid ← guarded (validation.valid && fingerprint.subject = C.envelope.sender)
    (signedBy C.host (activeKey C.host identity C.envelope.timestamp)
      (metadataFingerprintCommitmentV1Hash C.noble fingerprint) fingerprint.signature)
  return {
    valid
    errors := if valid then [] else "TSL_METADATA_FINGERPRINT_INVALID" :: validation.errors }

def metadataBlock (r : Report) : Js Report :=
  if nonEmptyList C.input.metadata_fingerprints ||
    isOn C.policy.require_metadata_fingerprint_policy then do
    let results ← (C.input.metadata_fingerprints.getD []).mapM (checkFingerprint C)
    let r := r.record .metadata_fingerprint_valid results
    if isOn C.policy.require_metadata_fingerprint_policy &&
      !nonEmptyList C.input.metadata_fingerprints then
      return (r.check .metadata_fingerprint_valid false).push ["TSL_METADATA_FINGERPRINT_MISSING"]
    else return r
  else return r

end Blocks

end Continuity
