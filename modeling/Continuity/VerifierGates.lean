import Continuity.AgentDelegation
import Continuity.Consistency
import Continuity.NonMembership
import Continuity.VerifierGraph

namespace Continuity
open Collections
set_option autoImplicit true

section Blocks

variable (C : Context)

def zkOptions : ZkOptions where
  require_registered_circuit := C.policy.require_registered_zk_circuit
  require_manifest_verification_key_hash := C.policy.require_manifest_verification_key_hash
  reject_dev_circuits := C.policy.reject_dev_zk_circuits
  manifests := C.input.zk_circuit_manifests
  registry := C.input.zk_verification_key_registry

def devCircuit (proof : ZkThresholdProofV1) : Bool :=
  !truthy proof.circuit_id || (js "dev_").isPrefixOf (proof.circuit_id.getD [])

def checkZkProof (proof : ZkThresholdProofV1) : Js ItemResult := do
  let validation := C.validate .zkThresholdProof (.obj proof.toFields)
  let valid ← guarded (validation.valid && proof.subject = C.envelope.sender)
    (C.tools.verifyThresholdProofAsync proof (zkOptions C))
  return {
    valid
    errors := if valid then [] else
      (if isOn C.policy.reject_dev_zk_circuits && devCircuit proof then
        ["TSL_ZK_DEV_CIRCUIT_REJECTED"] else []) ++ "TSL_ZK_PROOF_INVALID" :: validation.errors }

def zkBlock (r : Report) : Js Report :=
  if nonEmptyList C.input.zk_proofs || nonEmptyList C.policy.require_zk_claims then do
    let proofs := C.input.zk_proofs.getD []
    let results ← proofs.mapM (checkZkProof C)
    let validClaims := ((proofs.zip results).filter fun entry => entry.2.valid).map
      fun entry => entry.1.claim
    let missing := (C.policy.require_zk_claims.getD []).filter fun claim =>
      !validClaims.contains claim
    let r := if isOn C.policy.require_registered_zk_circuit && results.any ItemResult.valid then
        r.check .zk_circuit_registered true
      else r
    let r := r.record .zk_valid
      (results ++ missing.map fun _ => ⟨false, ["TSL_ZK_CLAIM_MISSING"]⟩)
    return r.explainIf (r.passes .zk_valid)
      "Required selective-disclosure threshold proofs are valid"
  else return r

def checkDelegation (delegation : AgentDelegationV1) : Js ItemResult := do
  let validation := C.validate .agentDelegation (.obj delegation.toFields)
  let valid ← guarded (validation.valid && delegation.agent = C.envelope.sender)
    (verifyAgentDelegation C.host C.resolver delegation C.policy.require_agent_scope
      C.envelope.timestamp)
  return { valid, errors := if valid then [] else "TSL_AGENT_SCOPE_INVALID" :: validation.errors }

def delegationsBlock (r : Report) : Js Report :=
  if nonEmptyList C.input.delegations || truthy C.policy.require_agent_scope then do
    let delegations := C.input.delegations.getD []
    let results ← delegations.mapM (checkDelegation C)
    let matched := (delegations.zip results).any fun (delegation, result) =>
      result.valid && (!truthy C.policy.require_agent_scope ||
        delegation.scope.contains (C.policy.require_agent_scope.getD []))
    let missing := truthy C.policy.require_agent_scope && !matched
    let r := r.record .agent_scope_valid
      (results ++ if missing then [⟨false, ["TSL_AGENT_SCOPE_INVALID"]⟩] else [])
    return r.explainIf (r.passes .agent_scope_valid) "Agent delegation scope is valid"
  else return r

/-- The key of the principal of a policy whose signature holds. -/
def checkDelegationPolicy (policy : DelegationPolicyV2) :
    Js (ItemResult × Option (TrustID × JsString)) := do
  let validation := C.validate .delegationPolicyV2 (.obj policy.toFields)
  let identity ← C.resolveIf validation.valid policy.principal policy.valid_from
  let principalKey := activeKey C.host identity policy.valid_from
  let signed ← guarded validation.valid
    (signedBy C.host principalKey (delegationPolicyV2Hash C.noble policy) policy.signature)
  if signed then
    return (⟨true, []⟩, principalKey.map fun key => (policy.principal, key.public_key))
  else return (⟨false, "TSL_DELEGATION_POLICY_INVALID" :: validation.errors⟩, none)

/-- The actions in order; each adds the key of its agent before it is checked. -/
def checkActions : OrderedMap TrustID JsString → List AgentActionV2 → Js (List ItemResult)
  | _, [] => return []
  | publicKeys, action :: rest => do
    let validation := C.validate .agentActionV2 (.obj action.toFields)
    let identity ← C.resolveIf validation.valid action.agent action.issued_at
    let publicKeys := match activeKey C.host identity action.issued_at with
      | some key => if key.type = .ed25519 then publicKeys.set action.agent key.public_key
        else publicKeys
      | none => publicKeys
    let result ← match validation.valid, C.input.delegation_policies with
      | true, some policies =>
        C.tools.verifyDelegatedAgentActionV0 action policies publicKeys action.issued_at
      | _, _ => pure { ok := false, error_code := some "TSL_DELEGATION_POLICY_MISSING" }
    let results ← checkActions publicKeys rest
    let item : ItemResult := {
      valid := result.ok
      errors := if result.ok then [] else
        result.error_code.getD "TSL_DELEGATED_ACTION_INVALID" :: validation.errors }
    return item :: results

def agentActionsBlock (r : Report) : Js Report :=
  if nonEmptyList C.input.agent_actions || nonEmptyList C.input.delegation_policies then do
    let policies ← (C.input.delegation_policies.getD []).mapM (checkDelegationPolicy C)
    let publicKeys := OrderedMap.ofEntries (policies.filterMap Prod.snd)
    let actions ← checkActions C publicKeys (C.input.agent_actions.getD [])
    return r.record .delegated_action_valid (policies.map Prod.fst ++ actions)
  else return r

def currentCheckpointHash : Js (Option Hex32) :=
  match C.input.checkpoint with
  | some checkpoint => some <$> checkpointHashForPolicy C.host checkpoint
  | none => return none

def checkConsistencyProof (proof : ConsistencyProofV1) : Js ItemResult := do
  let validation := C.validate .consistencyProof proof.toJs
  let current ← currentCheckpointHash C
  let valid := validation.valid && verifyConsistencyProof proof &&
    (!truthy current || current == some proof.to_checkpoint)
  return {
    valid
    errors := if valid then [] else "TSL_CONSISTENCY_PROOF_INVALID" :: validation.errors }

/-- A list of proofs of which the policy may require a valid one. -/
def Report.gate (r : Report) (name : CheckName) (required : Bool) (results : List ItemResult)
    (missing text : String) : Report :=
  let results := results ++
    if required && !results.any ItemResult.valid then [⟨false, [missing]⟩] else []
  let r := r.record name results
  r.explainIf (r.passes name) text

def consistencyBlock (r : Report) : Js Report :=
  if nonEmptyList C.input.consistency_proofs || isOn C.policy.require_consistency_proof then do
    let results ← (C.input.consistency_proofs.getD []).mapM (checkConsistencyProof C)
    return r.gate .consistency_proof_valid (isOn C.policy.require_consistency_proof) results
      "TSL_CONSISTENCY_PROOF_MISSING" "Checkpoint consistency proof is valid"
  else return r

def sparseRequired : Bool := isOn C.policy.require_sparse_merkle_revocation_root

def sparseShape (proof : SetNonMembershipProofV1) : Bool :=
  truthy proof.tree_id && truthy proof.root && truthy proof.root_checkpoint &&
    truthy proof.leaf_index_commitment && truthy proof.leaf_value_commitment &&
    nonEmptyList proof.sibling_path

/-- The proof is about the revocation root of the disclosed checkpoint. -/
def checkpointRootBound (proof : SetNonMembershipProofV1) : Js Bool :=
  if sparseRequired C then
    match C.input.checkpoint with
    | none => return false
    | some checkpoint => do
      let hash ← checkpointHashForPolicy C.host checkpoint
      return proof.root_checkpoint == some hash &&
        proof.root == some checkpoint.revocation_root &&
        proof.set_root == checkpoint.revocation_root
  else return true

def nonMembershipValid (proof : SetNonMembershipProofV1) (schemaValid : Bool) : Js Bool := do
  let bound ← checkpointRootBound C proof
  guarded (schemaValid && proof.subject = C.envelope.sender &&
    (!sparseRequired C || sparseShape proof) && bound)
    (verifyNonMembershipProof C.noble C.host.env proof)

def checkNonMembershipProof (proof : SetNonMembershipProofV1) : Js ItemResult := do
  let validation := C.validate .nonMembershipProof proof.toJs
  let valid ← nonMembershipValid C proof validation.valid
  return {
    valid
    errors := if valid then [] else "TSL_NON_MEMBERSHIP_PROOF_INVALID" :: validation.errors }

def nonMembershipBlock (r : Report) : Js Report :=
  if nonEmptyList C.input.non_membership_proofs || isOn C.policy.require_non_membership_proof
  then do
    let results ← (C.input.non_membership_proofs.getD []).mapM (checkNonMembershipProof C)
    return r.gate .non_membership_proof_valid (isOn C.policy.require_non_membership_proof) results
      "TSL_NON_MEMBERSHIP_PROOF_MISSING" "Required non-membership proof is valid"
  else return r

def governancePolicyBlock (r : Report) : Js Report :=
  match C.input.governance_policy with
  | none =>
    if isOn C.policy.require_governance_policy then
      return (r.check .governance_policy_valid false).push ["TSL_GOVERNANCE_POLICY_MISSING"]
    else return r
  | some governance => do
    let validation := C.validate .governancePolicy (.obj governance.toFields)
    let identity ← C.resolver governance.authority governance.issued_at
    let accepted := !truthy C.policy.accepted_governance_policy ||
      C.policy.accepted_governance_policy == some governance.policy_id
    let notExpired := !truthy governance.expires_at ||
      timeLt (some C.host.now) (C.host.parse (governance.expires_at.getD []))
    let valid ← guarded (accepted && validation.valid && notExpired &&
      !governance.emergency_pause)
      (signedBy C.host (namedKey identity governance.authority_key_id)
        (governancePolicyHash C.noble governance) governance.signature)
    let r := r.check .governance_policy_valid valid
    if valid then return r.explainIf true "Accepted governance policy is valid"
    else return r.push ("TSL_GOVERNANCE_POLICY_INVALID" :: validation.errors ++
      (if accepted then [] else ["TSL_GOVERNANCE_POLICY_NOT_ACCEPTED"]) ++
      (if notExpired then [] else ["TSL_GOVERNANCE_POLICY_EXPIRED"]) ++
      (if governance.emergency_pause then ["TSL_GOVERNANCE_EMERGENCY_PAUSED"] else []))

def checkAuditFinding (finding : AuditFindingV1) : Js ItemResult := do
  let validation := C.validate .auditFinding (.obj finding.toFields)
  let auditorAllowed := acceptedBy C.policy.accepted_auditors finding.auditor
  let identity ← C.resolveIf validation.valid finding.auditor finding.issued_at
  let signatureValid ← signedBy C.host (activeKey C.host identity finding.issued_at)
    (auditFindingHash C.noble finding) finding.signature
  let expected ← currentCheckpointHash C
  let checkpointMatches := C.input.checkpoint.isNone ||
    (finding.checkpoint_hash.isSome && finding.checkpoint_hash == expected)
  let valid := validation.valid && auditorAllowed && signatureValid && checkpointMatches &&
    finding.severity ≠ .critical
  return {
    valid
    errors := if valid then [] else "TSL_AUDIT_FINDING_INVALID" :: validation.errors ++
      (if auditorAllowed then [] else ["TSL_AUDITOR_NOT_ACCEPTED"]) ++
      (if signatureValid then [] else ["TSL_AUDIT_SIGNATURE_INVALID"]) ++
      (if checkpointMatches then [] else ["TSL_AUDIT_CHECKPOINT_MISMATCH"]) ++
      (if finding.severity = .critical then ["TSL_AUDIT_CRITICAL_FINDING"] else []) }

def auditBlock (r : Report) : Js Report :=
  if nonEmptyList C.input.audit_findings || isOn C.policy.require_audit_consistency then do
    let results ← (C.input.audit_findings.getD []).mapM (checkAuditFinding C)
    return r.gate .audit_consistency_valid (isOn C.policy.require_audit_consistency) results
      "TSL_AUDIT_CONSISTENCY_INVALID" "Accepted audit findings are valid and non-critical"
  else return r

def unsafeFixtureSignatureAllowed : Bool :=
  C.host.flag "ALLOW_UNSAFE_CHECKPOINT_SIGNATURE_FIXTURES" &&
    !(isOn C.policy.reject_unsafe_fixtures_on_mainnet && C.host.onMainnet)

def checkpointSigned (checkpoint : BatchCheckpointV1) : Js Bool := do
  let identity ← C.resolver checkpoint.relay_id C.envelope.timestamp
  if unsafeFixtureSignatureAllowed C && checkpoint.relay_signature = js "0x00" then return true
  signedBy C.host (activeKey C.host identity C.envelope.timestamp)
    (checkpointHashForPolicy C.host checkpoint) checkpoint.relay_signature

def checkpointIdentityMatches (checkpoint : BatchCheckpointV1) : Js Bool :=
  if truthy checkpoint.checkpoint_identity_hash then do
    let hash ← checkpointHashForPolicy C.host checkpoint
    return checkpoint.checkpoint_identity_hash == some hash
  else return true

def authorizedRelayBlock (checkpoint : BatchCheckpointV1) (signed : Bool) (r : Report) : Report :=
  if isOn C.policy.require_authorized_relay then
    let valid := signed && acceptedBy C.policy.authorized_relays checkpoint.relay_id
    (r.check .authorized_relay_valid valid).pushIf (!valid) ["TSL_RELAY_NOT_AUTHORIZED"]
  else r

def checkpointBlock (r : Report) : Js Report :=
  match C.input.checkpoint with
  | none => return r
  | some checkpoint => do
    let validation := C.validate .checkpoint (.obj checkpoint.toFields)
    let r := r.check .checkpoint_valid validation.valid
    if !validation.valid then return r.push ("TSL_CHECKPOINT_INVALID" :: validation.errors)
    let identityMatches ← checkpointIdentityMatches C checkpoint
    let r := if identityMatches then r
      else (r.check .checkpoint_valid false).push ["TSL_CHECKPOINT_IDENTITY_MISMATCH"]
    let signed ← checkpointSigned C checkpoint
    let r := (r.check .checkpoint_signature_valid signed).pushIf (!signed)
      ["TSL_CHECKPOINT_SIGNATURE_INVALID"]
    return authorizedRelayBlock C checkpoint signed r

/-- The proof names the segment, the hash and the root of the checkpoint. -/
def proofMatchesCheckpoint (proof : InclusionProofV1) (checkpoint : BatchCheckpointV1) :
    Js Bool := do
  if proof.epoch_start_ms.strictEq checkpoint.epoch_start_ms &&
    proof.epoch_duration_ms.strictEq checkpoint.epoch_duration_ms &&
    proof.shard = checkpoint.shard then
    let hash ← checkpointHashForPolicy C.host checkpoint
    return proof.checkpoint_hash == hash &&
      checkpointRootForKind checkpoint proof.tree_kind == proof.root
  else return false

def checkpointMatchBlock (r : Report) : Js Report :=
  match C.input.proof, C.input.checkpoint with
  | some proof, some checkpoint =>
    if r.passes .checkpoint_valid then do
      let sameRoot ← proofMatchesCheckpoint C proof checkpoint
      return (r.check .checkpoint_matches_proof sameRoot).explainIf sameRoot
        "Checkpoint root matches inclusion proof"
    else return r
  | _, _ => return r

def settlementEvidenceBlock (r : Report) : Js Report :=
  match C.input.checkpoint, C.input.settlement_evidence with
  | some checkpoint, some (evidence :: rest) => do
    let hash ← checkpointHashForPolicy C.host checkpoint
    let outcome ← settlementEvidenceMatchesCheckpoint C checkpoint (evidence :: rest) hash
    let r := (r.check .settlement_evidence_valid outcome.ok).check .checkpoint_settled outcome.ok
    if outcome.ok then
      return (r.settle .settled).explainIf true "Checkpoint settlement evidence is valid"
    else
      return (r.push [outcome.error_code.getD "TSL_SETTLEMENT_EVIDENCE_INVALID"]).settle .mismatch
  | _, _ => return r

def settlementErrorStatus (error : String) : SettlementStatus :=
  if includesText error "MISMATCH" then .mismatch
  else if includesText error "UNAVAILABLE" then .unavailable
  else .pending

def settlementBackendBlock (r : Report) : Js Report :=
  match C.input.checkpoint, C.backend with
  | some checkpoint, some backend =>
    if r.passes .checkpoint_settled then return r
    else do
      let settlement ← backend.verifyCheckpointSettlement checkpoint
      let r := r.check .checkpoint_settled settlement.settled
      if settlement.settled then
        return (r.explainIf true "Checkpoint is settled in configured settlement backend").settle
          .settled
      else match settlement.error with
        | some error =>
          if error = "" then return r
          else return (r.push [error]).settle (settlementErrorStatus error)
        | none => return r
  | _, _ => return r

def finalGateMatches (gate : GateResult) (r : Report) : Bool :=
  agrees gate.checkpoint_valid (r.checks .checkpoint_matches_proof) &&
    agrees gate.settlement_satisfied (r.checks .checkpoint_settled) &&
    agrees gate.delegation_valid (r.checks .delegated_action_valid)

def coverageMatches (assessment : TrustAssessmentV2) : Js Bool :=
  match C.input.evidence_coverage with
  | none => return true
  | some coverage =>
    if assessment.coverage_bps.strictEq coverage.coverage_bps then
      if truthy assessment.evidence_coverage_commitment then do
        let hash ← canonicalHash C.noble (.obj coverage.toFields)
        return assessment.evidence_coverage_commitment == some hash
      else return true
    else return false

def finalAssessmentBlock (r : Report) : Js Report :=
  match C.input.assessment_v2 with
  | none => return r
  | some assessment => do
    let gate := finalGateMatches assessment.gate_result r
    let coverage ← coverageMatches C assessment
    if gate && coverage then return r
    else
      let r := r.check .trust_assessment_v2_valid false
      return (r.pushIf (!gate) ["TSL_ASSESSMENT_GATE_MISMATCH"]).pushIf (!coverage)
        ["TSL_EVIDENCE_COVERAGE_INVALID"]

end Blocks

end Continuity
