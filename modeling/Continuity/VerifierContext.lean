import Continuity.Identity
import Continuity.ProofBundle

namespace Continuity
open Collections
set_option autoImplicit true

structure Outcome where
  ok : Bool
  error_code : Option String

structure SettlementVerificationResult where
  settled : Bool
  error : Option String

/-- The methods of a settlement backend that the code calls. -/
structure SettlementBackend where
  settlementBackendId : Option JsString
  submitCheckpoint : BatchCheckpointV1 → Js BatchCheckpointV1
  verifyCheckpointSettlement : BatchCheckpointV1 → Js SettlementVerificationResult
  isKeyRevokedAt : Option (TrustID → JsString → Option Int → Js Bool)
  isProviderActive : Option (TrustID → Js Bool)
  isModelRegistered : Option (TrustID → JsString → Js Bool)

structure ZkOptions where
  require_registered_circuit : Option Bool
  require_manifest_verification_key_hash : Option Bool
  reject_dev_circuits : Option Bool
  manifests : Option (List ZkCircuitReleaseManifestV1)
  registry : Option ZkVerificationKeyRegistryV1

structure GraphEvidenceInput where
  events : List EventCommitmentV1
  receipts : Option (List ReceiptCommitmentV1)
  attestations : Option (List AttestationV1)
  attestations_v2 : Option (List AttestationV2)
  receipt_disputes : Option JsObject
  delegation_policies : Option (List DelegationPolicyV2)
  resolver : TrustResolver
  graph_profile : GraphProfileV2
  at_time : RFC3339
  event_receivers : Option JsObject

structure OfflineEvidenceInput where
  evidence : SettlementEvidenceV1
  checkpoint : BatchCheckpointV1
  checkpoint_hash : Hex32
  contract_checkpoint_fields_hash : Hex32
  policy : VerifierPolicy Option

/-- The graph, drift, delegation, circuit and chain computations that the verifier calls; the
results about it hold for every choice of them. -/
structure Recomputation where
  GraphV0 : Type
  constructGraphFromEvidenceV0 : GraphEvidenceInput → Js GraphV0
  computeGraphFeatureVectorV0 : GraphFeatureVectorV1 → GraphV0 → GraphProfileV2 →
    Option (List TrustID) → Option (List TrustID) → Js GraphFeatureVectorV1
  computeSybilAssessmentV0 : SybilAssessmentV1 → GraphV0 → GraphProfileV2 →
    Option (List TrustID) → Option (List TrustID) → Option JsObject → Js SybilAssessmentV1
  computeDriftReportV0 : DriftReportV1 → List JsValue → Option (List JsValue) → Js DriftReportV1
  verifyDelegatedAgentActionV0 : AgentActionV2 → List DelegationPolicyV2 →
    OrderedMap TrustID JsString → RFC3339 → Js Outcome
  verifyThresholdProofAsync : ZkThresholdProofV1 → ZkOptions → Js Bool
  contractCheckpointFieldsHashForCheckpoint : BatchCheckpointV1 → Js Hex32
  verifyOfflineSettlementEvidence : OfflineEvidenceInput → Js Outcome

/-- What a run of the verifier reads. -/
structure Context where
  host : Host
  tools : Recomputation
  resolver : TrustResolver
  policy : VerifierPolicy Option
  backend : Option SettlementBackend
  input : ExpandedInput
  envelope : EventCommitmentV1
  commitmentHash : Hex32
  legacyCommitmentHash : Hex32

namespace Context

variable (C : Context)

def validate (name : SchemaName) (value : JsValue) : SchemaValidationResult :=
  C.host.validateSchema name value

def noble : Noble := C.host.noble

def consentRequired : Bool := C.policy.require_disclosure_consent_for_private_fields != some false

end Context

def checkpointHashForPolicy (H : Host) (checkpoint : BatchCheckpointV1) : Js Hex32 :=
  if H.flag "ALLOW_LEGACY_CHECKPOINT_HASH_V0" then legacyCheckpointHashV0 H.noble checkpoint
  else checkpointHash H.noble checkpoint

theorem checkpointHashForPolicy_hex (h : checkpointHashForPolicy H checkpoint = .ok c) :
    ∃ bytes, c = bytesToHex bytes := by
  unfold checkpointHashForPolicy at h
  split at h
  all_goals
    obtain ⟨bytes, -, h⟩ := bind_eq_ok.mp h
    cases h
    exact ⟨_, rfl⟩

def checkpointRootForKind (checkpoint : BatchCheckpointV1) : TreeKind → Hex32
  | .event => checkpoint.event_root
  | .receipt => checkpoint.receipt_root
  | .attestation => checkpoint.attestation_root
  | .revocation => checkpoint.revocation_root

def normalizeGraphAlgorithm (algorithm : Option JsString) : Option JsString :=
  if algorithm = some (js "louvain") then some (js "louvain_modularity_v1")
  else if algorithm = some (js "leiden") then some (js "leiden_refinement_v1")
  else algorithm

section Settlement

variable (C : Context)

def settlementEventHash (e : SettlementEvidenceV1) : Js Hex32 :=
  canonicalHash C.noble (.obj [(js "chain_id", .num e.chain_id),
    (js "contract_address", .str (C.host.toLowerCase e.contract_address)),
    (js "checkpoint_identity_hash", .str e.checkpoint_identity_hash),
    (js "contract_checkpoint_fields_hash", .str e.contract_checkpoint_fields_hash),
    (js "settlement_tx", .str (C.host.toLowerCase e.settlement_tx)),
    (js "transaction_receipt_hash", optional .str e.transaction_receipt_hash),
    (js "block_hash", optional .str e.block_hash),
    (js "block_number", optional .num e.block_number),
    (js "receipt_root", optional .str e.receipt_root),
    (js "transaction_index", optional .num e.transaction_index),
    (js "receipt_status", optional (fun status => .str (ReceiptStatus.text status))
      e.receipt_status),
    (js "settlement_event_index", optional .num e.settlement_event_index),
    (js "event_topic_hash", optional .str e.event_topic_hash),
    (js "log_index", optional .num e.log_index),
    (js "submitter", .str (C.host.toLowerCase e.submitter))])

def offlineSettlementEventHash (e : SettlementEvidenceV1) : Js (Option Hex32) :=
  match e.event_topics, nonEmptyText e.event_data with
  | some (topic :: topics), some data => do
    let hash ← canonicalHash C.noble (.obj [(js "chain_id", .num e.chain_id),
      (js "contract_address", .str (C.host.toLowerCase e.contract_address)),
      (js "settlement_tx", .str (C.host.toLowerCase e.settlement_tx)),
      (js "transaction_receipt_hash", optional .str e.transaction_receipt_hash),
      (js "block_hash", optional .str e.block_hash), (js "log_index", optional .num e.log_index),
      (js "event_topics", textList ((topic :: topics).map C.host.toLowerCase)),
      (js "event_data", .str (C.host.toLowerCase data))])
    return some hash
  | _, _ => return none
where
  nonEmptyText (s : Option JsString) : Option JsString := if truthy s then s else none

def receiptProofSourceCommitment (e : SettlementEvidenceV1) : Js (Option Hex32) :=
  match e.receipt_proof_nodes, e.transaction_index with
  | some nodes, some index =>
    if truthy e.block_header_rlp && truthy e.receipt_rlp then do
      let hash ← canonicalHash C.noble (.obj (
        optField (js "block_header_rlp") .str e.block_header_rlp ++
        optField (js "receipt_rlp") .str e.receipt_rlp ++
        [(js "receipt_proof_nodes", textList nodes)] ++
        optField (js "receipt_root") .str e.receipt_root ++
        [(js "transaction_index", .num index)] ++ optField (js "log_index") .num e.log_index ++
        optField (js "finality_proof") FinalityProof.toJs e.finality_proof))
      return some hash
    else return none
  | _, _ => return none

def settlementProofHash (e : SettlementEvidenceV1) : Js Hex32 :=
  canonicalHash C.noble (.obj [
    (js "settlement_event_hash", optional .str e.settlement_event_hash),
    (js "receipt_proof_source_commitment", optional .str e.receipt_proof_source_commitment),
    (js "finality_source_commitment", optional .str e.finality_source_commitment)])

def expectedEventHash (e : SettlementEvidenceV1) : Js (Option Hex32) :=
  match e.evidence_kind with
  | .offline_receipt_log_proof => offlineSettlementEventHash C e
  | .rpc_attested_receipt =>
    if truthy e.settlement_event_hash then some <$> settlementEventHash C e else return none

def proofCommitmentMatches (e : SettlementEvidenceV1) : Js Bool :=
  if truthy e.receipt_proof_source_commitment then do
    let hash ← settlementProofHash C e
    return e.chain_proof_commitment == some hash
  else return false

def offlineProofMatches (e : SettlementEvidenceV1) : Js Bool :=
  match e.evidence_kind with
  | .rpc_attested_receipt => return true
  | .offline_receipt_log_proof => do
    let source ← receiptProofSourceCommitment C e
    return truthy e.block_header_rlp && truthy e.receipt_rlp &&
      nonEmptyList e.receipt_proof_nodes && e.finality_proof.isSome &&
      e.receipt_proof_source_commitment == source &&
      e.finality_source_commitment == e.finality_proof.map FinalityProof.source_commitment

def receiptProofPresent (e : SettlementEvidenceV1) : Bool :=
  e.receipt_status == some .success && truthy e.transaction_receipt_hash &&
    truthy e.block_hash && e.block_number.isSome && truthy e.receipt_root &&
    e.transaction_index.isSome && truthy e.event_topic_hash && e.log_index.isSome &&
    truthy e.finality_source_commitment && truthy e.chain_proof_commitment &&
    !e.settlement_tx.isEmpty

/-- Why one piece of evidence does not settle the checkpoint, `none` when it does. -/
def settlementEvidenceError (checkpoint : BatchCheckpointV1) (checkpointHashValue : Hex32)
    (expectedFieldsHash : Hex32) (e : SettlementEvidenceV1) : Js (Option String) := do
  if !(C.validate .settlementEvidenceV1 e.toJs).valid then
    return some "TSL_SETTLEMENT_EVIDENCE_INVALID"
  let offline ← C.tools.verifyOfflineSettlementEvidence {
    evidence := e
    checkpoint
    checkpoint_hash := checkpointHashValue
    contract_checkpoint_fields_hash := expectedFieldsHash
    policy := C.policy }
  if !offline.ok then return some (offline.error_code.getD "TSL_SETTLEMENT_EVIDENCE_INVALID")
  let identityMatches := e.checkpoint_hash == checkpointHashValue &&
    e.checkpoint_identity_hash == checkpointHashValue
  let fieldsHashMatches := e.contract_checkpoint_fields_hash == expectedFieldsHash &&
    (e.contract_checkpoint_hash.isNone || e.contract_checkpoint_hash == some expectedFieldsHash)
  let backendMatches := !truthy checkpoint.settlement_backend ||
    checkpoint.settlement_backend == some e.settlement_backend
  let eventHash ← expectedEventHash C e
  let eventHashMatches := truthy eventHash && e.settlement_event_hash == eventHash
  let commitmentMatches ← proofCommitmentMatches C e
  let offlineMatches ← offlineProofMatches C e
  if identityMatches && fieldsHashMatches && backendMatches && eventHashMatches &&
    commitmentMatches && offlineMatches && e.status == .settled && receiptProofPresent e
  then return none
  else return some "TSL_SETTLEMENT_EVIDENCE_INVALID"

def firstSettlement (check : SettlementEvidenceV1 → Js (Option String)) :
    String → List SettlementEvidenceV1 → Js Outcome
  | lastError, [] => return { ok := false, error_code := some lastError }
  | _, evidence :: rest => do
    match ← check evidence with
    | none => return { ok := true, error_code := none }
    | some error => firstSettlement check error rest

def settlementEvidenceMatchesCheckpoint (checkpoint : BatchCheckpointV1)
    (evidence : List SettlementEvidenceV1) (checkpointHashValue : Hex32) : Js Outcome := do
  let expectedFieldsHash ← C.tools.contractCheckpointFieldsHashForCheckpoint checkpoint
  firstSettlement (settlementEvidenceError C checkpoint checkpointHashValue expectedFieldsHash)
    "TSL_SETTLEMENT_EVIDENCE_INVALID" evidence

end Settlement

section Consent

variable (C : Context)

/-- The time at which a consent has to stand. -/
def consentTime : Option Int :=
  C.host.parse <| match C.policy.disclosure_checked_at with
    | some checked => checked
    | none => match C.input.proof_bundle with
      | some bundle => bundle.created_at
      | none => C.host.nowText

def consentAllows (fieldClasses : List JsString) (consent : DisclosureConsentV1) : Js Bool := do
  if !(C.validate .disclosureConsentV1 (.obj consent.toFields)).valid ||
    consent.subject ≠ C.envelope.sender then return false
  if timeLt (consentTime C) (C.host.parse consent.issued_at) ||
    timeLe (C.host.parse consent.expires_at) (consentTime C) then return false
  if truthy C.policy.verifier_or_provider &&
    C.policy.verifier_or_provider ≠ some consent.verifier_or_provider then return false
  if truthy C.policy.disclosure_purpose && C.policy.disclosure_purpose ≠ some consent.purpose
  then return false
  if (C.policy.revoked_disclosure_pointers.getD []).contains consent.revocation_pointer then
    return false
  if !fieldClasses.all (fun fieldClass => consent.allowed_field_classes.contains fieldClass &&
    !consent.forbidden_field_classes.contains fieldClass) then return false
  let identity ← C.resolver consent.subject consent.issued_at
  signedBy C.host (liveKey C.host identity consent.issued_at)
    (disclosureConsentV1Hash C.noble consent) consent.signature

def anyConsent (check : DisclosureConsentV1 → Js Bool) : List DisclosureConsentV1 → Js Bool
  | [] => return false
  | consent :: rest => do
    if ← check consent then return true
    anyConsent check rest

def disclosureConsentAllows (fieldClasses : List JsString) : Js Bool := do
  if !truthy C.policy.verifier_or_provider || !truthy C.policy.disclosure_purpose then
    return false
  anyConsent (consentAllows C fieldClasses) (C.input.disclosure_consents.getD [])

end Consent

def seedGovernanceProfileValid (C : Context) (profile : Option SeedGovernanceProfileV1)
    (expectedClass : SeedClass) (seeds : List TrustID)
    (expectedSeedCommitment expectedGovernanceCommitment : Option Hex32) : Js Bool := do
  let some profile := profile | return false
  if profile.seed_class ≠ expectedClass || profile.review_state ≠ .approved then return false
  if !(C.validate .seedGovernanceProfileV1 (.obj profile.toFields)).valid then return false
  let seedCommitment ← canonicalHash C.noble (textList (sortStrings seeds))
  if profile.seed_set_commitment ≠ seedCommitment ||
    expectedSeedCommitment ≠ some seedCommitment then return false
  if truthy expectedGovernanceCommitment then
    let hash ← seedGovernanceProfileHash C.noble profile
    if expectedGovernanceCommitment ≠ some hash then return false
  if !truthy profile.signature then return false
  let issuerIdentity ← C.resolver profile.issuer profile.reviewed_at
  signedBy C.host (liveKey C.host issuerIdentity profile.reviewed_at)
    (seedGovernanceProfileHash C.noble profile) (profile.signature.getD [])

end Continuity
