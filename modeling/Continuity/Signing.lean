import Continuity.Artifacts

namespace Continuity
set_option autoImplicit true

namespace V2_DOMAIN_TAGS

def SCORING_PROFILE_V2 : JsString := js "tsl.scoring_profile.v2"
def TRUST_ASSESSMENT_V2 : JsString := js "tsl.trust_assessment.v2"
def DISCLOSURE_CONSENT_V1 : JsString := js "tsl.disclosure_consent.v1"
def METADATA_FINGERPRINT_V1 : JsString := js "tsl.metadata_fingerprint_commitment.v1"
def GRAPH_FEATURE_VECTOR_V1 : JsString := js "tsl.graph_feature_vector.v1"
def SYBIL_ASSESSMENT_V1 : JsString := js "tsl.sybil_assessment.v1"
def DRIFT_REPORT_V1 : JsString := js "tsl.drift_report.v1"
def DELEGATION_POLICY_V2 : JsString := js "tsl.delegation_policy.v2"
def AGENT_ACTION_V2 : JsString := js "tsl.agent_action.v2"

end V2_DOMAIN_TAGS

section Hashes

variable (N : Noble)

/-- The domain hash of an object without its signature. -/
def hashSignedObject (tag : JsString) (value : JsObject) : Js Hex32 := do
  let bytes ← canonicalBytes (.obj (withoutSignature value))
  return hashDomain N tag bytes

def eventHash (event : EventCommitmentV1) : Js Hex32 :=
  hashSignedObject N DOMAIN_TAGS.EVENT_V1 event.toFields

def receiptHash (receipt : ReceiptCommitmentV1) : Js Hex32 :=
  hashSignedObject N DOMAIN_TAGS.RECEIPT_V1 receipt.toFields

def attestationHash (attestation : AttestationV1) : Js Hex32 :=
  hashSignedObject N DOMAIN_TAGS.ATTESTATION_V1 attestation.toFields

def revocationHash (revocation : RevocationV1) : Js Hex32 :=
  hashSignedObject N DOMAIN_TAGS.REVOCATION_V1 revocation.toFields

def assessmentHash (assessment : TrustAssessmentV1) : Js Hex32 :=
  hashSignedObject N DOMAIN_TAGS.ASSESSMENT_V1 assessment.toFields

def auditFindingHash (finding : AuditFindingV1) : Js Hex32 :=
  hashSignedObject N DOMAIN_TAGS.AUDIT_FINDING_V1 finding.toFields

def governancePolicyHash (policy : GovernancePolicyV1) : Js Hex32 :=
  hashSignedObject N DOMAIN_TAGS.GOVERNANCE_POLICY_V1 policy.toFields

def scoringProfileV2Hash (profile : ScoringProfileV2) : Js Hex32 :=
  hashSignedObject N V2_DOMAIN_TAGS.SCORING_PROFILE_V2 profile.toFields

def trustAssessmentV2Hash (assessment : TrustAssessmentV2) : Js Hex32 :=
  hashSignedObject N V2_DOMAIN_TAGS.TRUST_ASSESSMENT_V2 assessment.toFields

def disclosureConsentV1Hash (consent : DisclosureConsentV1) : Js Hex32 :=
  hashSignedObject N V2_DOMAIN_TAGS.DISCLOSURE_CONSENT_V1 consent.toFields

def attestationV2Hash (attestation : AttestationV2) : Js Hex32 :=
  hashSignedObject N (js "tsl.attestation.v2") attestation.toFields

def metadataFingerprintCommitmentV1Hash (commitment : MetadataFingerprintCommitmentV1) :
    Js Hex32 :=
  hashSignedObject N V2_DOMAIN_TAGS.METADATA_FINGERPRINT_V1 commitment.toFields

def graphFeatureVectorV1Hash (vector : GraphFeatureVectorV1) : Js Hex32 :=
  hashSignedObject N V2_DOMAIN_TAGS.GRAPH_FEATURE_VECTOR_V1 vector.toFields

def sybilAssessmentV1Hash (assessment : SybilAssessmentV1) : Js Hex32 :=
  hashSignedObject N V2_DOMAIN_TAGS.SYBIL_ASSESSMENT_V1 assessment.toFields

def driftReportV1Hash (report : DriftReportV1) : Js Hex32 :=
  hashSignedObject N V2_DOMAIN_TAGS.DRIFT_REPORT_V1 report.toFields

def delegationPolicyV2Hash (policy : DelegationPolicyV2) : Js Hex32 :=
  hashSignedObject N V2_DOMAIN_TAGS.DELEGATION_POLICY_V2 policy.toFields

def agentActionV2Hash (action : AgentActionV2) : Js Hex32 :=
  hashSignedObject N V2_DOMAIN_TAGS.AGENT_ACTION_V2 action.toFields

/-- `delete` of one property. -/
def deleteField (value : JsObject) (field : JsString) : JsObject :=
  value.filter fun entry => entry.1 != field

def agentDelegationHash (delegation : AgentDelegationV1) : Js Hex32 := do
  let payload := deleteField (deleteField delegation.toFields (js "controller_signature"))
    (js "agent_signature")
  let bytes ← canonicalBytes (.obj payload)
  return hashDomain N DOMAIN_TAGS.AGENT_DELEGATION_V1 bytes

def canonicalHash (value : JsValue) : Js Hex32 := do
  let bytes ← canonicalBytes value
  return sha256Hex N bytes

def unsignedObjectHash (value : JsObject) : Js Hex32 :=
  canonicalHash N (.obj (deleteField value (js "signature")))

def seedGovernanceProfileHash (profile : SeedGovernanceProfileV1) : Js Hex32 :=
  unsignedObjectHash N profile.toFields

def contentCommitment (rawMessage saltHex : JsString) : Js Hex32 := do
  let salt ← hexToBytes saltHex
  return hashDomain N DOMAIN_TAGS.CONTENT_V1 (textEncode rawMessage ++ salt)

def metadataCommitment (canonicalMetadata : JsValue) (saltHex : JsString) : Js Hex32 := do
  let metadata ← canonicalBytes canonicalMetadata
  let salt ← hexToBytes saltHex
  return hashDomain N DOMAIN_TAGS.METADATA_V1 (metadata ++ salt)

def receiverCommitment (receiverTrustId saltHex : JsString) : Js Hex32 := do
  let salt ← hexToBytes saltHex
  return hashDomain N DOMAIN_TAGS.RECEIVER_V1 (textEncode receiverTrustId ++ salt)

def commitmentHash (event : EventCommitmentV1) : Js Hex32 := do
  let hash ← eventHash N event
  commitmentHashFromParts N hash event.signature

def legacyCommitmentHash (event : EventCommitmentV1) : Js Hex32 := do
  let hash ← eventHash N event
  legacyCommitmentHashFromParts N hash event.signature

def checkpointPayload (value : JsObject) (fields : List JsString) : JsValue :=
  .obj (fields.foldl withoutField value)

def checkpointHash (checkpoint : BatchCheckpointV1) : Js Hex32 := do
  let bytes ← canonicalBytes (checkpointPayload checkpoint.toFields
    [js "relay_signature", js "settlement_tx", js "checkpoint_identity_hash"])
  return hashDomain N DOMAIN_TAGS.CHECKPOINT_V1 bytes

def legacyCheckpointHashV0 (checkpoint : BatchCheckpointV1) : Js Hex32 := do
  let bytes ← canonicalBytes (checkpointPayload checkpoint.toFields
    [js "relay_signature", js "settlement_backend", js "settlement_tx"])
  return hashDomain N DOMAIN_TAGS.CHECKPOINT_V1 bytes

end Hashes

@[simp] theorem encodableFields_append {a b : JsObject} :
    EncodableFields (a ++ b) ↔ EncodableFields a ∧ EncodableFields b := by
  simp only [encodableFields_iff, List.forall_mem_append]

@[simp] theorem encodableFields_optional (key : JsString) (value : Option JsString) :
    EncodableFields (optField key .str value) := by
  cases value with
  | none => exact True.intro
  | some value => exact ⟨True.intro, True.intro⟩

theorem encodableFields_without {fields : JsObject} (h : EncodableFields fields)
    (keys : List JsString) : EncodableFields (keys.foldl withoutField fields) := by
  induction keys generalizing fields with
  | nil => exact h
  | cons key keys ih =>
    apply ih
    rw [encodableFields_iff] at h ⊢
    intro f hf
    exact h f (List.mem_filter.mp hf).1

theorem hashDomain_total (h : EncodableFields fields) (N : Noble) (tag : JsString) :
    ∃ hash, (do
      let bytes ← canonicalBytes (.obj fields)
      return hashDomain N tag bytes : Js Hex32) = .ok hash := by
  obtain ⟨bytes, hb⟩ := canonicalBytes_total (v := .obj fields) h
  exact ⟨_, by rw [hb]; rfl⟩

theorem hashSignedObject_hex (h : hashSignedObject N tag value = .ok c) :
    ∃ bytes, c = bytesToHex bytes := by
  obtain ⟨bytes, -, h⟩ := bind_eq_ok.mp h
  cases h
  exact ⟨_, rfl⟩

theorem hexText_bytes (h : c = bytesToHex bytes) : hexToBytes c = .ok (hexBytes c) := by
  rw [h, hexBytes_ok (hexToBytes_bytesToHex bytes), hexToBytes_bytesToHex]

theorem canonicalHash_total (h : Encodable v) : ∃ hash, canonicalHash N v = .ok hash := by
  obtain ⟨bytes, hb⟩ := canonicalBytes_total h
  exact ⟨_, bind_eq_ok.mpr ⟨bytes, hb, rfl⟩⟩

end Continuity
