import Continuity.Policy
import Continuity.Signing

namespace Continuity
set_option autoImplicit true

/-- The evidence that comes with an event: as properties of a caller's object or of a bundle
(`F = JsField`), or as the verifier reads it (`F = Option`). Parts that are only handed on
to a recomputation stay raw objects. -/
structure Evidence (F : Type → Type) where
  receipts : F (List ReceiptCommitmentV1)
  attestations : F (List AttestationV1)
  attestations_v2 : F (List AttestationV2)
  receipt_disputes : F JsObject
  revocations : F (List RevocationV1)
  settlement_evidence : F (List SettlementEvidenceV1)
  assessment : F TrustAssessmentV1
  assessment_v2 : F TrustAssessmentV2
  scoring_profile : F ScoringProfileV2
  domain_policy : F DomainPolicyV1
  evidence_coverage : F EvidenceCoverageV1
  metadata_fingerprints : F (List MetadataFingerprintCommitmentV1)
  graph_profile : F GraphProfileV2
  graph_feature_vector : F GraphFeatureVectorV1
  trusted_seeds : F (List TrustID)
  adversarial_seeds : F (List TrustID)
  trusted_seed_governance : F SeedGovernanceProfileV1
  adversarial_seed_governance : F SeedGovernanceProfileV1
  event_receivers : F JsObject
  sybil_assessment : F SybilAssessmentV1
  sybil_profile : F JsObject
  drift_report : F DriftReportV1
  drift_feature_history : F (List JsValue)
  drift_cohort_baseline_components : F (List JsValue)
  zk_proofs : F (List ZkThresholdProofV1)
  zk_circuit_manifests : F (List ZkCircuitReleaseManifestV1)
  zk_verification_key_registry : F ZkVerificationKeyRegistryV1
  delegations : F (List AgentDelegationV1)
  delegation_policies : F (List DelegationPolicyV2)
  agent_actions : F (List AgentActionV2)
  audit_findings : F (List AuditFindingV1)
  consistency_proofs : F (List ConsistencyProofV1)
  non_membership_proofs : F (List SetNonMembershipProofV1)
  governance_policy : F GovernancePolicyV1
  message_disclosure : F MessageDisclosure
  disclosure_consents : F (List DisclosureConsentV1)
  provider_governance_status : F ProviderGovernanceStatusV1

/-- No evidence at all, each part given as `e`. -/
def Evidence.fill {F : Type → Type} (e : ∀ α, F α) : Evidence F where
  receipts := e _
  attestations := e _
  attestations_v2 := e _
  receipt_disputes := e _
  revocations := e _
  settlement_evidence := e _
  assessment := e _
  assessment_v2 := e _
  scoring_profile := e _
  domain_policy := e _
  evidence_coverage := e _
  metadata_fingerprints := e _
  graph_profile := e _
  graph_feature_vector := e _
  trusted_seeds := e _
  adversarial_seeds := e _
  trusted_seed_governance := e _
  adversarial_seed_governance := e _
  event_receivers := e _
  sybil_assessment := e _
  sybil_profile := e _
  drift_report := e _
  drift_feature_history := e _
  drift_cohort_baseline_components := e _
  zk_proofs := e _
  zk_circuit_manifests := e _
  zk_verification_key_registry := e _
  delegations := e _
  delegation_policies := e _
  agent_actions := e _
  audit_findings := e _
  consistency_proofs := e _
  non_membership_proofs := e _
  governance_policy := e _
  message_disclosure := e _
  disclosure_consents := e _
  provider_governance_status := e _

structure ProofBundleV1 extends Evidence JsField where
  created_at : RFC3339
  identity : IdentityDocumentV1
  envelope : EventCommitmentV1
  proof : InclusionProofV1
  checkpoint : BatchCheckpointV1
  redaction_manifest : RedactionManifest
  /-- Its other properties, which only the schema sees. -/
  others : JsObject

structure VerifyTSLInput extends Evidence JsField where
  proof_bundle : Option ProofBundleV1
  envelope : JsField EventCommitmentV1
  proof : JsField InclusionProofV1
  receipt_proofs : Option (List InclusionProofV1)
  checkpoint : JsField BatchCheckpointV1
  redaction_manifest : JsField RedactionManifest

/-- The input after the bundle is spread into it. -/
structure ExpandedInput extends Evidence Option where
  proof_bundle : Option ProofBundleV1
  envelope : Option EventCommitmentV1
  proof : Option InclusionProofV1
  receipt_proofs : Option (List InclusionProofV1)
  checkpoint : Option BatchCheckpointV1
  redaction_manifest : Option RedactionManifest

def JsField.map (f : α → β) : JsField α → JsField β
  | .absent => .absent
  | .undefined => .undefined
  | .null => .null
  | .value a => .value (f a)

def listJs (f : α → JsValue) (items : List α) : JsValue := .arr (items.map f)

def objListJs (f : α → JsObject) (items : List α) : JsValue := .arr (items.map fun a => .obj (f a))

/-- The properties of the evidence by name, in the order of the conflict check. -/
def Evidence.named (e : Evidence JsField) : List (JsString × JsField JsValue) :=
  [(js "receipts", e.receipts.map (objListJs ReceiptCommitmentV1.toFields)),
    (js "attestations", e.attestations.map (objListJs AttestationV1.toFields)),
    (js "attestations_v2", e.attestations_v2.map (objListJs AttestationV2.toFields)),
    (js "receipt_disputes", e.receipt_disputes.map .obj),
    (js "revocations", e.revocations.map (objListJs RevocationV1.toFields)),
    (js "settlement_evidence", e.settlement_evidence.map (listJs SettlementEvidenceV1.toJs)),
    (js "assessment", e.assessment.map fun a => .obj a.toFields),
    (js "assessment_v2", e.assessment_v2.map fun a => .obj a.toFields),
    (js "scoring_profile", e.scoring_profile.map fun p => .obj p.toFields),
    (js "domain_policy", e.domain_policy.map fun p => .obj p.toFields),
    (js "evidence_coverage", e.evidence_coverage.map fun c => .obj c.toFields),
    (js "metadata_fingerprints",
      e.metadata_fingerprints.map (objListJs MetadataFingerprintCommitmentV1.toFields)),
    (js "graph_profile", e.graph_profile.map fun p => .obj p.toFields),
    (js "graph_feature_vector", e.graph_feature_vector.map fun v => .obj v.toFields),
    (js "trusted_seeds", e.trusted_seeds.map textList),
    (js "adversarial_seeds", e.adversarial_seeds.map textList),
    (js "trusted_seed_governance", e.trusted_seed_governance.map fun p => .obj p.toFields),
    (js "adversarial_seed_governance",
      e.adversarial_seed_governance.map fun p => .obj p.toFields),
    (js "event_receivers", e.event_receivers.map .obj),
    (js "sybil_assessment", e.sybil_assessment.map fun s => .obj s.toFields),
    (js "sybil_profile", e.sybil_profile.map .obj),
    (js "drift_report", e.drift_report.map fun d => .obj d.toFields),
    (js "drift_feature_history", e.drift_feature_history.map .arr),
    (js "drift_cohort_baseline_components", e.drift_cohort_baseline_components.map .arr),
    (js "zk_proofs", e.zk_proofs.map (objListJs ZkThresholdProofV1.toFields)),
    (js "zk_circuit_manifests",
      e.zk_circuit_manifests.map (objListJs ZkCircuitReleaseManifestV1.toFields)),
    (js "zk_verification_key_registry", e.zk_verification_key_registry.map fun registry =>
      .obj registry.toFields),
    (js "delegations", e.delegations.map (objListJs AgentDelegationV1.toFields)),
    (js "delegation_policies",
      e.delegation_policies.map (objListJs DelegationPolicyV2.toFields)),
    (js "agent_actions", e.agent_actions.map (objListJs AgentActionV2.toFields)),
    (js "audit_findings", e.audit_findings.map (objListJs AuditFindingV1.toFields)),
    (js "consistency_proofs", e.consistency_proofs.map (listJs ConsistencyProofV1.toJs)),
    (js "non_membership_proofs",
      e.non_membership_proofs.map (listJs SetNonMembershipProofV1.toJs)),
    (js "governance_policy", e.governance_policy.map fun p => .obj p.toFields),
    (js "message_disclosure", e.message_disclosure.map MessageDisclosure.toJs),
    (js "disclosure_consents",
      e.disclosure_consents.map (objListJs DisclosureConsentV1.toFields))]

/-- The own properties of an object that the named fields give. -/
def ownFields (fields : List (JsString × JsField JsValue)) : JsObject :=
  fields.filterMap fun (key, field) =>
    match field with
    | .absent => none
    | .undefined => some (key, .undefined)
    | .null => some (key, .null)
    | .value value => some (key, value)

def ProofBundleV1.toJs (b : ProofBundleV1) : JsValue :=
  .obj (b.others ++ [(js "created_at", JsValue.str b.created_at), (js "identity", b.identity.toJs),
    (js "envelope", .obj b.envelope.toFields), (js "proof", b.proof.toJs),
    (js "checkpoint", .obj b.checkpoint.toFields)] ++
    ownFields (b.toEvidence.named ++ [(js "provider_governance_status",
      b.provider_governance_status.map fun g => .obj g.toFields)]) ++
    [(js "redaction_manifest", b.redaction_manifest.toJs)])

/-- Equality of the canonical bytes, or of the plain JSON texts when one has no canonical form. -/
def sameCanonical (H : Host) (left right : JsValue) : Bool :=
  match canonicalBytes left, canonicalBytes right with
  | .ok left, .ok right => left == right
  | _, _ => jsonStringify H left == jsonStringify H right

/-- The value of a property, `none` when it is `undefined`. -/
def JsField.defined? : JsField JsValue → Option JsValue
  | .absent => none
  | .undefined => none
  | .null => some .null
  | .value v => some v

def conflicts (H : Host) (caller bundle : JsField JsValue) : Bool :=
  match caller.defined?, bundle.defined? with
  | some left, some right => !sameCanonical H left right
  | _, _ => false

def conflictErrors (H : Host) (input : VerifyTSLInput) (bundle : ProofBundleV1) : List String :=
  let callerFields := [input.envelope.map fun e => .obj e.toFields,
    input.proof.map InclusionProofV1.toJs, input.checkpoint.map fun c => .obj c.toFields] ++
    input.toEvidence.named.map Prod.snd
  let bundleFields := [.value (.obj bundle.envelope.toFields), .value bundle.proof.toJs,
    .value (.obj bundle.checkpoint.toFields)] ++ bundle.toEvidence.named.map Prod.snd
  ((callerFields.zip bundleFields).filter fun (caller, field) => conflicts H caller field).map
    fun _ => "TSL_PROOF_BUNDLE_FIELD_CONFLICT"

/-- The spread of the caller's object over the one of the bundle: a property of the caller
wins even without a value. -/
def spread (caller bundle : JsField α) : Option α :=
  match caller with
  | .absent => bundle.toOption
  | field => field.toOption

def Evidence.spread (caller bundle : Evidence JsField) : Evidence Option where
  receipts := Continuity.spread caller.receipts bundle.receipts
  attestations := Continuity.spread caller.attestations bundle.attestations
  attestations_v2 := Continuity.spread caller.attestations_v2 bundle.attestations_v2
  receipt_disputes := Continuity.spread caller.receipt_disputes bundle.receipt_disputes
  revocations := Continuity.spread caller.revocations bundle.revocations
  settlement_evidence := Continuity.spread caller.settlement_evidence bundle.settlement_evidence
  assessment := Continuity.spread caller.assessment bundle.assessment
  assessment_v2 := Continuity.spread caller.assessment_v2 bundle.assessment_v2
  scoring_profile := Continuity.spread caller.scoring_profile bundle.scoring_profile
  domain_policy := Continuity.spread caller.domain_policy bundle.domain_policy
  evidence_coverage := Continuity.spread caller.evidence_coverage bundle.evidence_coverage
  metadata_fingerprints :=
    Continuity.spread caller.metadata_fingerprints bundle.metadata_fingerprints
  graph_profile := Continuity.spread caller.graph_profile bundle.graph_profile
  graph_feature_vector := Continuity.spread caller.graph_feature_vector bundle.graph_feature_vector
  trusted_seeds := Continuity.spread caller.trusted_seeds bundle.trusted_seeds
  adversarial_seeds := Continuity.spread caller.adversarial_seeds bundle.adversarial_seeds
  trusted_seed_governance :=
    Continuity.spread caller.trusted_seed_governance bundle.trusted_seed_governance
  adversarial_seed_governance :=
    Continuity.spread caller.adversarial_seed_governance bundle.adversarial_seed_governance
  event_receivers := Continuity.spread caller.event_receivers bundle.event_receivers
  sybil_assessment := Continuity.spread caller.sybil_assessment bundle.sybil_assessment
  sybil_profile := Continuity.spread caller.sybil_profile bundle.sybil_profile
  drift_report := Continuity.spread caller.drift_report bundle.drift_report
  drift_feature_history :=
    Continuity.spread caller.drift_feature_history bundle.drift_feature_history
  drift_cohort_baseline_components :=
    Continuity.spread caller.drift_cohort_baseline_components
      bundle.drift_cohort_baseline_components
  zk_proofs := Continuity.spread caller.zk_proofs bundle.zk_proofs
  zk_circuit_manifests := Continuity.spread caller.zk_circuit_manifests bundle.zk_circuit_manifests
  zk_verification_key_registry :=
    Continuity.spread caller.zk_verification_key_registry bundle.zk_verification_key_registry
  delegations := Continuity.spread caller.delegations bundle.delegations
  delegation_policies := Continuity.spread caller.delegation_policies bundle.delegation_policies
  agent_actions := Continuity.spread caller.agent_actions bundle.agent_actions
  audit_findings := Continuity.spread caller.audit_findings bundle.audit_findings
  consistency_proofs := Continuity.spread caller.consistency_proofs bundle.consistency_proofs
  non_membership_proofs :=
    Continuity.spread caller.non_membership_proofs bundle.non_membership_proofs
  governance_policy := Continuity.spread caller.governance_policy bundle.governance_policy
  message_disclosure := Continuity.spread caller.message_disclosure bundle.message_disclosure
  disclosure_consents := Continuity.spread caller.disclosure_consents bundle.disclosure_consents
  provider_governance_status :=
    Continuity.spread caller.provider_governance_status bundle.provider_governance_status

def expandProofBundleInput (H : Host) (input : VerifyTSLInput) : ExpandedInput × List String :=
  match input.proof_bundle with
  | none =>
    ({ toEvidence := input.toEvidence.spread (.fill fun _ => .absent)
       proof_bundle := none
       envelope := input.envelope.toOption
       proof := input.proof.toOption
       receipt_proofs := input.receipt_proofs
       checkpoint := input.checkpoint.toOption
       redaction_manifest := input.redaction_manifest.toOption }, [])
  | some bundle =>
    ({ toEvidence := input.toEvidence.spread bundle.toEvidence
       proof_bundle := some bundle
       envelope := input.envelope.toOption.or (some bundle.envelope)
       proof := input.proof.toOption.or (some bundle.proof)
       receipt_proofs := input.receipt_proofs
       checkpoint := input.checkpoint.toOption.or (some bundle.checkpoint)
       redaction_manifest := input.redaction_manifest.toOption.or (some bundle.redaction_manifest) },
      conflictErrors H input bundle)

section Redaction

variable (input : ExpandedInput)

def disclosesRawMessage : Bool :=
  match input.message_disclosure with
  | some disclosure => disclosure.raw_message.isSome
  | none => false

def disclosesContentSalt : Bool :=
  match input.message_disclosure with
  | some disclosure => disclosure.content_salt.isSome
  | none => false

def restrictedAttestations : Bool :=
  (input.attestations.getD []).any (fun a => a.visibility ≠ .«public») ||
    (input.attestations_v2.getD []).any fun a => a.visibility ≠ .«public»

def privateGraph : Bool :=
  match input.graph_feature_vector with
  | some vector => vector.privacy_disclosure_level ≠ .aggregate_only &&
      vector.privacy_disclosure_level ≠ .«public»
  | none => false

def privateMetadata : Bool :=
  (input.metadata_fingerprints.getD []).any fun f => f.scope_class ≠ .public_commitment

def redactedFields : List JsString :=
  (if disclosesRawMessage input then [] else [js "raw_content"]) ++
    (if disclosesContentSalt input then [] else [js "content_salt"]) ++
    (if nonEmptyList input.receipts then [] else [js "exact_counterparties"]) ++
    (if restrictedAttestations input then [] else [js "restricted_attestations"]) ++
    (if privateGraph input then [] else [js "private_graph"]) ++
    (if privateMetadata input then [] else [js "private_metadata"]) ++
    (if input.proof_bundle.isSome then [js "platform", js "ip_address", js "user_agent"] else [])

def actualRedactionState : RedactionManifest where
  raw_content_included := disclosesRawMessage input
  content_salt_included := some (disclosesContentSalt input)
  exact_counterparties_included := nonEmptyList input.receipts
  metadata_fields_redacted := sortStrings (redactedFields input)

def redactionManifestMatches (H : Host) : Bool :=
  match input.redaction_manifest with
  | none => !(input.proof_bundle.isSome || nonEmptyList input.receipts ||
      input.message_disclosure.isSome || restrictedAttestations input)
  | some manifest =>
    let actual := actualRedactionState input
    manifest.raw_content_included == actual.raw_content_included &&
      (manifest.content_salt_included.isNone ||
        manifest.content_salt_included == actual.content_salt_included) &&
      manifest.exact_counterparties_included == actual.exact_counterparties_included &&
      jsonStringify H (textList (sortStrings (unique manifest.metadata_fields_redacted))) ==
        jsonStringify H (textList (sortStrings (unique actual.metadata_fields_redacted)))

end Redaction

end Continuity
