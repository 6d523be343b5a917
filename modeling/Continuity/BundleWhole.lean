import Continuity.VerifierSound

namespace Continuity
open Frames
set_option autoImplicit true

/-- The parts of the evidence, by the names of their properties. -/
inductive EvidencePart where
  | receipts | attestations | attestations_v2 | receipt_disputes | revocations
  | settlement_evidence | assessment | assessment_v2 | scoring_profile | domain_policy
  | evidence_coverage | metadata_fingerprints | graph_profile | graph_feature_vector
  | trusted_seeds | adversarial_seeds | trusted_seed_governance | adversarial_seed_governance
  | event_receivers | sybil_assessment | sybil_profile | drift_report | drift_feature_history
  | drift_cohort_baseline_components | zk_proofs | zk_circuit_manifests
  | zk_verification_key_registry | delegations | delegation_policies | agent_actions
  | audit_findings | consistency_proofs | non_membership_proofs | governance_policy
  | message_disclosure | disclosure_consents | provider_governance_status

/-- What a part holds. -/
def EvidencePart.Value : EvidencePart → Type
  | .receipts => List ReceiptCommitmentV1
  | .attestations => List AttestationV1
  | .attestations_v2 => List AttestationV2
  | .receipt_disputes => JsObject
  | .revocations => List RevocationV1
  | .settlement_evidence => List SettlementEvidenceV1
  | .assessment => TrustAssessmentV1
  | .assessment_v2 => TrustAssessmentV2
  | .scoring_profile => ScoringProfileV2
  | .domain_policy => DomainPolicyV1
  | .evidence_coverage => EvidenceCoverageV1
  | .metadata_fingerprints => List MetadataFingerprintCommitmentV1
  | .graph_profile => GraphProfileV2
  | .graph_feature_vector => GraphFeatureVectorV1
  | .trusted_seeds => List TrustID
  | .adversarial_seeds => List TrustID
  | .trusted_seed_governance => SeedGovernanceProfileV1
  | .adversarial_seed_governance => SeedGovernanceProfileV1
  | .event_receivers => JsObject
  | .sybil_assessment => SybilAssessmentV1
  | .sybil_profile => JsObject
  | .drift_report => DriftReportV1
  | .drift_feature_history => List JsValue
  | .drift_cohort_baseline_components => List JsValue
  | .zk_proofs => List ZkThresholdProofV1
  | .zk_circuit_manifests => List ZkCircuitReleaseManifestV1
  | .zk_verification_key_registry => ZkVerificationKeyRegistryV1
  | .delegations => List AgentDelegationV1
  | .delegation_policies => List DelegationPolicyV2
  | .agent_actions => List AgentActionV2
  | .audit_findings => List AuditFindingV1
  | .consistency_proofs => List ConsistencyProofV1
  | .non_membership_proofs => List SetNonMembershipProofV1
  | .governance_policy => GovernancePolicyV1
  | .message_disclosure => MessageDisclosure
  | .disclosure_consents => List DisclosureConsentV1
  | .provider_governance_status => ProviderGovernanceStatusV1

def Evidence.get {F : Type → Type} (e : Evidence F) : (part : EvidencePart) → F part.Value
  | .receipts => e.receipts
  | .attestations => e.attestations
  | .attestations_v2 => e.attestations_v2
  | .receipt_disputes => e.receipt_disputes
  | .revocations => e.revocations
  | .settlement_evidence => e.settlement_evidence
  | .assessment => e.assessment
  | .assessment_v2 => e.assessment_v2
  | .scoring_profile => e.scoring_profile
  | .domain_policy => e.domain_policy
  | .evidence_coverage => e.evidence_coverage
  | .metadata_fingerprints => e.metadata_fingerprints
  | .graph_profile => e.graph_profile
  | .graph_feature_vector => e.graph_feature_vector
  | .trusted_seeds => e.trusted_seeds
  | .adversarial_seeds => e.adversarial_seeds
  | .trusted_seed_governance => e.trusted_seed_governance
  | .adversarial_seed_governance => e.adversarial_seed_governance
  | .event_receivers => e.event_receivers
  | .sybil_assessment => e.sybil_assessment
  | .sybil_profile => e.sybil_profile
  | .drift_report => e.drift_report
  | .drift_feature_history => e.drift_feature_history
  | .drift_cohort_baseline_components => e.drift_cohort_baseline_components
  | .zk_proofs => e.zk_proofs
  | .zk_circuit_manifests => e.zk_circuit_manifests
  | .zk_verification_key_registry => e.zk_verification_key_registry
  | .delegations => e.delegations
  | .delegation_policies => e.delegation_policies
  | .agent_actions => e.agent_actions
  | .audit_findings => e.audit_findings
  | .consistency_proofs => e.consistency_proofs
  | .non_membership_proofs => e.non_membership_proofs
  | .governance_policy => e.governance_policy
  | .message_disclosure => e.message_disclosure
  | .disclosure_consents => e.disclosure_consents
  | .provider_governance_status => e.provider_governance_status

def objJs (f : α → JsObject) (a : α) : JsValue := .obj (f a)

def EvidencePart.toJs : (part : EvidencePart) → part.Value → JsValue
  | .receipts => objListJs ReceiptCommitmentV1.toFields
  | .attestations => objListJs AttestationV1.toFields
  | .attestations_v2 => objListJs AttestationV2.toFields
  | .receipt_disputes => .obj
  | .revocations => objListJs RevocationV1.toFields
  | .settlement_evidence => listJs SettlementEvidenceV1.toJs
  | .assessment => objJs TrustAssessmentV1.toFields
  | .assessment_v2 => objJs TrustAssessmentV2.toFields
  | .scoring_profile => objJs ScoringProfileV2.toFields
  | .domain_policy => objJs DomainPolicyV1.toFields
  | .evidence_coverage => objJs EvidenceCoverageV1.toFields
  | .metadata_fingerprints => objListJs MetadataFingerprintCommitmentV1.toFields
  | .graph_profile => objJs GraphProfileV2.toFields
  | .graph_feature_vector => objJs GraphFeatureVectorV1.toFields
  | .trusted_seeds => textList
  | .adversarial_seeds => textList
  | .trusted_seed_governance => objJs SeedGovernanceProfileV1.toFields
  | .adversarial_seed_governance => objJs SeedGovernanceProfileV1.toFields
  | .event_receivers => .obj
  | .sybil_assessment => objJs SybilAssessmentV1.toFields
  | .sybil_profile => .obj
  | .drift_report => objJs DriftReportV1.toFields
  | .drift_feature_history => .arr
  | .drift_cohort_baseline_components => .arr
  | .zk_proofs => objListJs ZkThresholdProofV1.toFields
  | .zk_circuit_manifests => objListJs ZkCircuitReleaseManifestV1.toFields
  | .zk_verification_key_registry => objJs ZkVerificationKeyRegistryV1.toFields
  | .delegations => objListJs AgentDelegationV1.toFields
  | .delegation_policies => objListJs DelegationPolicyV2.toFields
  | .agent_actions => objListJs AgentActionV2.toFields
  | .audit_findings => objListJs AuditFindingV1.toFields
  | .consistency_proofs => listJs ConsistencyProofV1.toJs
  | .non_membership_proofs => listJs SetNonMembershipProofV1.toJs
  | .governance_policy => objJs GovernancePolicyV1.toFields
  | .message_disclosure => MessageDisclosure.toJs
  | .disclosure_consents => objListJs DisclosureConsentV1.toFields
  | .provider_governance_status => objJs ProviderGovernanceStatusV1.toFields

/-- The properties of a bundle that the verifier also reads from the caller's object. -/
inductive BundleField where
  | envelope | proof | checkpoint | redaction_manifest
  | evidence (part : EvidencePart)

namespace BundleField

def Value : BundleField → Type
  | .envelope => EventCommitmentV1
  | .proof => InclusionProofV1
  | .checkpoint => BatchCheckpointV1
  | .redaction_manifest => RedactionManifest
  | .evidence part => part.Value

def toJs : (field : BundleField) → field.Value → JsValue
  | .envelope => objJs EventCommitmentV1.toFields
  | .proof => InclusionProofV1.toJs
  | .checkpoint => objJs BatchCheckpointV1.toFields
  | .redaction_manifest => RedactionManifest.toJs
  | .evidence part => part.toJs

/-- The fields of the conflict check, in its order. -/
def checked : List BundleField :=
  [.envelope, .proof, .checkpoint,
    .evidence .receipts, .evidence .attestations, .evidence .attestations_v2,
    .evidence .receipt_disputes, .evidence .revocations, .evidence .settlement_evidence,
    .evidence .assessment, .evidence .assessment_v2, .evidence .scoring_profile,
    .evidence .domain_policy, .evidence .evidence_coverage, .evidence .metadata_fingerprints,
    .evidence .graph_profile, .evidence .graph_feature_vector, .evidence .trusted_seeds,
    .evidence .adversarial_seeds, .evidence .trusted_seed_governance,
    .evidence .adversarial_seed_governance, .evidence .event_receivers,
    .evidence .sybil_assessment, .evidence .sybil_profile, .evidence .drift_report,
    .evidence .drift_feature_history, .evidence .drift_cohort_baseline_components,
    .evidence .zk_proofs, .evidence .zk_circuit_manifests,
    .evidence .zk_verification_key_registry, .evidence .delegations,
    .evidence .delegation_policies, .evidence .agent_actions, .evidence .audit_findings,
    .evidence .consistency_proofs, .evidence .non_membership_proofs,
    .evidence .governance_policy, .evidence .message_disclosure, .evidence .disclosure_consents]

end BundleField

def VerifyTSLInput.get (input : VerifyTSLInput) : (field : BundleField) → JsField field.Value
  | .envelope => input.envelope
  | .proof => input.proof
  | .checkpoint => input.checkpoint
  | .redaction_manifest => input.redaction_manifest
  | .evidence part => input.toEvidence.get part

def ProofBundleV1.get (bundle : ProofBundleV1) : (field : BundleField) → JsField field.Value
  | .envelope => .value bundle.envelope
  | .proof => .value bundle.proof
  | .checkpoint => .value bundle.checkpoint
  | .redaction_manifest => .value bundle.redaction_manifest
  | .evidence part => bundle.toEvidence.get part

def ExpandedInput.get (input : ExpandedInput) : (field : BundleField) → Option field.Value
  | .envelope => input.envelope
  | .proof => input.proof
  | .checkpoint => input.checkpoint
  | .redaction_manifest => input.redaction_manifest
  | .evidence part => input.toEvidence.get part

/-- Reading the property gives `undefined`. -/
def JsField.IsUndefined (field : JsField α) : Prop := field = .absent ∨ field = .undefined

section Fields

variable (H : Host) (input : VerifyTSLInput) (bundle : ProofBundleV1)

/-- The values that the caller and the bundle give a field are not the same. -/
def differs (field : BundleField) : Bool :=
  conflicts H ((input.get field).map field.toJs) ((bundle.get field).map field.toJs)

/-- What the bundle gives and the caller does not is what the verifier reads. -/
def BundleCarried : Prop :=
  ∀ field, bundle.get field ≠ .null → (input.get field).IsUndefined →
    (expandProofBundleInput H input).1.get field = (bundle.get field).toOption

def VerifiedWhole (result : VerificationResult) : Prop :=
  BundleCarried H input bundle ∧
    ∀ field, differs H input bundle field = true → result.verified = false

/-- A property of the caller's object without a value stands over a value of the bundle. -/
def HidesEvidence : Prop :=
  ∃ part value, bundle.toEvidence.get part = .value value ∧
    input.toEvidence.get part = .undefined

/-- The two fields that the conflict check leaves out differ. -/
def ReplacesUnchecked : Prop :=
  differs H input bundle .redaction_manifest = true ∨
    differs H input bundle (.evidence .provider_governance_status) = true

end Fields

theorem Evidence.spread_get (caller bundle : Evidence JsField) (part : EvidencePart) :
    (caller.spread bundle).get part = Continuity.spread (caller.get part) (bundle.get part) := by
  cases part <;> rfl

theorem BundleField.mem_checked (field : BundleField)
    (hr : field ≠ .redaction_manifest) (hg : field ≠ .evidence .provider_governance_status) :
    field ∈ BundleField.checked := by
  unfold BundleField.checked
  cases field with
  | redaction_manifest => exact absurd rfl hr
  | evidence part =>
    cases part <;> first | exact absurd rfl hg | repeat first | exact .head _ | refine .tail _ ?_
  | _ => repeat first | exact .head _ | refine .tail _ ?_

theorem conflictErrors_eq : conflictErrors H input bundle =
    (BundleField.checked.filter (differs H input bundle)).map
      fun _ => "TSL_PROOF_BUNDLE_FIELD_CONFLICT" := by
  have hcaller : conflictErrors H input bundle =
      (((BundleField.checked.map fun field => (input.get field).map field.toJs).zip
        (BundleField.checked.map fun field => (bundle.get field).map field.toJs)).filter
          fun pair => conflicts H pair.1 pair.2).map
        fun _ => "TSL_PROOF_BUNDLE_FIELD_CONFLICT" := rfl
  rw [hcaller, List.zip_map', List.filter_map, List.map_map]
  rfl

/-- Without an error of the conflict check, no field that it covers differs. -/
theorem differs_of_quiet (h : conflictErrors H input bundle = [])
    (hf : field ∈ BundleField.checked) : differs H input bundle field = false := by
  rw [conflictErrors_eq, List.map_eq_nil_iff] at h
  have hnot := List.filter_eq_nil_iff.mp h field hf
  exact Bool.eq_false_iff.mpr hnot

theorem openingReport_quiet (h : (openingReport H policy input found).errors = []) :
    found = [] := by
  have hred := (redactionBlock_advances H input _).quiet h
  have hbundle := (bundleBlock_advances H input _).quiet hred
  exact (unsafeFixturesBlock_advances H policy _).quiet hbundle

/-- A verified bundle passed the conflict check. -/
theorem verifyTSL_unconflicted (hb : input.proof_bundle = some bundle)
    (h : verifyTSL H tools input resolver policy backend = .ok result)
    (hv : result.verified = true) : conflictErrors H input bundle = [] := by
  obtain ⟨V, hstart, -⟩ := verifyTSL_final h hv
  rw [V.start_quiet] at hstart
  have hfound := openingReport_quiet hstart.symm
  simpa only [expandProofBundleInput, hb] using hfound

theorem spread_undefined {caller field : JsField α} (hn : field ≠ .null) (hu : caller.IsUndefined)
    (h : ∀ value, field = .value value → caller ≠ .undefined) :
    spread caller field = field.toOption := by
  obtain rfl | rfl := hu
  · rfl
  · cases field with
    | value v => exact absurd rfl (h v rfl)
    | null => exact absurd rfl hn
    | _ => rfl

theorem or_undefined {caller : JsField α} (hu : caller.IsUndefined) (value : α) :
    caller.toOption.or (some value) = some value := by
  obtain rfl | rfl := hu <;> rfl

theorem expanded_evidence (hb : input.proof_bundle = some bundle) (part : EvidencePart) :
    (expandProofBundleInput H input).1.get (.evidence part) =
      spread (input.toEvidence.get part) (bundle.toEvidence.get part) := by
  rw [expandProofBundleInput, hb]
  exact Evidence.spread_get _ _ part

/-- The fields of every bundle, which the caller's object gives up with `??`. -/
theorem expanded_required (hb : input.proof_bundle = some bundle)
    (hu : (input.get field).IsUndefined) (hf : ∀ part, field ≠ .evidence part) :
    (expandProofBundleInput H input).1.get field = (bundle.get field).toOption := by
  rw [expandProofBundleInput, hb]
  cases field with
  | evidence part => exact absurd rfl (hf part)
  | _ => exact or_undefined hu _

/-- The bundle is carried over exactly when no property without a value hides a part of it. -/
theorem bundleCarried_iff (hb : input.proof_bundle = some bundle) :
    BundleCarried H input bundle ↔ ¬HidesEvidence input bundle := by
  constructor
  · rintro hcarried ⟨part, value, hvalue, hhides⟩
    have hget : bundle.get (.evidence part) = .value value := hvalue
    have hnull : bundle.get (.evidence part) ≠ .null := by
      rw [hget]
      intro h
      cases h
    have hread := hcarried (.evidence part) hnull (.inr hhides)
    rw [expanded_evidence hb, hget, hvalue, hhides] at hread
    cases hread
  · intro hshown field hnull hundef
    by_cases hpart : ∃ part, field = .evidence part
    · obtain ⟨part, rfl⟩ := hpart
      refine (expanded_evidence hb part).trans (spread_undefined hnull hundef ?_)
      intro value hvalue hhides
      exact hshown ⟨part, value, hvalue, hhides⟩
    · exact expanded_required hb hundef fun part h => hpart ⟨part, h⟩

/-- A bundle is verified whole exactly when the caller's object hides none of its parts behind
a property without a value and, in an accepted run, changes neither of the two fields that the
conflict check leaves out. -/
theorem verifyTSL_bundle_whole (hb : input.proof_bundle = some bundle)
    (h : verifyTSL H tools input resolver policy backend = .ok result) :
    (result.verified = true →
      (VerifiedWhole H input bundle result ↔
        ¬HidesEvidence input bundle ∧ ¬ReplacesUnchecked H input bundle)) ∧
    (result.verified = false →
      (VerifiedWhole H input bundle result ↔ ¬HidesEvidence input bundle)) := by
  constructor
  · intro hv
    have hquiet := verifyTSL_unconflicted hb h hv
    constructor
    · rintro ⟨hcarried, hrejects⟩
      refine ⟨(bundleCarried_iff hb).mp hcarried, ?_⟩
      rintro (hdiff | hdiff)
      · rw [hrejects _ hdiff] at hv
        cases hv
      · rw [hrejects _ hdiff] at hv
        cases hv
    · rintro ⟨hshown, hkept⟩
      refine ⟨(bundleCarried_iff hb).mpr hshown, ?_⟩
      intro field hdiff
      have hf : field ∈ BundleField.checked := by
        apply BundleField.mem_checked
        · rintro rfl
          exact hkept (.inl hdiff)
        · rintro rfl
          exact hkept (.inr hdiff)
      rw [differs_of_quiet hquiet hf] at hdiff
      cases hdiff
  · intro hv
    constructor
    · rintro ⟨hcarried, -⟩
      exact (bundleCarried_iff hb).mp hcarried
    · intro hshown
      exact ⟨(bundleCarried_iff hb).mpr hshown, fun _ _ => hv⟩

/-- The sender's own revocation of the key of the sample event, five days earlier. -/
def earlierRevocation : RevocationV1 where
  trust_id := js "did:tsl:alice"
  revoked_key := js "#k1"
  replacement_key := none
  reason_class := .compromise
  effective_at := js "2026-05-20T00:00:00Z"
  signature := bytesToHex (
    bigEndian 32 0x60cc0c79efc9b3e381ed3b094f09ab3be2468e747ae75bb6406843b06b6b63ac ++
    bigEndian 32 0xca365c7968f34c1966f12c9f6a1e5948dd0f2b342fddaeb2bdbf03dfde9b4e0c)

def revokedBundle : ProofBundleV1 where
  toEvidence := { Evidence.fill fun _ => .absent with revocations := .value [earlierRevocation] }
  created_at := js "2026-05-25T00:00:00Z"
  identity := aliceIdentity
  envelope := sampleEnvelope
  proof := sampleInclusion
  checkpoint := sampleCheckpoint
  redaction_manifest :=
    { raw_content_included := false
      content_salt_included := some false
      exact_counterparties_included := false
      metadata_fields_redacted := [js "content_salt", js "exact_counterparties",
        js "ip_address", js "platform", js "private_graph", js "private_metadata",
        js "raw_content", js "restricted_attestations", js "user_agent"] }
  others := [(js "type", .str (js "tsl.proof_bundle.v1")),
    (js "bundle_id", .str (hex32 0x2222222222222222222222222222222222222222222222222222222222222222))]

/-- The bundle alone, with the caller's own `revocations` as given. -/
def bundleInput (revocations : JsField (List RevocationV1)) : VerifyTSLInput where
  toEvidence := { Evidence.fill fun _ => .absent with revocations }
  proof_bundle := some revokedBundle
  envelope := .absent
  proof := .absent
  receipt_proofs := none
  checkpoint := .absent
  redaction_manifest := .absent

def bundleHost : Host :=
  let revocation := bigEndian 32
    0xd91a250c997adf18a37a3a3c6b9df5499c0d62454bc44b7970dce68264abd5ff
  sampleHost (recorded
    ((domainMessage DOMAIN_TAGS.REVOCATION_V1 (valueBytes (.obj (withoutSignature
      earlierRevocation.toFields))), revocation) :: signedDigests)
    ((hexBytes earlierRevocation.signature, revocation,
      bigEndian 32 0x8a88e3dd7409f195fd52db2d3cba5d72ca6709bf1d94121bf3748801b40f6f5c) ::
      sampleSignatures) fun _ => List.replicate 32 255)

/-- The revocation counts unless the key `revocations` has no value. -/
theorem bundle_runs :
    (fun result : VerificationResult => result.verified) <$> verifyTSL bundleHost sampleTools
        (bundleInput .undefined) sampleResolver.resolveTrustID samplePolicy none = .ok true ∧
      (fun result : VerificationResult => (result.verified, result.errors)) <$>
        verifyTSL bundleHost sampleTools (bundleInput .absent) sampleResolver.resolveTrustID
          samplePolicy none = .ok (false, ["TSL_KEY_REVOKED"]) := by
  refine ⟨?_, ?_⟩ <;> decide +kernel

/-- A key `revocations` without a value drops the revocation of the bundle, and the event that
it condemns is verified. -/
theorem verifyTSL_bundle_hidden :
    ∃ result, verifyTSL bundleHost sampleTools (bundleInput .undefined)
        sampleResolver.resolveTrustID samplePolicy none = .ok result ∧ result.verified = true ∧
      ¬VerifiedWhole bundleHost (bundleInput .undefined) revokedBundle result := by
  obtain ⟨result, hok, hv⟩ := map_eq_ok.mp bundle_runs.1
  refine ⟨result, hok, hv, ?_⟩
  rintro ⟨hcarried, -⟩
  have hhides : HidesEvidence (bundleInput .undefined) revokedBundle :=
    ⟨.revocations, [earlierRevocation], rfl, rfl⟩
  exact (bundleCarried_iff rfl).mp hcarried hhides

/-- Without that key the revocation counts. -/
theorem verifyTSL_bundle_whole_sample :
    ∃ result, verifyTSL bundleHost sampleTools (bundleInput .absent)
        sampleResolver.resolveTrustID samplePolicy none = .ok result ∧
      result.verified = false ∧ result.errors = ["TSL_KEY_REVOKED"] ∧
      VerifiedWhole bundleHost (bundleInput .absent) revokedBundle result := by
  obtain ⟨result, hok, hv⟩ := map_eq_ok.mp bundle_runs.2
  obtain ⟨hfalse, herrors⟩ := Prod.mk.inj hv
  refine ⟨result, hok, hfalse, herrors, ?_⟩
  apply ((verifyTSL_bundle_whole rfl hok).2 hfalse).mpr
  rintro ⟨part, value, -, hundef⟩
  cases part <;> cases hundef

end Continuity
