import Continuity.BundleWhole

namespace Continuity
open Frames
set_option autoImplicit true

/-- A proof whose leaf index fits in 64 bits and whose digests are hex texts. -/
structure InclusionDomain (proof : InclusionProofV1) : Prop where
  index : ∃ n : Nat, n < 256 ^ 8 ∧ proof.leaf_index.toInt? = some (n : Int)
  commitment : Returns (hexToBytes proof.commitment)
  path : ∀ step ∈ proof.path, Returns (hexToBytes step.hash)

/-- No method of the backend throws. -/
structure SettlementBackend.Answers (backend : SettlementBackend) : Prop where
  settlement : ∀ checkpoint, Returns (backend.verifyCheckpointSettlement checkpoint)
  keys : ∀ isKeyRevokedAt ∈ backend.isKeyRevokedAt, ∀ subject key time,
    Returns (isKeyRevokedAt subject key time)
  providers : ∀ isProviderActive ∈ backend.isProviderActive, ∀ provider,
    Returns (isProviderActive provider)
  models : ∀ isModelRegistered ∈ backend.isModelRegistered, ∀ provider model,
    Returns (isModelRegistered provider model)

section Conditions

variable (C : Context)

/-- An object that its schema accepts has a canonical form without its signature. -/
def Context.Hashable (name : SchemaName) (fields : JsObject) : Prop :=
  (C.validate name (.obj fields)).valid = true → Encodable (.obj (withoutSignature fields))

/-- Neither the resolver nor the backend throws. -/
structure Context.Answered : Prop where
  resolver : ∀ trustId timestamp, Returns (C.resolver trustId timestamp)
  backend : ∀ backend ∈ C.backend, backend.Answers

/-- The recomputations of the evidence return. -/
structure Recomputes : Prop where
  sybil : ∀ profile ∈ C.input.graph_profile, ∀ sybil ∈ C.input.sybil_assessment, ∀ graph,
    evidenceGraph C = some (.ok graph) → Returns (C.tools.computeSybilAssessmentV0 sybil graph
      profile C.input.trusted_seeds C.input.adversarial_seeds C.input.sybil_profile)
  drift : ∀ drift ∈ C.input.drift_report, ∀ history ∈ C.input.drift_feature_history,
    Returns (C.tools.computeDriftReportV0 drift history C.input.drift_cohort_baseline_components)
  zk : ∀ proof ∈ C.input.zk_proofs.getD [],
    (C.validate .zkThresholdProof (.obj proof.toFields)).valid = true →
      Returns (C.tools.verifyThresholdProofAsync proof (zkOptions C))
  actions : ∀ policies ∈ C.input.delegation_policies, ∀ action ∈ C.input.agent_actions.getD [],
    ∀ publicKeys, (C.validate .agentActionV2 (.obj action.toFields)).valid = true → Returns
      (C.tools.verifyDelegatedAgentActionV0 action policies publicKeys action.issued_at)
  non_membership : ∀ proof ∈ C.input.non_membership_proofs.getD [],
    (C.validate .nonMembershipProof proof.toJs).valid = true →
      Returns (verifyNonMembershipProof C.noble C.host.env proof)
  fields : ∀ checkpoint ∈ C.input.checkpoint,
    Returns (C.tools.contractCheckpointFieldsHashForCheckpoint checkpoint)
  settlement : ∀ evidence ∈ C.input.settlement_evidence.getD [],
    (C.validate .settlementEvidenceV1 evidence.toJs).valid = true →
      (∀ offline, offline.evidence = evidence →
        Returns (C.tools.verifyOfflineSettlementEvidence offline)) ∧
      Returns (expectedEventHash C evidence) ∧ Returns (proofCommitmentMatches C evidence) ∧
      Returns (offlineProofMatches C evidence)

/-- Every part of the evidence lies in the domain of the primitive that reads it. -/
structure Computable : Prop extends Recomputes C where
  salt : ∀ disclosure ∈ C.input.message_disclosure, disclosure.raw_message.isSome = true →
    ∀ salt ∈ disclosure.content_salt, Returns (hexToBytes salt)
  proof : ∀ proof ∈ C.input.proof,
    (C.validate .inclusionProof proof.toJs).valid = true → InclusionDomain proof
  receipt_proofs : ∀ proof ∈ C.input.receipt_proofs.getD [],
    (C.validate .inclusionProof proof.toJs).valid = true → InclusionDomain proof
  checkpoint : ∀ checkpoint ∈ C.input.checkpoint, Encodable (.obj checkpoint.toFields)
  attestations_v2 : ∀ attestation ∈ C.input.attestations_v2.getD [],
    C.Hashable .attestationV2 attestation.toFields
  assessment : ∀ assessment ∈ C.input.assessment, C.Hashable .trustAssessment assessment.toFields
  scoring_profile : ∀ profile ∈ C.input.scoring_profile,
    C.Hashable .scoringProfileV2 profile.toFields
  provider_governance_status : ∀ governance ∈ C.input.provider_governance_status,
    Encodable (.obj (deleteField governance.toFields (js "signature")))
  assessment_v2 : ∀ assessment ∈ C.input.assessment_v2,
    C.Hashable .trustAssessmentV2 assessment.toFields
  evidence_coverage : ∀ coverage ∈ C.input.evidence_coverage, Encodable (.obj coverage.toFields)
  metadata_fingerprints : ∀ fingerprint ∈ C.input.metadata_fingerprints.getD [],
    C.Hashable .metadataFingerprintCommitmentV1 fingerprint.toFields
  graph_feature_vector : ∀ vector ∈ C.input.graph_feature_vector,
    C.Hashable .graphFeatureVectorV1 vector.toFields
  manifold : ∀ manifold ∈ C.input.graph_profile.bind GraphProfileV2.manifold_profile,
    Encodable (numberList (manifold.trusted_centroid_bps.getD [])) ∧
    Encodable (numberList (manifold.adversarial_centroid_bps.getD [])) ∧
    Encodable (numberList (manifold.cluster_centroid_bps.getD [])) ∧
    Encodable (numberRows (manifold.inverse_covariance_bps.getD []))
  seed_governance : ∀ profile, some profile = C.input.trusted_seed_governance ∨
    some profile = C.input.adversarial_seed_governance →
      (C.validate .seedGovernanceProfileV1 (.obj profile.toFields)).valid = true →
        Encodable (.obj (deleteField profile.toFields (js "signature")))
  sybil_assessment : ∀ sybil ∈ C.input.sybil_assessment,
    Encodable (.obj (withoutSignature sybil.toFields))
  drift_report : ∀ drift ∈ C.input.drift_report,
    Encodable (.obj (withoutSignature drift.toFields))
  delegations : ∀ delegation ∈ C.input.delegations.getD [],
    (C.validate .agentDelegation (.obj delegation.toFields)).valid = true →
      Encodable (.obj (deleteField (deleteField delegation.toFields (js "controller_signature"))
        (js "agent_signature")))
  delegation_policies : ∀ policy ∈ C.input.delegation_policies.getD [],
    C.Hashable .delegationPolicyV2 policy.toFields
  governance_policy : ∀ governance ∈ C.input.governance_policy,
    C.Hashable .governancePolicy governance.toFields
  audit_findings : ∀ finding ∈ C.input.audit_findings.getD [],
    C.Hashable .auditFinding finding.toFields

end Conditions

theorem encodable_withoutSignature {fields : JsObject} (h : EncodableFields fields) :
    Encodable (.obj (withoutSignature fields)) :=
  encodableFields_without h [js "signature"]

theorem hashSignedObject_returns {fields : JsObject}
    (h : Encodable (.obj (withoutSignature fields))) (N : Noble) (tag : JsString) :
    Returns (hashSignedObject N tag fields) :=
  hashDomain_total h N tag

theorem returns_bytesToHex (bytes : Bytes) : Returns (hexToBytes (bytesToHex bytes)) :=
  ⟨bytes, hexToBytes_bytesToHex bytes⟩

theorem verifyEd25519_returns {hash : Hex32} (h : Returns (hexToBytes hash)) (N : Noble) (key : JsString)
    (signature : HexSig) : Returns (verifyEd25519 N key hash signature) := by
  apply Returns.bind h
  intro bytes _
  dsimp only
  split
  · exact Returns.pure _
  · exact Returns.pure _

/-- A signature check returns when the hash that a key has to sign does. -/
theorem signedBy_returns {hash : Js Hex32} (h : (∃ k, key = some k) → Returns hash)
    (hhex : ∀ c, hash = .ok c → Returns (hexToBytes c)) (H : Host) (signature : HexSig) :
    Returns (signedBy H key hash signature) := by
  unfold signedBy
  cases key with
  | none => exact Returns.pure _
  | some k =>
    apply Returns.when
    intro _
    apply Returns.bind (h ⟨k, rfl⟩)
    intro c hc
    exact verifyEd25519_returns (hhex c hc) _ _ _

theorem signedObject_returns {fields : JsObject}
    (h : (∃ k, key = some k) → Encodable (.obj (withoutSignature fields))) (H : Host)
    (N : Noble) (tag : JsString) (signature : HexSig) :
    Returns (signedBy H key (hashSignedObject N tag fields) signature) := by
  apply signedBy_returns
  · intro hk
    exact hashSignedObject_returns (h hk) N tag
  · intro c hc
    obtain ⟨bytes, rfl⟩ := hashSignedObject_hex hc
    exact returns_bytesToHex bytes

theorem canonicalHash_hex (h : canonicalHash N value = .ok c) : ∃ bytes, c = bytesToHex bytes := by
  obtain ⟨bytes, -, h⟩ := bind_eq_ok.mp h
  cases h
  exact ⟨_, rfl⟩

theorem signedHash_returns (h : (∃ k, key = some k) → Encodable value) (H : Host)
    (N : Noble) (signature : HexSig) :
    Returns (signedBy H key (canonicalHash N value) signature) := by
  apply signedBy_returns
  · intro hk
    exact canonicalHash_total (h hk)
  · intro c hc
    obtain ⟨bytes, rfl⟩ := canonicalHash_hex hc
    exact returns_bytesToHex bytes

theorem guarded_returns (h : condition = true → Returns x) : Returns (guarded condition x) := by
  unfold guarded
  exact Returns.when h

theorem climbPath_returns {path : List InclusionProofStep} (hc : Returns (hexToBytes current))
    (hp : ∀ step ∈ path, Returns (hexToBytes step.hash)) (N : Noble) :
    Returns (climbPath N current path) := by
  induction path generalizing current with
  | nil => exact Returns.pure _
  | cons step path ih =>
    obtain ⟨c, hc⟩ := hc
    obtain ⟨s, hs⟩ := hp step List.mem_cons_self
    have hrest : ∀ step ∈ path, Returns (hexToBytes step.hash) :=
      fun step hm => hp step (List.mem_cons_of_mem _ hm)
    unfold climbPath
    cases step.side with
    | left =>
      apply Returns.bind ⟨_, hashNode_ok.mpr ⟨s, c, hs, hc, rfl⟩⟩
      intro node hnode
      obtain ⟨_, _, -, -, rfl⟩ := hashNode_ok.mp hnode
      exact ih (returns_bytesToHex _) hrest
    | right =>
      apply Returns.bind ⟨_, hashNode_ok.mpr ⟨c, s, hc, hs, rfl⟩⟩
      intro node hnode
      obtain ⟨_, _, -, -, rfl⟩ := hashNode_ok.mp hnode
      exact ih (returns_bytesToHex _) hrest
    | other text h => exact Returns.pure _

theorem InclusionDomain.verifyInclusion {proof : InclusionProofV1} (h : InclusionDomain proof)
    (N : Noble) : Returns (verifyInclusion N proof) := by
  obtain ⟨n, hn, hi⟩ := h.index
  obtain ⟨bytes, hb⟩ := h.commitment
  apply Returns.bind ⟨_, hashLeaf_ok.mpr ⟨n, bytes, hi, hn, hb, rfl⟩⟩
  intro leaf hleaf
  apply Returns.early
  intro _
  obtain ⟨_, _, -, -, -, rfl⟩ := hashLeaf_ok.mp hleaf
  apply Returns.bind (climbPath_returns (returns_bytesToHex _) h.path N)
  intro current _
  exact Returns.pure _

section Blocks

variable {C : Context}

theorem keyBlock_returns {hash : Hex32} (h : Returns (hexToBytes hash))
    (identity : IdentityDocumentV1) (r : Report) : Returns (keyBlock C identity hash r) := by
  apply Returns.bind
  · apply signedBy_returns
    · intro _
      exact Returns.pure _
    · intro c hc
      cases hc
      exact h
  · intro signed _
    exact Returns.pure _

theorem chainRevocationBlock_returns (ha : C.Answered) (r : Report) :
    Returns (chainRevocationBlock C r) := by
  apply Returns.when
  intro _
  split
  · next isKeyRevokedAt h =>
    obtain ⟨backend, hb, hk⟩ := Option.bind_eq_some_iff.mp h
    apply Returns.bind ((ha.backend backend hb).keys _ hk _ _ _)
    intro revoked _
    exact Returns.pure _
  · exact Returns.pure _

theorem revocation_encodable (revocation : RevocationV1) : EncodableFields revocation.toFields := by
  simp [RevocationV1.toFields, EncodableFields, Encodable]

theorem revocationsBlock_returns (ha : C.Answered) (r : Report) :
    Returns (revocationsBlock C r) := by
  unfold revocationsBlock
  split
  · apply Returns.bind
    · apply Returns.mapM
      intro revocation _
      apply Returns.early
      intro _
      apply Returns.bind (ha.resolver _ _)
      intro identity _
      apply Returns.bind (signedObject_returns
        (fun _ => encodable_withoutSignature (revocation_encodable revocation)) _ _ _ _)
      intro signed _
      exact Returns.pure _
    · intro results _
      exact Returns.pure _
  · exact Returns.pure _

theorem consent_encodable (consent : DisclosureConsentV1) : EncodableFields consent.toFields :=
  ⟨True.intro, True.intro, True.intro, encodable_textList _, encodable_textList _, True.intro,
    True.intro, True.intro, True.intro, True.intro, True.intro⟩

theorem consentAllows_returns (ha : C.Answered) (fieldClasses : List JsString)
    (consent : DisclosureConsentV1) : Returns (consentAllows C fieldClasses consent) := by
  unfold consentAllows
  iterate 6
    apply Returns.early
    intro _
  apply Returns.bind (ha.resolver _ _)
  intro identity _
  exact signedObject_returns
    (fun _ => encodable_withoutSignature (consent_encodable consent)) _ _ _ _

theorem anyConsent_returns {check : DisclosureConsentV1 → Js Bool}
    (h : ∀ consent, Returns (check consent)) (consents : List DisclosureConsentV1) :
    Returns (anyConsent check consents) := by
  induction consents with
  | nil => exact Returns.pure _
  | cons consent rest ih =>
    apply Returns.bind (h consent)
    intro allowed _
    apply Returns.early
    intro _
    exact ih

theorem disclosureConsentAllows_returns (ha : C.Answered) (fieldClasses : List JsString) :
    Returns (disclosureConsentAllows C fieldClasses) := by
  apply Returns.early
  intro _
  exact anyConsent_returns (consentAllows_returns ha fieldClasses) _

theorem contentMatches_returns
    (h : disclosure.raw_message.isSome = true → ∀ salt ∈ disclosure.content_salt,
      Returns (hexToBytes salt)) (consent : Bool) :
    Returns (contentMatches C disclosure consent) := by
  unfold contentMatches
  split
  · exact Returns.pure _
  · exact Returns.pure _
  · next raw salt hraw hsalt =>
    apply Returns.when
    intro _
    apply Returns.bind
    · apply Returns.bind (h (by rw [hraw]; rfl) salt hsalt)
      intro bytes _
      exact Returns.pure _
    · intro commitment _
      exact Returns.pure _

theorem messageDisclosureBlock_returns (ha : C.Answered) (hc : Computable C) (r : Report) :
    Returns (messageDisclosureBlock C r) := by
  unfold messageDisclosureBlock
  split
  · exact Returns.pure _
  · next disclosure hd =>
    apply Returns.when
    intro _
    apply Returns.bind
    · unfold disclosureAllowed
      exact Returns.when fun _ => disclosureConsentAllows_returns ha _
    · intro consent _
      apply Returns.bind (contentMatches_returns (hc.salt disclosure hd) consent)
      intro content _
      exact Returns.pure _

theorem proofBlock_returns (hc : Computable C) (r : Report) : Returns (proofBlock C r) := by
  unfold proofBlock
  split
  · exact Returns.pure _
  · next proof hp =>
    apply Returns.when
    intro hv
    have hd := (hc.proof proof hp hv).verifyInclusion C.noble
    apply Returns.bind (guarded_returns fun _ => hd)
    intro included _
    apply Returns.early
    intro _
    apply Returns.bind hd
    intro valid _
    exact Returns.pure _

theorem consentBlock_returns (ha : C.Answered) (required : Bool) (fieldClasses : List JsString)
    (r : Report) : Returns (consentBlock C required fieldClasses r) := by
  apply Returns.when
  intro _
  apply Returns.bind (disclosureConsentAllows_returns ha _)
  intro consent _
  exact Returns.pure _

theorem checkpointHashForPolicy_returns {checkpoint : BatchCheckpointV1}
    (h : Encodable (.obj checkpoint.toFields)) (H : Host) :
    Returns (checkpointHashForPolicy H checkpoint) := by
  apply Returns.ite
  · intro _
    exact hashDomain_total (encodableFields_without h _) _ _
  · intro _
    exact hashDomain_total (encodableFields_without h _) _ _

theorem checkpointHashForPolicy_returns_hex (h : checkpointHashForPolicy H checkpoint = .ok c) :
    Returns (hexToBytes c) := by
  obtain ⟨bytes, rfl⟩ := checkpointHashForPolicy_hex h
  exact returns_bytesToHex bytes

theorem receipt_encodable (receipt : ReceiptCommitmentV1) : EncodableFields receipt.toFields := by
  simp [ReceiptCommitmentV1.toFields, EncodableFields, Encodable]

theorem receiptHash_returns (receipt : ReceiptCommitmentV1) (N : Noble) :
    Returns (receiptHash N receipt) :=
  hashSignedObject_returns (encodable_withoutSignature (receipt_encodable receipt)) _ _

theorem receiptProofValid_returns (hc : Computable C) (receipt : ReceiptCommitmentV1) :
    Returns (receiptProofValid C receipt) := by
  apply Returns.bind (receiptHash_returns receipt _)
  intro commitment _
  split
  · exact Returns.pure _
  · next proof hfound =>
    apply Returns.early
    intro hvalid
    have hv : (C.validate .inclusionProof proof.toJs).valid = true := by
      simp only [Bool.or_eq_true, Bool.not_eq_true', not_or] at hvalid
      exact Bool.eq_true_of_not_eq_false hvalid.1
    have hd := hc.receipt_proofs proof (List.mem_of_find?_eq_some hfound) hv
    apply Returns.bind (hd.verifyInclusion C.noble)
    intro included _
    apply Returns.when
    intro _
    unfold receiptProofMatchesCheckpoint
    split
    · exact Returns.pure _
    · next checkpoint hcheckpoint =>
      apply Returns.bind
        (checkpointHashForPolicy_returns (hc.checkpoint checkpoint hcheckpoint) _)
      intro hash _
      exact Returns.pure _

theorem receiptSigned_returns (ha : C.Answered) (receipt : ReceiptCommitmentV1) :
    Returns (receiptSigned C receipt) := by
  apply Returns.bind (ha.resolver _ _)
  intro identity _
  split
  · exact Returns.pure _
  · exact guarded_returns fun _ => signedObject_returns
      (fun _ => encodable_withoutSignature (receipt_encodable receipt)) _ _ _ _

theorem checkReceipt_returns (ha : C.Answered) (hc : Computable C)
    (receipt : ReceiptCommitmentV1) : Returns (checkReceipt C receipt) := by
  apply Returns.early
  intro _
  apply Returns.bind (receiptSigned_returns ha receipt)
  intro signed _
  apply Returns.when
  intro _
  apply Returns.bind (receiptProofValid_returns hc receipt)
  intro included _
  exact Returns.pure _

theorem receiptsBlock_returns (ha : C.Answered) (hc : Computable C) (r : Report) :
    Returns (receiptsBlock C r) := by
  unfold receiptsBlock
  split
  · apply Returns.bind (consentBlock_returns ha _ _ _)
    rintro ⟨r, consent⟩ _
    apply Returns.bind (Returns.mapM fun receipt _ => checkReceipt_returns ha hc receipt)
    intro results _
    exact Returns.pure _
  · exact Returns.pure _

theorem attestation_encodable (attestation : AttestationV1) :
    EncodableFields attestation.toFields := by
  simp [AttestationV1.toFields, EncodableFields, Encodable]

theorem attestationsBlock_returns (ha : C.Answered) (r : Report) :
    Returns (attestationsBlock C r) := by
  unfold attestationsBlock
  split
  · apply Returns.bind (consentBlock_returns ha _ _ _)
    rintro ⟨r, consent⟩ _
    apply Returns.bind
    · apply Returns.mapM
      intro attestation _
      apply Returns.early
      intro _
      apply Returns.bind (ha.resolver _ _)
      intro identity _
      apply Returns.bind (guarded_returns fun _ => signedObject_returns
        (fun _ => encodable_withoutSignature (attestation_encodable attestation)) _ _ _ _)
      intro valid _
      exact Returns.pure _
    · intro results _
      exact Returns.pure _
  · exact Returns.pure _

theorem attestationsV2Block_returns (ha : C.Answered) (hc : Computable C) (r : Report) :
    Returns (attestationsV2Block C r) := by
  unfold attestationsV2Block
  split
  · next attestation rest hlist =>
    apply Returns.bind (consentBlock_returns ha _ _ _)
    rintro ⟨r, consent⟩ _
    apply Returns.bind
    · apply Returns.mapM
      intro item hitem
      apply Returns.early
      intro hvalid
      apply Returns.bind (ha.resolver _ _)
      intro identity _
      apply Returns.bind (guarded_returns fun _ => signedObject_returns
        (fun _ => hc.attestations_v2 item (by rw [hlist]; exact hitem) (by simpa using hvalid))
        _ _ _ _)
      intro valid _
      exact Returns.pure _
    · intro results _
      exact Returns.pure _
  · exact Returns.pure _

theorem privateFieldsBlock_returns (ha : C.Answered) (r : Report) :
    Returns (privateFieldsBlock C r) :=
  Returns.map _ (consentBlock_returns ha _ _ _)

theorem resolveIf_returns (ha : C.Answered) (valid : Bool) (trustId : TrustID)
    (timestamp : RFC3339) : Returns (C.resolveIf valid trustId timestamp) :=
  Returns.when fun _ => ha.resolver _ _

/-- An object that its schema rejects has no signer. -/
theorem resolveIf_signer (h : C.resolveIf valid trustId timestamp = .ok identity)
    (hk : ∃ k, activeKey C.host identity at_ = some k) : valid = true := by
  cases hv : valid with
  | true => rfl
  | false =>
    rw [hv] at h
    cases h
    obtain ⟨k, hk⟩ := hk
    cases hk

theorem providerRegistryBlock_returns (ha : C.Answered) (assessment : TrustAssessmentV1)
    (r : Report) : Returns (providerRegistryBlock C assessment r) := by
  apply Returns.when
  intro _
  split
  · next isProviderActive isModelRegistered hp hm =>
    obtain ⟨backend, hb, hp⟩ := Option.bind_eq_some_iff.mp hp
    obtain ⟨backend', hb', hm⟩ := Option.bind_eq_some_iff.mp hm
    apply Returns.bind ((ha.backend backend hb).providers _ hp _)
    intro active _
    apply Returns.bind ((ha.backend backend' hb').models _ hm _ _)
    intro registered _
    exact Returns.pure _
  · exact Returns.pure _

theorem assessmentBlock_returns (ha : C.Answered) (hc : Computable C) (r : Report) :
    Returns (assessmentBlock C r) := by
  unfold assessmentBlock
  split
  · exact Returns.pure _
  · next assessment hassessment =>
    apply Returns.bind (resolveIf_returns ha _ _ _)
    intro identity hidentity
    apply Returns.bind (providerRegistryBlock_returns ha _ _)
    intro r _
    apply Returns.bind
    · exact guarded_returns fun _ => signedObject_returns (fun hk =>
        hc.assessment assessment hassessment (resolveIf_signer hidentity hk)) _ _ _ _
    · intro valid _
      exact Returns.ite (fun _ => Returns.pure _) fun _ => Returns.pure _

theorem scoringProfileBlock_returns (ha : C.Answered) (hc : Computable C) (r : Report) :
    Returns (scoringProfileBlock C r) := by
  unfold scoringProfileBlock
  split
  · next profile hprofile =>
    apply Returns.bind (resolveIf_returns ha _ _ _)
    intro identity hidentity
    apply Returns.bind
    · exact guarded_returns fun _ => signedObject_returns (fun hk =>
        hc.scoring_profile profile hprofile (resolveIf_signer hidentity hk)) _ _ _ _
    · intro valid _
      exact Returns.pure _
  · exact Returns.ite (fun _ => Returns.pure _) fun _ => Returns.pure _

theorem providerGovernanceBlock_returns (ha : C.Answered) (hc : Computable C) (r : Report) :
    Returns (providerGovernanceBlock C r) := by
  apply Returns.when
  intro _
  split
  · exact Returns.pure _
  · next governance hgovernance =>
    apply Returns.bind
    · apply Returns.bind (resolveIf_returns ha _ _ _)
      intro identity _
      exact guarded_returns fun _ => signedHash_returns
        (fun _ => hc.provider_governance_status governance hgovernance) _ _ _
    · intro signed _
      exact Returns.pure _

theorem assessmentV2Block_returns (ha : C.Answered) (hc : Computable C) (r : Report) :
    Returns (assessmentV2Block C r) := by
  unfold assessmentV2Block
  split
  · next assessment hassessment =>
    apply Returns.bind (resolveIf_returns ha _ _ _)
    intro identity hidentity
    apply Returns.bind
    · exact guarded_returns fun _ => signedObject_returns (fun hk =>
        hc.assessment_v2 assessment hassessment (resolveIf_signer hidentity hk)) _ _ _ _
    · intro valid _
      exact Returns.ite (fun _ => Returns.pure _) fun _ => Returns.pure _
  · exact Returns.ite (fun _ => Returns.pure _) fun _ => Returns.pure _

theorem scoringBlock_returns (ha : C.Answered) (hc : Computable C) (r : Report) :
    Returns (scoringBlock C r) := by
  apply Returns.when
  intro _
  apply Returns.bind (scoringProfileBlock_returns ha hc r)
  intro r _
  apply Returns.bind (providerGovernanceBlock_returns ha hc _)
  intro r _
  exact assessmentV2Block_returns ha hc r

theorem metadataBlock_returns (ha : C.Answered) (hc : Computable C) (r : Report) :
    Returns (metadataBlock C r) := by
  apply Returns.when
  intro _
  apply Returns.bind
  · apply Returns.mapM
    intro fingerprint hm
    apply Returns.bind (resolveIf_returns ha _ _ _)
    intro identity hidentity
    apply Returns.bind
    · exact guarded_returns fun _ => signedObject_returns (fun hk =>
        hc.metadata_fingerprints fingerprint hm (resolveIf_signer hidentity hk)) _ _ _ _
    · intro valid _
      exact Returns.pure _
  · intro results _
    exact Returns.ite (fun _ => Returns.pure _) fun _ => Returns.pure _

theorem graphArtifactsBlock_accepts
    (h : (graphArtifactsBlock C r).passes .graph_artifacts_valid = true)
    (hv : C.input.graph_feature_vector = some vector) :
    (C.validate .graphFeatureVectorV1 (.obj vector.toFields)).valid = true := by
  have hall : (graphValidations C).all (fun validation =>
      validation.all SchemaValidationResult.valid) = true := by
    simp only [graphArtifactsBlock, Report.keep, Report.passes, Report.check_same, beq_iff_eq,
      Option.some.injEq, Bool.and_eq_true] at h
    exact h.2
  have hvector := List.all_eq_true.mp hall
    (C.validateOption .graphFeatureVectorV1
      (C.input.graph_feature_vector.map GraphFeatureVectorV1.toFields))
    (by simp [graphValidations])
  rw [hv] at hvector
  exact hvector

theorem graphVectorBlock_returns (ha : C.Answered) (hc : Computable C) (r : Report) :
    Returns (graphVectorBlock C (graphArtifactsBlock C r)) := by
  unfold graphVectorBlock
  split
  · exact Returns.pure _
  · next vector hvector =>
    apply Returns.bind (ha.resolver _ _)
    intro identity _
    apply Returns.bind
    · apply guarded_returns
      intro hguard
      simp only [Bool.and_eq_true] at hguard
      exact signedObject_returns (fun _ => hc.graph_feature_vector vector hvector
        (graphArtifactsBlock_accepts hguard.1.1 hvector)) _ _ _ _
    · intro signed _
      exact Returns.pure _

theorem opens_returns (h : Encodable opening) (commitment : Option Hex32) :
    Returns (opens C commitment opening) := by
  apply Returns.bind (canonicalHash_total h)
  intro hash _
  exact Returns.pure _

theorem manifoldOpened_returns (hc : Computable C) {manifold : ManifoldProfile}
    (hm : C.input.graph_profile.bind GraphProfileV2.manifold_profile = some manifold) :
    Returns (manifoldOpened C manifold) := by
  obtain ⟨htrusted, hadversarial, hcluster, hcovariance⟩ := hc.manifold manifold hm
  apply Returns.bind
  · apply Returns.bind (opens_returns htrusted _)
    intro trusted _
    apply Returns.early
    intro _
    apply Returns.bind (opens_returns hadversarial _)
    intro adversarial _
    apply Returns.early
    intro _
    apply Returns.bind (opens_returns hcluster _)
    intro cluster _
    apply Returns.early
    intro _
    exact opens_returns hcovariance _
  · intro matched _
    exact Returns.pure _

theorem exactFormulasBlock_returns (hc : Computable C) (r : Report) :
    Returns (exactFormulasBlock C r) := by
  unfold exactFormulasBlock
  split
  · exact Returns.pure _
  · apply Returns.when
    intro _
    dsimp only
    split
    · exact Returns.pure _
    · next manifold hm =>
      apply Returns.when
      intro _
      apply Returns.bind (manifoldOpened_returns hc hm)
      intro opened _
      exact Returns.pure _

theorem seedGovernanceProfileValid_returns (ha : C.Answered)
    (h : ∀ p, some p = profile →
      (C.validate .seedGovernanceProfileV1 (.obj p.toFields)).valid = true →
        Encodable (.obj (deleteField p.toFields (js "signature"))))
    (seedClass : SeedClass) (seeds : List TrustID) (expectedSeed expectedGovernance : Option Hex32) :
    Returns (seedGovernanceProfileValid C profile seedClass seeds expectedSeed
      expectedGovernance) := by
  unfold seedGovernanceProfileValid
  cases profile with
  | none => exact Returns.pure _
  | some p =>
    dsimp only
    apply Returns.early
    intro _
    apply Returns.early
    intro hvalid
    have hp := h p rfl (by simpa using hvalid)
    have hhash : Returns (seedGovernanceProfileHash C.noble p) := canonicalHash_total hp
    have hsigned : ∀ issuer signature, Returns (signedBy C.host issuer
        (seedGovernanceProfileHash C.noble p) signature) :=
      fun _ _ => signedHash_returns (fun _ => hp) _ _ _
    apply Returns.bind (canonicalHash_total (encodable_textList _))
    intro seedCommitment _
    apply Returns.early
    intro _
    apply Returns.ite
    · intro _
      apply Returns.bind hhash
      intro hash _
      apply Returns.early
      intro _
      apply Returns.early
      intro _
      apply Returns.bind (ha.resolver _ _)
      intro identity _
      exact hsigned _ _
    · intro _
      apply Returns.early
      intro _
      apply Returns.bind (ha.resolver _ _)
      intro identity _
      exact hsigned _ _

theorem seedGovernanceBlock_returns (ha : C.Answered) (hc : Computable C) (r : Report) :
    Returns (seedGovernanceBlock C r) := by
  apply Returns.when
  intro _
  apply Returns.bind (canonicalHash_total (encodable_textList _))
  intro trustedCommitment _
  apply Returns.bind (canonicalHash_total (encodable_textList _))
  intro adversarialCommitment _
  apply Returns.bind (seedGovernanceProfileValid_returns ha
    (fun p hp => hc.seed_governance p (.inl hp)) _ _ _ _)
  intro trustedValid _
  apply Returns.bind (seedGovernanceProfileValid_returns ha
    (fun p hp => hc.seed_governance p (.inr hp)) _ _ _ _)
  intro adversarialValid _
  exact Returns.pure _

theorem sybilSignatureBlock_returns (ha : C.Answered) (hc : Computable C) (r : Report) :
    Returns (sybilSignatureBlock C r) := by
  unfold sybilSignatureBlock
  split
  · exact Returns.pure _
  · next sybil hsybil =>
    apply Returns.bind (ha.resolver _ _)
    intro identity _
    apply Returns.bind (guarded_returns fun _ => signedObject_returns
      (fun _ => hc.sybil_assessment sybil hsybil) _ _ _ _)
    intro signed _
    exact Returns.pure _

theorem driftSignatureBlock_returns (ha : C.Answered) (hc : Computable C) (r : Report) :
    Returns (driftSignatureBlock C r) := by
  unfold driftSignatureBlock
  split
  · exact Returns.pure _
  · next drift hdrift =>
    apply Returns.bind (ha.resolver _ _)
    intro identity _
    apply Returns.bind (guarded_returns fun _ => signedObject_returns
      (fun _ => hc.drift_report drift hdrift) _ _ _ _)
    intro signed _
    exact Returns.pure _

theorem recomputeGraphBlock_returns (hc : Computable C) (r : Report) :
    Returns (recomputeGraphBlock C r) := by
  unfold recomputeGraphBlock
  split
  · exact Returns.pure _
  · exact Returns.pure _
  · next graph hgraph =>
    unfold recomputeSybilBlock
    split
    · next profile sybil hprofile hsybil =>
      apply Returns.bind (hc.sybil profile hprofile sybil hsybil graph hgraph)
      intro recomputed _
      exact Returns.pure _
    · exact Returns.pure _

theorem recomputeDriftBlock_returns (hc : Computable C) (r : Report) :
    Returns (recomputeDriftBlock C r) := by
  unfold recomputeDriftBlock
  split
  · exact Returns.pure _
  · next drift hdrift =>
    dsimp only
    split
    · exact Returns.pure _
    · next history hhistory =>
      apply Returns.bind (hc.drift drift hdrift history hhistory)
      intro recomputed _
      exact Returns.pure _

theorem graphBlock_returns (ha : C.Answered) (hc : Computable C) (r : Report) :
    Returns (graphBlock C r) := by
  apply Returns.when
  intro _
  apply Returns.bind (graphVectorBlock_returns ha hc r)
  intro r _
  apply Returns.bind (exactFormulasBlock_returns hc _)
  intro r _
  apply Returns.bind (seedGovernanceBlock_returns ha hc r)
  intro r _
  apply Returns.bind (sybilSignatureBlock_returns ha hc r)
  intro r _
  apply Returns.bind (driftSignatureBlock_returns ha hc r)
  intro r _
  apply Returns.bind (recomputeGraphBlock_returns hc r)
  intro r _
  apply Returns.bind (recomputeDriftBlock_returns hc r)
  intro r _
  exact Returns.pure _

theorem zkBlock_returns (hc : Computable C) (r : Report) : Returns (zkBlock C r) := by
  apply Returns.when
  intro _
  apply Returns.bind
  · apply Returns.mapM
    intro proof hm
    apply Returns.bind
    · apply guarded_returns
      intro hguard
      simp only [Bool.and_eq_true] at hguard
      exact hc.zk proof hm hguard.1
    · intro valid _
      exact Returns.pure _
  · intro results _
    exact Returns.pure _

theorem verifyAgentDelegation_returns (ha : C.Answered) {delegation : AgentDelegationV1}
    (h : Encodable (.obj (deleteField (deleteField delegation.toFields
      (js "controller_signature")) (js "agent_signature")))) (scope : Option JsString)
    (atTime : RFC3339) :
    Returns (verifyAgentDelegation C.host C.resolver delegation scope atTime) := by
  unfold verifyAgentDelegation
  iterate 3
    apply Returns.early
    intro _
  apply Returns.bind (ha.resolver _ _)
  intro controller _
  apply Returns.bind (ha.resolver _ _)
  intro agent _
  apply Returns.bind (hashDomain_total h _ _)
  intro hash hhash
  obtain ⟨bytes, -, hhash⟩ := bind_eq_ok.mp hhash
  cases hhash
  have hsigned : ∀ key signature, Returns (signedBy C.host key
      (Pure.pure (hashDomain C.host.noble DOMAIN_TAGS.AGENT_DELEGATION_V1 bytes)) signature) := by
    intro key signature
    apply signedBy_returns
    · intro _
      exact Returns.pure _
    · intro c hc
      cases hc
      exact returns_bytesToHex _
  apply Returns.when
  intro _
  apply Returns.bind (hsigned _ _)
  intro controllerSigned _
  apply Returns.when
  intro _
  exact hsigned _ _

theorem delegationsBlock_returns (ha : C.Answered) (hc : Computable C) (r : Report) :
    Returns (delegationsBlock C r) := by
  apply Returns.when
  intro _
  apply Returns.bind
  · apply Returns.mapM
    intro delegation hm
    apply Returns.bind
    · apply guarded_returns
      intro hguard
      simp only [Bool.and_eq_true] at hguard
      exact verifyAgentDelegation_returns ha (hc.delegations delegation hm hguard.1) _ _
    · intro valid _
      exact Returns.pure _
  · intro results _
    exact Returns.pure _

theorem checkActions_returns (ha : C.Answered) (hc : Computable C) {actions : List AgentActionV2}
    (hm : ∀ action ∈ actions, action ∈ C.input.agent_actions.getD [])
    (publicKeys : Collections.OrderedMap TrustID JsString) :
    Returns (checkActions C publicKeys actions) := by
  induction actions generalizing publicKeys with
  | nil => exact Returns.pure _
  | cons action rest ih =>
    apply Returns.bind (resolveIf_returns ha _ _ _)
    intro identity _
    dsimp only
    have hrest := ih fun a ha => hm a (List.mem_cons_of_mem _ ha)
    split
    · next policies hvalid hpolicies =>
      apply Returns.bind
        (hc.actions policies hpolicies action (hm action List.mem_cons_self) _ hvalid)
      intro result _
      apply Returns.bind (hrest _)
      intro results _
      exact Returns.pure _
    · apply Returns.bind (Returns.pure _)
      intro result _
      apply Returns.bind (hrest _)
      intro results _
      exact Returns.pure _

theorem agentActionsBlock_returns (ha : C.Answered) (hc : Computable C) (r : Report) :
    Returns (agentActionsBlock C r) := by
  apply Returns.when
  intro _
  apply Returns.bind
  · apply Returns.mapM
    intro policy hm
    apply Returns.bind (resolveIf_returns ha _ _ _)
    intro identity hidentity
    apply Returns.bind
    · exact guarded_returns fun _ => signedObject_returns (fun hk =>
        hc.delegation_policies policy hm (resolveIf_signer hidentity hk)) _ _ _ _
    · intro signed _
      exact Returns.ite (fun _ => Returns.pure _) fun _ => Returns.pure _
  · intro policies _
    apply Returns.bind (checkActions_returns ha hc (fun _ h => h) _)
    intro actions _
    exact Returns.pure _

theorem currentCheckpointHash_returns (hc : Computable C) : Returns (currentCheckpointHash C) := by
  unfold currentCheckpointHash
  split
  · next checkpoint hcheckpoint =>
    exact Returns.map _ (checkpointHashForPolicy_returns (hc.checkpoint _ hcheckpoint) _)
  · exact Returns.pure _

theorem consistencyBlock_returns (hc : Computable C) (r : Report) :
    Returns (consistencyBlock C r) := by
  apply Returns.when
  intro _
  apply Returns.bind
  · apply Returns.mapM
    intro proof _
    apply Returns.bind (currentCheckpointHash_returns hc)
    intro current _
    exact Returns.pure _
  · intro results _
    exact Returns.pure _

theorem checkpointRootBound_returns (hc : Computable C) (proof : SetNonMembershipProofV1) :
    Returns (checkpointRootBound C proof) := by
  apply Returns.when
  intro _
  split
  · exact Returns.pure _
  · next checkpoint hcheckpoint =>
    apply Returns.bind (checkpointHashForPolicy_returns (hc.checkpoint _ hcheckpoint) _)
    intro hash _
    exact Returns.pure _

theorem nonMembershipBlock_returns (hc : Computable C) (r : Report) :
    Returns (nonMembershipBlock C r) := by
  apply Returns.when
  intro _
  apply Returns.bind
  · apply Returns.mapM
    intro proof hm
    apply Returns.bind
    · apply Returns.bind (checkpointRootBound_returns hc proof)
      intro bound _
      apply guarded_returns
      intro hguard
      simp only [Bool.and_eq_true] at hguard
      exact hc.non_membership proof hm hguard.1.1.1
    · intro valid _
      exact Returns.pure _
  · intro results _
    exact Returns.pure _

theorem governancePolicyBlock_returns (ha : C.Answered) (hc : Computable C) (r : Report) :
    Returns (governancePolicyBlock C r) := by
  unfold governancePolicyBlock
  split
  · exact Returns.ite (fun _ => Returns.pure _) fun _ => Returns.pure _
  · next governance hgovernance =>
    apply Returns.bind (ha.resolver _ _)
    intro identity _
    apply Returns.bind
    · apply guarded_returns
      intro hguard
      simp only [Bool.and_eq_true] at hguard
      exact signedObject_returns
        (fun _ => hc.governance_policy governance hgovernance hguard.1.1.2) _ _ _ _
    · intro valid _
      exact Returns.ite (fun _ => Returns.pure _) fun _ => Returns.pure _

theorem auditBlock_returns (ha : C.Answered) (hc : Computable C) (r : Report) :
    Returns (auditBlock C r) := by
  apply Returns.when
  intro _
  apply Returns.bind
  · apply Returns.mapM
    intro finding hm
    apply Returns.bind (resolveIf_returns ha _ _ _)
    intro identity hidentity
    apply Returns.bind (signedObject_returns (fun hk =>
      hc.audit_findings finding hm (resolveIf_signer hidentity hk)) _ _ _ _)
    intro signed _
    apply Returns.bind (currentCheckpointHash_returns hc)
    intro expected _
    exact Returns.pure _
  · intro results _
    exact Returns.pure _

theorem checkpointBlock_returns (ha : C.Answered) (hc : Computable C) (r : Report) :
    Returns (checkpointBlock C r) := by
  unfold checkpointBlock
  split
  · exact Returns.pure _
  · next checkpoint hcheckpoint =>
    have hhash := checkpointHashForPolicy_returns (hc.checkpoint _ hcheckpoint) C.host
    apply Returns.early
    intro _
    apply Returns.bind
    · apply Returns.when
      intro _
      apply Returns.bind hhash
      intro hash _
      exact Returns.pure _
    · intro identityMatches _
      apply Returns.bind
      · apply Returns.bind (ha.resolver _ _)
        intro identity _
        apply Returns.early
        intro _
        exact signedBy_returns (fun _ => hhash) (fun _ => checkpointHashForPolicy_returns_hex) _ _
      · intro signed _
        exact Returns.pure _

theorem checkpointMatchBlock_returns (hc : Computable C) (r : Report) :
    Returns (checkpointMatchBlock C r) := by
  unfold checkpointMatchBlock
  split
  · next proof checkpoint hproof hcheckpoint =>
    apply Returns.when
    intro _
    apply Returns.bind
    · apply Returns.when
      intro _
      apply Returns.bind (checkpointHashForPolicy_returns (hc.checkpoint _ hcheckpoint) _)
      intro hash _
      exact Returns.pure _
    · intro sameRoot _
      exact Returns.pure _
  · exact Returns.pure _

theorem settlementEvidenceError_returns (hc : Computable C) {evidence : SettlementEvidenceV1}
    (hm : evidence ∈ C.input.settlement_evidence.getD []) (checkpoint : BatchCheckpointV1)
    (checkpointHash fieldsHash : Hex32) :
    Returns (settlementEvidenceError C checkpoint checkpointHash fieldsHash evidence) := by
  apply Returns.early
  intro hvalid
  obtain ⟨hoffline, hevent, hcommitment, hproof⟩ :=
    hc.settlement evidence hm (by simpa using hvalid)
  apply Returns.bind (hoffline _ rfl)
  intro offline _
  apply Returns.early
  intro _
  apply Returns.bind hevent
  intro eventHash _
  apply Returns.bind hcommitment
  intro commitmentMatches _
  apply Returns.bind hproof
  intro offlineMatches _
  exact Returns.ite (fun _ => Returns.pure _) fun _ => Returns.pure _

theorem firstSettlement_returns {check : SettlementEvidenceV1 → Js (Option String)}
    {evidence : List SettlementEvidenceV1} (h : ∀ e ∈ evidence, Returns (check e))
    (lastError : String) : Returns (firstSettlement check lastError evidence) := by
  induction evidence generalizing lastError with
  | nil => exact Returns.pure _
  | cons e rest ih =>
    apply Returns.bind (h e List.mem_cons_self)
    intro found _
    cases found with
    | none => exact Returns.pure _
    | some error => exact ih (fun e he => h e (List.mem_cons_of_mem _ he)) error

theorem settlementEvidenceBlock_returns (hc : Computable C) (r : Report) :
    Returns (settlementEvidenceBlock C r) := by
  unfold settlementEvidenceBlock
  split
  · next checkpoint evidence rest hcheckpoint hevidence =>
    apply Returns.bind (checkpointHashForPolicy_returns (hc.checkpoint _ hcheckpoint) _)
    intro hash _
    apply Returns.bind
    · apply Returns.bind (hc.fields checkpoint hcheckpoint)
      intro fieldsHash _
      apply firstSettlement_returns
      intro e he
      exact settlementEvidenceError_returns hc (by rw [hevidence]; exact he) _ _ _
    · intro outcome _
      exact Returns.ite (fun _ => Returns.pure _) fun _ => Returns.pure _
  · exact Returns.pure _

theorem settlementBackendBlock_returns (ha : C.Answered) (r : Report) :
    Returns (settlementBackendBlock C r) := by
  unfold settlementBackendBlock
  split
  · next checkpoint backend hcheckpoint hbackend =>
    apply Returns.early
    intro _
    apply Returns.bind ((ha.backend backend hbackend).settlement checkpoint)
    intro settlement _
    dsimp only
    apply Returns.early
    intro _
    split
    · exact Returns.ite (fun _ => Returns.pure _) fun _ => Returns.pure _
    · exact Returns.pure _
  · exact Returns.pure _

theorem finalAssessmentBlock_returns (hc : Computable C) (r : Report) :
    Returns (finalAssessmentBlock C r) := by
  unfold finalAssessmentBlock
  split
  · exact Returns.pure _
  · apply Returns.bind
    · unfold coverageMatches
      split
      · exact Returns.pure _
      · next coverage hcoverage =>
        apply Returns.when
        intro _
        apply Returns.when
        intro _
        apply Returns.bind (canonicalHash_total (hc.evidence_coverage coverage hcoverage))
        intro hash _
        exact Returns.pure _
    · intro coverage _
      exact Returns.ite (fun _ => Returns.pure _) fun _ => Returns.pure _

theorem verifierBlocks_return (ha : C.Answered) (hc : Computable C) :
    ∀ block ∈ verifierBlocks C, ∀ r, Returns (block r) := by
  simp only [verifierBlocks, List.forall_mem_cons, List.not_mem_nil, false_imp_iff, implies_true,
    and_true]
  exact ⟨chainRevocationBlock_returns ha, fun _ => Returns.pure _, revocationsBlock_returns ha,
    messageDisclosureBlock_returns ha hc, proofBlock_returns hc, receiptsBlock_returns ha hc,
    attestationsBlock_returns ha, attestationsV2Block_returns ha hc,
    privateFieldsBlock_returns ha, assessmentBlock_returns ha hc, scoringBlock_returns ha hc,
    metadataBlock_returns ha hc, graphBlock_returns ha hc, zkBlock_returns hc,
    delegationsBlock_returns ha hc, agentActionsBlock_returns ha hc, consistencyBlock_returns hc,
    nonMembershipBlock_returns hc, governancePolicyBlock_returns ha hc, auditBlock_returns ha hc,
    checkpointBlock_returns ha hc, checkpointMatchBlock_returns hc,
    settlementEvidenceBlock_returns hc, settlementBackendBlock_returns ha,
    finalAssessmentBlock_returns hc⟩

end Blocks

theorem event_encodable (envelope : EventCommitmentV1) : EncodableFields envelope.toFields := by
  simp [EventCommitmentV1.toFields, EncodableFields, Encodable]

theorem eventHash_returns (N : Noble) (envelope : EventCommitmentV1) :
    Returns (eventHash N envelope) :=
  hashSignedObject_returns (encodable_withoutSignature (event_encodable envelope)) _ _

theorem commitmentHashFromParts_returns {hash : Hex32} (h : Returns (hexToBytes hash))
    (hs : Returns (hexToBytes signature)) (N : Noble) :
    Returns (commitmentHashFromParts N hash signature) := by
  apply Returns.bind h
  intro event _
  apply Returns.bind hs
  intro bytes _
  exact Returns.pure _

/-- The run after the schema of the envelope, for evidence in the domain of its primitives: it
returns exactly when no key is looked for or the signature is a hex text. -/
theorem verifyEnvelope_returns_iff
    (ha : ∀ commitment legacy, Context.Answered
      ⟨H, tools, resolver, policy, backend, input, envelope, commitment, legacy⟩)
    (hc : ∀ commitment legacy, Computable
      ⟨H, tools, resolver, policy, backend, input, envelope, commitment, legacy⟩) :
    Returns (verifyEnvelope H tools resolver policy backend input envelope r) ↔
      resolver envelope.sender envelope.timestamp = .ok none ∨
        Returns (hexToBytes envelope.signature) := by
  obtain ⟨hash, hhash⟩ := eventHash_returns H.noble envelope
  obtain ⟨bytes, rfl⟩ := hashSignedObject_hex hhash
  constructor
  · rintro ⟨result, h⟩
    obtain ⟨event, hevent, h⟩ := bind_eq_ok.mp h
    obtain ⟨found, hi, h⟩ := bind_eq_ok.mp h
    cases found with
    | none => exact .inl hi
    | some identity =>
      obtain ⟨commitment, hcommitment, -⟩ := bind_eq_ok.mp h
      obtain ⟨_, -, hcommitment⟩ := bind_eq_ok.mp hcommitment
      obtain ⟨signature, hs, -⟩ := bind_eq_ok.mp hcommitment
      exact .inr ⟨signature, hs⟩
  · intro hcases
    apply Returns.bind ⟨_, hhash⟩
    intro event hevent
    cases hhash.symm.trans hevent
    apply Returns.bind ((ha ZERO_HASH ZERO_HASH).resolver _ _)
    intro found hi
    cases found with
    | none => exact Returns.pure _
    | some identity =>
      have hs : Returns (hexToBytes envelope.signature) := by
        refine hcases.resolve_left ?_
        intro hnone
        cases hi.symm.trans hnone
      apply Returns.bind (commitmentHashFromParts_returns (returns_bytesToHex bytes) hs _)
      intro commitment _
      apply Returns.bind
      · apply Returns.bind (returns_bytesToHex bytes)
        intro event _
        apply Returns.bind hs
        intro signature _
        exact Returns.pure _
      · intro legacy _
        apply Returns.bind (keyBlock_returns (returns_bytesToHex bytes) _ _)
        intro keyed _
        apply Returns.bind
          (pipeline_returns (verifierBlocks_return (ha commitment legacy) (hc commitment legacy)) _)
        intro final _
        exact Returns.pure _

theorem verifyTSL_envelope {policy : VerifierPolicy JsField}
    (he : (expandProofBundleInput H input).1.envelope = some envelope)
    (hv : (H.validateSchema .event (.obj envelope.toFields)).valid = true) :
    verifyTSL H tools input resolver policy backend =
      verifyEnvelope H tools resolver policy.withDefaults backend
        (expandProofBundleInput H input).1 envelope
        ((openingReport H policy.withDefaults (expandProofBundleInput H input).1
          (expandProofBundleInput H input).2).check .schema_valid true) := by
  simp only [verifyTSL, he, optional, hv, Bool.not_true, Bool.false_eq_true, ↓reduceIte]

/-- The sample event with a signature of one hex digit, which its schema accepts. -/
def oddInput : VerifyTSLInput :=
  { signedInput with envelope := .value { sampleEnvelope with signature := js "0x0" } }

/-- Evidence that is a message, a proof and a checkpoint alone is in the domain of the primitives
when these are. -/
theorem Computable.of_parts {C : Context} {disclosure : Option MessageDisclosure}
    (hs : ∀ d ∈ disclosure, ∀ salt ∈ d.content_salt, Returns (hexToBytes salt))
    (hp : ∀ proof ∈ C.input.proof, InclusionDomain proof)
    (hc : ∀ checkpoint ∈ C.input.checkpoint, Encodable (.obj checkpoint.toFields))
    (hf : ∀ checkpoint ∈ C.input.checkpoint,
      Returns (C.tools.contractCheckpointFieldsHashForCheckpoint checkpoint))
    (hr : C.input.receipt_proofs = none)
    (h : C.input.toEvidence =
      { (Evidence.fill fun _ => none : Evidence Option) with message_disclosure := disclosure }) :
    Computable C := by
  obtain ⟨H, tools, resolver, policy, backend, input, envelope, commitment, legacy⟩ := C
  obtain ⟨evidence, bundle, event, proof, receipts, checkpoint, manifest⟩ := input
  dsimp only at hp hc hf hr h
  subst hr h
  constructor
  case toRecomputes =>
    constructor
    case fields => exact hf
    all_goals simp [Evidence.fill]
  case salt => exact fun d h _ => hs d h
  case proof => exact fun p h _ => hp p h
  case checkpoint => exact hc
  all_goals simp [Evidence.fill]

end Continuity
