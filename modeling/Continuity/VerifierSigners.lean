import Continuity.VerifierSound

namespace Continuity
open Frames
set_option autoImplicit true

/-- The signature verifies under an ed25519 key of the signer that is active at the time. -/
def LiveSigned (H : Host) (resolver : TrustResolver) (signer : TrustID) (timestamp : RFC3339)
    (hash : Js Hex32) (signature : HexSig) : Prop :=
  ∃ identity key h, resolver signer timestamp = .ok (some identity) ∧
    key ∈ identity.verification_methods ∧ key.type = .ed25519 ∧
    keyActiveAt H key timestamp = true ∧ hash = .ok h ∧
    verifyEd25519 H.noble key.public_key h signature = .ok true

/-- The key that the object names is active at the time, or another key of the signer is and
verifies the signature as well. -/
def NamedKeyLive (H : Host) (resolver : TrustResolver) (signer : TrustID) (keyId : JsString)
    (timestamp : RFC3339) (hash : Js Hex32) (signature : HexSig) : Prop :=
  ∃ identity named, resolver signer timestamp = .ok (some identity) ∧
    findVerificationMethod identity keyId = some named ∧
    (keyActiveAt H named timestamp = true ∨ ∃ other ∈ identity.verification_methods,
      other ≠ named ∧ other.type = .ed25519 ∧ keyActiveAt H other timestamp = true ∧
        ∃ h, hash = .ok h ∧ verifyEd25519 H.noble other.public_key h signature = .ok true)

/-- All the signed evidence of an input is signed by keys that are active at its own time. -/
structure EvidenceLive (H : Host) (resolver : TrustResolver) (input : ExpandedInput) : Prop where
  receipts : ∀ receipt ∈ input.receipts.getD [], LiveSigned H resolver receipt.receiver
    receipt.timestamp (receiptHash H.noble receipt) receipt.signature
  attestations : ∀ attestation ∈ input.attestations.getD [], LiveSigned H resolver
    attestation.issuer attestation.issued_at (attestationHash H.noble attestation)
    attestation.signature
  attestations_v2 : ∀ attestation ∈ input.attestations_v2.getD [], LiveSigned H resolver
    attestation.issuer attestation.issued_at (attestationV2Hash H.noble attestation)
    attestation.signature
  assessment : ∀ assessment, input.assessment = some assessment → LiveSigned H resolver
    assessment.issuer assessment.issued_at (assessmentHash H.noble assessment)
    assessment.signature
  assessment_v2 : ∀ assessment, input.assessment_v2 = some assessment → LiveSigned H resolver
    assessment.issuer assessment.issued_at (trustAssessmentV2Hash H.noble assessment)
    assessment.signature
  scoring_profile : ∀ profile, input.scoring_profile = some profile → LiveSigned H resolver
    profile.provider profile.issued_at (scoringProfileV2Hash H.noble profile) profile.signature
  governance_policy : ∀ governance, input.governance_policy = some governance →
    LiveSigned H resolver governance.authority governance.issued_at
      (governancePolicyHash H.noble governance) governance.signature
  audit_findings : ∀ finding ∈ input.audit_findings.getD [], LiveSigned H resolver
    finding.auditor finding.issued_at (auditFindingHash H.noble finding) finding.signature

/-- The keys that are looked up by name alone are active at the time of their objects. -/
structure NamedKeysLive (H : Host) (resolver : TrustResolver) (input : ExpandedInput) : Prop where
  attestations_v2 : ∀ attestation ∈ input.attestations_v2.getD [], NamedKeyLive H resolver
    attestation.issuer attestation.signing_key_id attestation.issued_at
    (attestationV2Hash H.noble attestation) attestation.signature
  governance_policy : ∀ governance, input.governance_policy = some governance →
    NamedKeyLive H resolver governance.authority governance.authority_key_id governance.issued_at
      (governancePolicyHash H.noble governance) governance.signature

section Signers

variable {H : Host} {resolver : TrustResolver} {hash : Js Hex32}

theorem liveSigned_of_active (hr : resolver signer timestamp = .ok identity)
    (h : signedBy H (activeKey H identity timestamp) hash signature = .ok true) :
    LiveSigned H resolver signer timestamp hash signature := by
  obtain ⟨key, c, hk, ht, hc, hv⟩ := signedBy_true.mp h
  obtain ⟨document, rfl, hm, ha⟩ := activeKey_some hk
  exact ⟨document, key, c, hr, hm, ht, ha, hc, hv⟩

/-- A signature that was checked under a named key. -/
def NamedSigned (H : Host) (resolver : TrustResolver) (signer : TrustID) (keyId : JsString)
    (timestamp : RFC3339) (hash : Js Hex32) (signature : HexSig) : Prop :=
  ∃ identity, resolver signer timestamp = .ok identity ∧
    signedBy H (namedKey identity keyId) hash signature = .ok true

/-- For a signature under the named key, a live key is one that is named or another one. -/
theorem NamedSigned.live_iff (h : NamedSigned H resolver signer keyId timestamp hash signature) :
    LiveSigned H resolver signer timestamp hash signature ↔
      NamedKeyLive H resolver signer keyId timestamp hash signature := by
  obtain ⟨found, hr, hs⟩ := h
  obtain ⟨named, c, hk, ht, hc, hv⟩ := signedBy_true.mp hs
  cases found with
  | none => cases hk
  | some identity =>
    constructor
    · rintro ⟨identity', key, c', hr', hm, ht', ha, hc', hv'⟩
      cases hr.symm.trans hr'
      refine ⟨identity, named, hr, hk, ?_⟩
      by_cases hne : key = named
      · exact .inl (hne ▸ ha)
      · exact .inr ⟨key, hm, hne, ht', ha, c', hc', hv'⟩
    · rintro ⟨identity', named', hr', hk', hlive⟩
      cases hr.symm.trans hr'
      cases hk.symm.trans hk'
      rcases hlive with ha | ⟨other, hm, -, ht', ha, c', hc', hv'⟩
      · exact ⟨identity, named, c, hr, List.mem_of_find?_eq_some hk, ht, ha, hc, hv⟩
      · exact ⟨identity, other, c', hr, hm, ht', ha, hc', hv'⟩

end Signers

section Blocks

variable {C : Context} {r r' : Report}

theorem Report.record_quiet {results : List ItemResult}
    (h : (r.record name results).errors = []) : ∀ item ∈ results, item.errors = [] := by
  intro item hm
  have hflat := (List.append_eq_nil_iff.mp h).2
  exact List.flatMap_eq_nil_iff.mp hflat item hm

theorem Report.gate_quiet {results : List ItemResult}
    (h : (r.gate name required results missing text).errors = []) :
    ∀ item ∈ results, item.errors = [] := by
  rw [Report.gate, Report.explainIf_errors] at h
  intro item hm
  exact Report.record_quiet h item (List.mem_append_left _ hm)

theorem checkReceipt_signed (h : checkReceipt C receipt = .ok item) (hq : item.errors = []) :
    receiptSigned C receipt = .ok true := by
  unfold checkReceipt at h
  dsimp only at h
  split at h
  · cases h
    cases hq
  · obtain ⟨signed, hs, h⟩ := bind_eq_ok.mp h
    cases signed with
    | true => exact hs
    | false =>
      split at h
      · obtain ⟨included, -, h⟩ := bind_eq_ok.mp h
        cases h
        cases hq
      · cases h
        cases hq

theorem receiptSigned_live (h : receiptSigned C receipt = .ok true) :
    LiveSigned C.host C.resolver receipt.receiver receipt.timestamp
      (receiptHash C.noble receipt) receipt.signature := by
  obtain ⟨found, hr, h⟩ := bind_eq_ok.mp h
  split at h
  · cases h
  · next key hk =>
    obtain ⟨hcond, hs⟩ := guarded_true.mp h
    simp only [Bool.and_eq_true, decide_eq_true_eq] at hcond
    obtain ⟨_, c, he, ht, hc, hv⟩ := signedBy_true.mp hs
    cases he
    cases found with
    | none => cases hk
    | some identity =>
      exact ⟨identity, key, c, hr, List.mem_of_find?_eq_some hk, ht, hcond.2, hc, hv⟩

theorem getD_nil_or (items : Option (List α)) :
    items.getD [] = [] ∨ ∃ first rest, items = some (first :: rest) := by
  rcases items with _ | _ | ⟨first, rest⟩
  · exact .inl rfl
  · exact .inl rfl
  · exact .inr ⟨first, rest, rfl⟩

theorem receiptsBlock_live (h : receiptsBlock C r = .ok r') (hq : r'.errors = []) :
    ∀ receipt ∈ C.input.receipts.getD [], LiveSigned C.host C.resolver receipt.receiver
      receipt.timestamp (receiptHash C.noble receipt) receipt.signature := by
  intro receipt hm
  rcases getD_nil_or C.input.receipts with hn | ⟨first, rest, hi⟩
  · rw [hn] at hm
    cases hm
  · rw [hi] at hm
    rw [receiptsBlock, hi] at h
    obtain ⟨⟨r₁, consent⟩, -, h⟩ := bind_eq_ok.mp h
    obtain ⟨results, hresults, h⟩ := bind_eq_ok.mp h
    cases h
    rw [Report.explainIf_errors, Report.keepAll_errors] at hq
    obtain ⟨result, hresult, hok⟩ := mapM_mem hresults hm
    refine receiptSigned_live (checkReceipt_signed hok ?_)
    exact Report.record_quiet hq _ (List.mem_cons_of_mem _ (List.mem_map_of_mem hresult))

theorem checkAttestation_live (h : checkAttestation C attestation = .ok item)
    (hq : item.errors = []) :
    LiveSigned C.host C.resolver attestation.issuer attestation.issued_at
      (attestationHash C.noble attestation) attestation.signature := by
  unfold checkAttestation at h
  dsimp only at h
  split at h
  · cases h
    cases hq
  · obtain ⟨identity, hr, h⟩ := bind_eq_ok.mp h
    obtain ⟨valid, hv, h⟩ := bind_eq_ok.mp h
    cases h
    cases valid with
    | false => cases hq
    | true => exact liveSigned_of_active hr (guarded_true.mp hv).2

theorem attestationsBlock_live (h : attestationsBlock C r = .ok r') (hq : r'.errors = []) :
    ∀ attestation ∈ C.input.attestations.getD [], LiveSigned C.host C.resolver
      attestation.issuer attestation.issued_at (attestationHash C.noble attestation)
      attestation.signature := by
  intro attestation hm
  rcases getD_nil_or C.input.attestations with hn | ⟨first, rest, hi⟩
  · rw [hn] at hm
    cases hm
  · rw [hi] at hm
    rw [attestationsBlock, hi] at h
    obtain ⟨⟨r₁, consent⟩, -, h⟩ := bind_eq_ok.mp h
    obtain ⟨results, hresults, h⟩ := bind_eq_ok.mp h
    cases h
    rw [Report.explainIf_errors] at hq
    obtain ⟨result, hresult, hok⟩ := mapM_mem hresults hm
    exact checkAttestation_live hok (Report.record_quiet hq _ (List.mem_cons_of_mem _ hresult))

theorem checkAttestationV2_signed (h : checkAttestationV2 C attestation = .ok item)
    (hq : item.errors = []) :
    NamedSigned C.host C.resolver attestation.issuer attestation.signing_key_id
      attestation.issued_at (attestationV2Hash C.noble attestation) attestation.signature := by
  unfold checkAttestationV2 at h
  dsimp only at h
  split at h
  · cases h
    cases hq
  · obtain ⟨identity, hr, h⟩ := bind_eq_ok.mp h
    obtain ⟨valid, hv, h⟩ := bind_eq_ok.mp h
    cases h
    cases valid with
    | false => cases hq
    | true => exact ⟨identity, hr, (guarded_true.mp hv).2⟩

theorem attestationsV2Block_signed (h : attestationsV2Block C r = .ok r') (hq : r'.errors = []) :
    ∀ attestation ∈ C.input.attestations_v2.getD [], NamedSigned C.host C.resolver
      attestation.issuer attestation.signing_key_id attestation.issued_at
      (attestationV2Hash C.noble attestation) attestation.signature := by
  intro attestation hm
  rcases getD_nil_or C.input.attestations_v2 with hn | ⟨first, rest, hi⟩
  · rw [hn] at hm
    cases hm
  · rw [hi] at hm
    rw [attestationsV2Block, hi] at h
    obtain ⟨⟨r₁, consent⟩, -, h⟩ := bind_eq_ok.mp h
    obtain ⟨results, hresults, h⟩ := bind_eq_ok.mp h
    cases h
    rw [Report.explainIf_errors] at hq
    obtain ⟨result, hresult, hok⟩ := mapM_mem hresults hm
    exact checkAttestationV2_signed hok
      (Report.record_quiet hq _ (List.mem_cons_of_mem _ hresult))

theorem resolveIf_live {hash : Js Hex32} (hi : C.resolveIf valid signer timestamp = .ok identity)
    (hv : valid = true)
    (hs : signedBy C.host (activeKey C.host identity timestamp) hash signature = .ok true) :
    LiveSigned C.host C.resolver signer timestamp hash signature := by
  subst hv
  exact liveSigned_of_active hi hs

theorem assessmentBlock_live (h : assessmentBlock C r = .ok r') (hq : r'.errors = []) :
    ∀ assessment, C.input.assessment = some assessment → LiveSigned C.host C.resolver
      assessment.issuer assessment.issued_at (assessmentHash C.noble assessment)
      assessment.signature := by
  intro assessment ha
  rw [assessmentBlock, ha] at h
  obtain ⟨identity, hi, h⟩ := bind_eq_ok.mp h
  obtain ⟨r₁, -, h⟩ := bind_eq_ok.mp h
  obtain ⟨valid, hv, h⟩ := bind_eq_ok.mp h
  cases valid with
  | false =>
    cases h
    simp [assessmentErrors] at hq
  | true =>
    obtain ⟨hcond, hs⟩ := guarded_true.mp hv
    simp only [Bool.and_eq_true] at hcond
    exact resolveIf_live hi hcond.1.1.1.1.1.1 hs

theorem scoringProfileBlock_live (h : scoringProfileBlock C r = .ok r') (hq : r'.errors = []) :
    ∀ profile, C.input.scoring_profile = some profile → LiveSigned C.host C.resolver
      profile.provider profile.issued_at (scoringProfileV2Hash C.noble profile)
      profile.signature := by
  intro profile hp
  rw [scoringProfileBlock, hp] at h
  obtain ⟨identity, hi, h⟩ := bind_eq_ok.mp h
  obtain ⟨valid, hv, h⟩ := bind_eq_ok.mp h
  cases h
  cases valid with
  | false => simp [Report.pushIf] at hq
  | true =>
    obtain ⟨hcond, hs⟩ := guarded_true.mp hv
    simp only [Bool.and_eq_true] at hcond
    exact resolveIf_live hi hcond.1.1.1 hs

theorem assessmentV2Block_live (h : assessmentV2Block C r = .ok r') (hq : r'.errors = []) :
    ∀ assessment, C.input.assessment_v2 = some assessment → LiveSigned C.host C.resolver
      assessment.issuer assessment.issued_at (trustAssessmentV2Hash C.noble assessment)
      assessment.signature := by
  intro assessment ha
  rw [assessmentV2Block, ha] at h
  obtain ⟨identity, hi, h⟩ := bind_eq_ok.mp h
  obtain ⟨valid, hv, h⟩ := bind_eq_ok.mp h
  cases valid with
  | false =>
    cases h
    simp at hq
  | true =>
    obtain ⟨hcond, hs⟩ := guarded_true.mp hv
    simp only [Bool.and_eq_true] at hcond
    exact resolveIf_live hi hcond.1.1.1.1.1.1 hs

/-- The blocks inside the scoring block, the last of which ends without an error. -/
theorem scoringBlock_parts (h : scoringBlock C r = .ok r') (hq : r'.errors = [])
    (hs : (C.input.scoring_profile.isSome || C.input.assessment_v2.isSome ||
      isOn C.policy.require_v2_assessment) = true) :
    ∃ r₁ r₂, scoringProfileBlock C r = .ok r₁ ∧ r₁.errors = [] ∧
      (domainPolicyBlock C r₁).errors = [] ∧
      providerGovernanceBlock C (evidenceCoverageBlock C (domainPolicyBlock C r₁)) = .ok r₂ ∧
      assessmentV2Block C r₂ = .ok r' := by
  rw [scoringBlock, if_pos hs] at h
  obtain ⟨r₁, hp, h⟩ := bind_eq_ok.mp h
  obtain ⟨r₂, hg, h⟩ := bind_eq_ok.mp h
  have h₂ := (assessmentV2Block_owns C r₂ r' h).quiet hq
  have hc := (providerGovernanceBlock_owns C _ r₂ hg).quiet h₂
  have hd := (evidenceCoverageBlock_advances C (domainPolicyBlock C r₁)).quiet hc
  exact ⟨r₁, r₂, hp, (domainPolicyBlock_advances C r₁).quiet hd, hd, hg, h⟩

theorem governancePolicyBlock_signed (h : governancePolicyBlock C r = .ok r')
    (hq : r'.errors = []) :
    ∀ governance, C.input.governance_policy = some governance → NamedSigned C.host C.resolver
      governance.authority governance.authority_key_id governance.issued_at
      (governancePolicyHash C.noble governance) governance.signature := by
  intro governance hg
  rw [governancePolicyBlock, hg] at h
  obtain ⟨identity, hi, h⟩ := bind_eq_ok.mp h
  obtain ⟨valid, hv, h⟩ := bind_eq_ok.mp h
  cases valid with
  | false =>
    cases h
    simp at hq
  | true => exact ⟨identity, hi, (guarded_true.mp hv).2⟩

theorem checkAuditFinding_live (h : checkAuditFinding C finding = .ok item)
    (hq : item.errors = []) :
    LiveSigned C.host C.resolver finding.auditor finding.issued_at
      (auditFindingHash C.noble finding) finding.signature := by
  obtain ⟨identity, hi, h⟩ := bind_eq_ok.mp h
  obtain ⟨signed, hs, h⟩ := bind_eq_ok.mp h
  obtain ⟨expected, -, h⟩ := bind_eq_ok.mp h
  cases h
  dsimp only at hq
  split at hq
  · next hvalid =>
    simp only [Bool.and_eq_true] at hvalid
    obtain ⟨⟨⟨⟨hv, -⟩, hsigned⟩, -⟩, -⟩ := hvalid
    rw [hsigned] at hs
    exact resolveIf_live hi hv hs
  · cases hq

theorem auditBlock_live (h : auditBlock C r = .ok r') (hq : r'.errors = []) :
    ∀ finding ∈ C.input.audit_findings.getD [], LiveSigned C.host C.resolver finding.auditor
      finding.issued_at (auditFindingHash C.noble finding) finding.signature := by
  intro finding hm
  rcases getD_nil_or C.input.audit_findings with hn | ⟨first, rest, hi⟩
  · rw [hn] at hm
    cases hm
  · have hne : (nonEmptyList C.input.audit_findings ||
        isOn C.policy.require_audit_consistency) = true := by
      rw [hi]
      rfl
    rw [auditBlock, if_pos hne] at h
    obtain ⟨results, hresults, h⟩ := bind_eq_ok.mp h
    cases h
    obtain ⟨result, hresult, hok⟩ := mapM_mem hresults hm
    exact checkAuditFinding_live hok (Report.gate_quiet hq result hresult)

end Blocks

namespace VerifiedRun

variable {H : Host} {tools : Recomputation} {input : VerifyTSLInput} {resolver : TrustResolver}
  {policy : VerifierPolicy JsField} {backend : Option SettlementBackend}
  (V : VerifiedRun H tools input resolver policy backend)

/-- Every block of a verified run ends without an error. -/
theorem quiet_block (n : Nat) (hn : n < 25) :
    ∃ r r', ((ownedBlocks V.context)[n]).run r = .ok r' ∧ r'.errors = [] := by
  obtain ⟨r, r', -, hb, hr'⟩ := V.block n hn
  exact ⟨r, r', hb, hr'.quiet V.quiet⟩

theorem scoring_live :
    (∀ assessment, V.context.input.assessment_v2 = some assessment → LiveSigned H resolver
      assessment.issuer assessment.issued_at (trustAssessmentV2Hash H.noble assessment)
      assessment.signature) ∧
    ∀ profile, V.context.input.scoring_profile = some profile → LiveSigned H resolver
      profile.provider profile.issued_at (scoringProfileV2Hash H.noble profile)
      profile.signature := by
  obtain ⟨r, r', hb, hq⟩ := V.quiet_block 10 (by decide)
  constructor
  · intro assessment ha
    obtain ⟨_, _, -, -, -, -, hv2⟩ := scoringBlock_parts hb hq (by simp [ha])
    exact assessmentV2Block_live hv2 hq assessment ha
  · intro profile hp
    obtain ⟨_, _, hprofile, hq₁, -⟩ := scoringBlock_parts hb hq (by simp [hp])
    exact scoringProfileBlock_live hprofile hq₁ profile hp

end VerifiedRun

/-- In a verified result every signed object is signed by an active key of its signer exactly when
the keys that v2 attestations and the governance policy name are active, or others stand in for
them. -/
theorem verifyTSL_evidence_live
    (h : verifyTSL H tools input resolver policy backend = .ok result)
    (hv : result.verified = true) :
    EvidenceLive H resolver (expandProofBundleInput H input).1 ↔
      NamedKeysLive H resolver (expandProofBundleInput H input).1 := by
  obtain ⟨V⟩ := verifyTSL_run h hv
  obtain ⟨_, _, hattestations, hqa⟩ := V.quiet_block 7 (by decide)
  obtain ⟨_, _, hgovernance, hqg⟩ := V.quiet_block 18 (by decide)
  have hnamed := attestationsV2Block_signed hattestations hqa
  have hpolicy := governancePolicyBlock_signed hgovernance hqg
  constructor
  · intro hl
    exact ⟨fun attestation hm => (hnamed attestation hm).live_iff.mp (hl.attestations_v2 _ hm),
      fun governance hg => (hpolicy governance hg).live_iff.mp (hl.governance_policy _ hg)⟩
  · intro hn
    obtain ⟨_, _, hreceipts, hqr⟩ := V.quiet_block 5 (by decide)
    obtain ⟨_, _, hattested, hqt⟩ := V.quiet_block 6 (by decide)
    obtain ⟨_, _, hassessed, hqs⟩ := V.quiet_block 9 (by decide)
    obtain ⟨_, _, haudit, hqu⟩ := V.quiet_block 19 (by decide)
    exact {
      receipts := receiptsBlock_live hreceipts hqr
      attestations := attestationsBlock_live hattested hqt
      attestations_v2 := fun attestation hm =>
        (hnamed attestation hm).live_iff.mpr (hn.attestations_v2 _ hm)
      assessment := assessmentBlock_live hassessed hqs
      assessment_v2 := V.scoring_live.1
      scoring_profile := V.scoring_live.2
      governance_policy := fun governance hg =>
        (hpolicy governance hg).live_iff.mpr (hn.governance_policy _ hg)
      audit_findings := auditBlock_live haudit hqu }

/-- A public attestation about alice. -/
def sampleAttestation : AttestationV2 where
  issuer := js "did:tsl:issuer"
  signing_key_id := js "#i"
  subject := js "did:tsl:alice"
  visibility := .«public»
  issued_at := js "2026-05-25T00:00:00Z"
  signature := bytesToHex (bigEndian 32 0xeaa9275431dfc6af459709aa371e622d28d4917f5f4469534b0547211b0bacb2 ++
    bigEndian 32 0x65a9df56bd4b2ebbb490210b1e6e704d0f69910bac4879c08812a7e996408507)
  others := ⟨[(js "type", .str (js "tsl.attestation.v2")),
    (js "attestation_id",
      .str (hex32 0x8888888888888888888888888888888888888888888888888888888888888888)),
    (js "claim_class", .str (js "employment")), (js "claim_polarity", .str (js "positive")),
    (js "severity", .str (js "none")),
    (js "claim_commitment",
      .str (hex32 0x9999999999999999999999999999999999999999999999999999999999999999)),
    (js "evidence_commitment",
      .str (hex32 0xaaaaaaaaaaaaaaaaaaaaaaaaaaaaaaaaaaaaaaaaaaaaaaaaaaaaaaaaaaaaaaaa)),
    (js "evidence_policy", .str (js "public")), (js "appeal_uri", .str (js "tsl:appeal")),
    (js "valid_after", .str (js "2026-05-25T00:00:00Z")),
    (js "expires_at", .str (js "2027-01-01T00:00:00Z")),
    (js "revocation_pointer", .str (js "rev:att"))], by decide +kernel, by decide +kernel⟩

def issuerKey (expires_at : Option RFC3339) : VerificationMethodV1 :=
  { sampleKey (js "#i") 0xca93ac1705187071d67b83c7ff0efe8108e8ec4530575d7726879333dbdabe7c with expires_at }

/-- The issuer has one key, which may expire. -/
def attestedResolver (expires_at : Option RFC3339) : MemoryTrustResolver :=
  sampleResolver.upsertIdentity (sampleIdentity (js "did:tsl:issuer") (issuerKey expires_at))

def attestedInput : VerifyTSLInput :=
  { signedInput with attestations_v2 := .value [sampleAttestation] }

def attestedHost : Host :=
  let hash := bigEndian 32 0x26e2aa8c1a0b9527ec0719f1921eaf415b52ed26762bd7a403e3ab5a544781bf
  sampleHost (recorded ((domainMessage (js "tsl.attestation.v2") (valueBytes (.obj
      (withoutSignature sampleAttestation.toFields))), hash) :: signedDigests)
    ((hexBytes sampleAttestation.signature, hash, hexBytes (issuerKey none).public_key) ::
      sampleSignatures) fun _ => List.replicate 32 255)

/-- The attestation counts under an expired key as under a live one. -/
theorem attested_runs :
    VerificationResult.verified <$> verifyTSL attestedHost sampleTools attestedInput
        (attestedResolver (some (js "2026-05-01T00:00:00Z"))).resolveTrustID samplePolicy none =
          .ok true ∧
      VerificationResult.verified <$> verifyTSL attestedHost sampleTools attestedInput
        (attestedResolver none).resolveTrustID samplePolicy none = .ok true := by
  refine ⟨?_, ?_⟩ <;> decide +kernel

/-- An attestation under a key that expired weeks before it was issued is verified, and the issuer
has no other key. -/
theorem verifyTSL_attested_expired :
    let resolver := (attestedResolver (some (js "2026-05-01T00:00:00Z"))).resolveTrustID
    VerificationResult.verified <$> verifyTSL attestedHost sampleTools attestedInput resolver
        samplePolicy none = .ok true ∧
      ¬EvidenceLive attestedHost resolver (expandProofBundleInput attestedHost attestedInput).1 := by
  refine ⟨attested_runs.1, ?_⟩
  intro h
  obtain ⟨identity, key, _, hr, hm, -, hactive, -, -⟩ :=
    h.attestations_v2 sampleAttestation List.mem_cons_self
  obtain rfl : sampleIdentity (js "did:tsl:issuer") (issuerKey (some (js "2026-05-01T00:00:00Z"))) =
    identity := Option.some.inj (Except.ok.inj hr)
  obtain rfl := List.mem_singleton.mp hm
  revert hactive
  decide

theorem verifyTSL_evidence_live_sample :
    let resolver := (attestedResolver none).resolveTrustID
    VerificationResult.verified <$> verifyTSL attestedHost sampleTools attestedInput resolver
        samplePolicy none = .ok true ∧
      EvidenceLive attestedHost resolver (expandProofBundleInput attestedHost attestedInput).1 := by
  have hok : VerificationResult.verified <$> verifyTSL attestedHost sampleTools attestedInput
      (attestedResolver none).resolveTrustID samplePolicy none = .ok true :=
    attested_runs.2
  obtain ⟨result, hrun, hv⟩ := map_eq_ok.mp hok
  refine ⟨hok, (verifyTSL_evidence_live hrun hv).mpr ⟨?_, ?_⟩⟩
  · intro attestation hm
    obtain rfl := List.mem_singleton.mp hm
    exact ⟨sampleIdentity (js "did:tsl:issuer") (issuerKey none), issuerKey none, rfl, rfl,
      .inl (by decide)⟩
  · intro governance hg
    cases hg

end Continuity
