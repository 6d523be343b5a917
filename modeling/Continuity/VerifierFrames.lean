import Continuity.Verifier

namespace Continuity
open Frames
set_option autoImplicit true

/-- A block whose effect on a report stays within the checks it owns. -/
abbrev Owns (owned : List CheckName) (block : Report → Js Report) : Prop :=
  ∀ r, Within Report.view owned r (block r)

namespace Advances

@[grind ←] theorem record (h : Advances owned r r') (hm : name ∈ owned)
    (results : List ItemResult) : Advances owned r (r'.record name results) :=
  (h.check hm _).push _

@[grind ←] theorem keep (h : Advances owned r r') (hm : name ∈ owned) (value : Bool) :
    Advances owned r (r'.keep name value) :=
  h.check hm _

theorem keepAll (h : Advances owned r r') (hm : name ∈ owned) (values : List Bool) :
    Advances owned r (values.foldl (fun r value => r.keep name value) r') := by
  induction values generalizing r' with
  | nil => exact h
  | cons value rest ih => exact ih (h.keep hm value)

@[grind ←] theorem graph (h : Advances owned r r')
    (hm : CheckName.graph_artifacts_valid ∈ owned) (value : Bool) :
    Advances owned r (r'.graph value) :=
  h.check hm _

@[grind ←] theorem requireGraph (h : Advances owned r r')
    (hm : CheckName.graph_artifacts_valid ∈ owned) (condition : Bool) (error : String) :
    Advances owned r (r'.requireGraph condition error) := by
  cases condition with
  | false => exact (h.check hm false).push [error]
  | true => exact h

@[grind ←] theorem gate (h : Advances owned r r') (hm : name ∈ owned) (required : Bool)
    (results : List ItemResult) (missing text : String) :
    Advances owned r (r'.gate name required results missing text) :=
  (h.record hm _).explainIf _ _

end Advances

@[simp] theorem Report.keepAll_errors (name : CheckName) (values : List Bool) (r : Report) :
    (values.foldl (fun r value => r.keep name value) r).errors = r.errors := by
  induction values generalizing r with
  | nil => rfl
  | cons value rest ih => exact ih _

section Blocks

variable (C : Context)

theorem unsafeFixturesBlock_advances (H : Host) (policy : VerifierPolicy Option) (r : Report) :
    Advances [] r (unsafeFixturesBlock H policy r) :=
  (Advances.refl r).pushIf _ _

theorem bundleBlock_advances (H : Host) (input : ExpandedInput) (r : Report) :
    Advances [] r (bundleBlock H input r) := by
  dsimp only [bundleBlock]
  split
  · exact Advances.refl r
  · exact ((Advances.refl r).pushIf _ _).pushIf _ _

theorem redactionBlock_advances (H : Host) (input : ExpandedInput) (r : Report) :
    Advances [.redaction_manifest_valid] r (redactionBlock H input r) :=
  ((Advances.refl r).check (by simp) _).pushIf _ _

theorem keyBlock_owns (identity : IdentityDocumentV1) (hash : Hex32) :
    Owns [.key_found, .key_active, .not_revoked, .signature_valid]
      (keyBlock C identity hash) := by
  intro r
  apply Within.bind
  intro signed _
  apply Within.pure
  grind

theorem chainRevocationBlock_owns :
    Owns [.chain_revocation_checked, .not_revoked] (chainRevocationBlock C) := by
  intro r
  dsimp only [chainRevocationBlock]
  split
  · split
    · apply Within.bind
      intro revoked _
      apply Within.pure
      grind
    · apply Within.pure
      grind
  · exact Within.pure (Advances.refl r)

theorem explainKeyBlock_owns : Owns [] fun r => return explainKeyBlock r := by
  intro r
  apply Within.pure
  exact (((Advances.refl r).explainIf _ _).explainIf _ _).explainIf _ _

theorem revocationsBlock_owns :
    Owns [.revocation_state_valid, .not_revoked] (revocationsBlock C) := by
  intro r
  dsimp only [revocationsBlock]
  split
  · apply Within.bind
    intro results _
    apply Within.pure
    grind
  · exact Within.pure (Advances.refl r)

theorem messageDisclosureBlock_owns :
    Owns [.disclosure_consent_valid, .content_commitment_matches]
      (messageDisclosureBlock C) := by
  intro r
  dsimp only [messageDisclosureBlock]
  split
  · exact Within.pure (Advances.refl r)
  · split
    · apply Within.bind
      intro consent _
      apply Within.bind
      intro content _
      apply Within.pure
      grind
    · exact Within.pure (Advances.refl r)

theorem recordInclusion_owns (proof : InclusionProofV1) :
    Owns [.included_in_log, .receipt_included, .attestation_included, .revocation_included]
      (recordInclusion C proof) := by
  intro r
  apply Within.bind
  intro included _
  split
  · apply Within.pure
    grind
  · apply Within.bind
    intro valid _
    apply Within.pure
    cases proof.tree_kind <;> grind [inclusionName]

theorem proofBlock_owns :
    Owns [.included_in_log, .receipt_included, .attestation_included, .revocation_included]
      (proofBlock C) := by
  intro r
  dsimp only [proofBlock]
  split
  · exact Within.pure (Advances.refl r)
  · split
    · exact recordInclusion_owns C _ r
    · exact Within.pure ((Advances.refl r).push _)

theorem consentBlock_advances (h : consentBlock C required fieldClasses r = .ok (r', consent)) :
    Advances [.disclosure_consent_valid] r r' := by
  unfold consentBlock at h
  split at h
  · obtain ⟨allowed, -, h⟩ := bind_eq_ok.mp h
    cases h
    exact ((Advances.refl r).keep (by simp) _).pushIf _ _
  · cases h
    exact Advances.refl r

theorem receiptsBlock_owns :
    Owns [.disclosure_consent_valid, .receipt_valid, .receipt_included] (receiptsBlock C) := by
  intro r
  dsimp only [receiptsBlock]
  split
  · apply Within.bind
    rintro ⟨r', consent⟩ hc
    apply Within.bind
    intro results _
    apply Within.pure
    have hr : Advances [.disclosure_consent_valid, .receipt_valid, .receipt_included] r r' :=
      (consentBlock_advances C hc).mono (List.subset_append_left _ _)
    exact ((hr.record (by simp) _).keepAll (by simp) _).explainIf _ _
  · exact Within.pure (Advances.refl r)

theorem attestationsBlock_owns :
    Owns [.disclosure_consent_valid, .attestation_valid] (attestationsBlock C) := by
  intro r
  dsimp only [attestationsBlock]
  split
  · apply Within.bind
    rintro ⟨r', consent⟩ hc
    apply Within.bind
    intro results _
    apply Within.pure
    have hr : Advances [.disclosure_consent_valid, .attestation_valid] r r' :=
      (consentBlock_advances C hc).mono (List.subset_append_left _ _)
    exact (hr.record (by simp) _).explainIf _ _
  · exact Within.pure (Advances.refl r)

theorem attestationsV2Block_owns :
    Owns [.disclosure_consent_valid, .attestation_valid] (attestationsV2Block C) := by
  intro r
  dsimp only [attestationsV2Block]
  split
  · apply Within.bind
    rintro ⟨r', consent⟩ hc
    apply Within.bind
    intro results _
    apply Within.pure
    have hr : Advances [.disclosure_consent_valid, .attestation_valid] r r' :=
      (consentBlock_advances C hc).mono (List.subset_append_left _ _)
    exact (hr.record (by simp) _).explainIf _ _
  · exact Within.pure (Advances.refl r)

theorem privateFieldsBlock_owns : Owns [.disclosure_consent_valid] (privateFieldsBlock C) := by
  intro r r' h
  obtain ⟨result, hc, rfl⟩ := map_eq_ok.mp h
  exact consentBlock_advances C hc

theorem providerRegistryBlock_owns (assessment : TrustAssessmentV1) :
    Owns [.provider_active, .model_registered] (providerRegistryBlock C assessment) := by
  intro r
  dsimp only [providerRegistryBlock]
  split
  · split
    · apply Within.bind
      intro active _
      apply Within.bind
      intro registered _
      apply Within.pure
      grind
    · apply Within.pure
      grind
  · exact Within.pure (Advances.refl r)

theorem assessmentBlock_owns :
    Owns [.provider_active, .model_registered, .assessment_valid] (assessmentBlock C) := by
  intro r
  dsimp only [assessmentBlock]
  split
  · exact Within.pure (Advances.refl r)
  · apply Within.bind
    intro identity _
    apply Within.seq ((providerRegistryBlock_owns C _ r).mono (List.subset_append_left _ _))
    intro r'
    apply Within.bind
    intro valid _
    split
    · apply Within.pure
      grind
    · apply Within.pure
      grind

theorem scoringProfileBlock_owns : Owns [.scoring_profile_valid] (scoringProfileBlock C) := by
  intro r
  dsimp only [scoringProfileBlock]
  split
  · apply Within.bind
    intro identity _
    apply Within.bind
    intro valid _
    apply Within.pure
    grind
  · split
    · apply Within.pure
      grind
    · exact Within.pure (Advances.refl r)

theorem domainPolicyBlock_advances (r : Report) :
    Advances [.domain_policy_valid] r (domainPolicyBlock C r) := by
  dsimp only [domainPolicyBlock]
  split
  · grind
  · grind

theorem evidenceCoverageBlock_advances (r : Report) :
    Advances [.evidence_coverage_valid] r (evidenceCoverageBlock C r) := by
  dsimp only [evidenceCoverageBlock]
  split
  · grind
  · exact Advances.refl r

theorem providerGovernanceBlock_owns :
    Owns [.provider_governance_valid] (providerGovernanceBlock C) := by
  intro r
  dsimp only [providerGovernanceBlock]
  split
  · split
    · apply Within.pure
      grind
    · apply Within.bind
      intro signed _
      apply Within.pure
      grind
  · exact Within.pure (Advances.refl r)

theorem assessmentV2Block_owns : Owns [.trust_assessment_v2_valid] (assessmentV2Block C) := by
  intro r
  dsimp only [assessmentV2Block]
  split
  · apply Within.bind
    intro identity _
    apply Within.bind
    intro valid _
    split
    · apply Within.pure
      grind
    · apply Within.pure
      grind
  · split
    · apply Within.pure
      grind
    · exact Within.pure (Advances.refl r)

def scoringChecks : List CheckName :=
  [.scoring_profile_valid, .domain_policy_valid, .evidence_coverage_valid,
    .provider_governance_valid, .trust_assessment_v2_valid]

theorem scoringBlock_owns : Owns scoringChecks (scoringBlock C) := by
  intro r
  dsimp only [scoringBlock]
  split
  · apply Within.seq ((scoringProfileBlock_owns C r).mono (by simp [scoringChecks]))
    intro r'
    have hd : Advances scoringChecks r' (domainPolicyBlock C r') :=
      (domainPolicyBlock_advances C r').mono (by simp [scoringChecks])
    have he : Advances scoringChecks (domainPolicyBlock C r') _ :=
      (evidenceCoverageBlock_advances C (domainPolicyBlock C r')).mono (by simp [scoringChecks])
    apply Within.after (hd.trans he)
    apply Within.seq ((providerGovernanceBlock_owns C _).mono (by simp [scoringChecks]))
    intro r''
    exact (assessmentV2Block_owns C r'').mono (by simp [scoringChecks])
  · exact Within.pure (Advances.refl r)

theorem metadataBlock_owns : Owns [.metadata_fingerprint_valid] (metadataBlock C) := by
  intro r
  dsimp only [metadataBlock]
  split
  · apply Within.bind
    intro results _
    split
    · apply Within.pure
      grind
    · apply Within.pure
      grind
  · exact Within.pure (Advances.refl r)

def graphChecks : List CheckName :=
  [.graph_artifacts_valid, .research_graph_algorithm_valid, .seed_governance_valid,
    .sybil_assessment_valid, .drift_report_valid, .full_covariance_drift_valid]

theorem drift_report_valid_mem : CheckName.drift_report_valid ∈ graphChecks := by decide

theorem full_covariance_drift_valid_mem :
    CheckName.full_covariance_drift_valid ∈ graphChecks := by
  decide

theorem graphArtifactsBlock_advances (r : Report) :
    Advances graphChecks r (graphArtifactsBlock C r) := by
  dsimp only [graphArtifactsBlock]
  split
  · grind [graphChecks]
  · grind [graphChecks]

theorem graphVectorBlock_owns : Owns graphChecks (graphVectorBlock C) := by
  intro r
  dsimp only [graphVectorBlock]
  split
  · exact Within.pure (Advances.refl r)
  · apply Within.bind
    intro identity _
    apply Within.bind
    intro signed _
    apply Within.pure
    grind [graphChecks]

theorem researchAlgorithmBlock_advances (r : Report) :
    Advances graphChecks r (researchAlgorithmBlock C r) := by
  dsimp only [researchAlgorithmBlock]
  split
  · grind [graphChecks]
  · exact Advances.refl r

theorem exactFormulasBlock_owns : Owns graphChecks (exactFormulasBlock C) := by
  intro r
  dsimp only [exactFormulasBlock]
  split
  · exact Within.pure (Advances.refl r)
  · split
    · split
      · apply Within.pure
        grind [graphChecks]
      · split
        · apply Within.bind
          intro opened _
          apply Within.pure
          grind [graphChecks]
        · apply Within.pure
          grind [graphChecks]
    · exact Within.pure (Advances.refl r)

theorem seedGovernanceBlock_owns : Owns graphChecks (seedGovernanceBlock C) := by
  intro r
  dsimp only [seedGovernanceBlock]
  split
  · apply Within.bind
    intro trustedCommitment _
    apply Within.bind
    intro adversarialCommitment _
    apply Within.bind
    intro trustedValid _
    apply Within.bind
    intro adversarialValid _
    apply Within.pure
    grind [graphChecks]
  · exact Within.pure (Advances.refl r)

theorem sybilSignatureBlock_owns : Owns graphChecks (sybilSignatureBlock C) := by
  intro r
  dsimp only [sybilSignatureBlock]
  split
  · exact Within.pure (Advances.refl r)
  · apply Within.bind
    intro identity _
    apply Within.bind
    intro signed _
    apply Within.pure
    grind [graphChecks]

theorem driftSignatureBlock_owns : Owns graphChecks (driftSignatureBlock C) := by
  intro r
  dsimp only [driftSignatureBlock]
  split
  · exact Within.pure (Advances.refl r)
  · apply Within.bind
    intro identity _
    apply Within.bind
    intro signed _
    apply Within.pure
    grind [graphChecks]

theorem recomputeVectorBlock_advances (graph : C.tools.GraphV0) (r : Report) :
    Advances graphChecks r (recomputeVectorBlock C graph r) := by
  dsimp only [recomputeVectorBlock]
  split
  · split
    · grind [graphChecks]
    · grind [graphChecks]
  · exact Advances.refl r

theorem recomputeSybilBlock_owns (graph : C.tools.GraphV0) :
    Owns graphChecks (recomputeSybilBlock C graph) := by
  intro r
  dsimp only [recomputeSybilBlock]
  split
  · apply Within.bind
    intro recomputed _
    apply Within.pure
    grind [graphChecks]
  · exact Within.pure (Advances.refl r)

theorem recomputeGraphBlock_owns : Owns graphChecks (recomputeGraphBlock C) := by
  intro r
  dsimp only [recomputeGraphBlock]
  split
  · exact Within.pure (Advances.refl r)
  · apply Within.pure
    grind [graphChecks]
  · exact Within.after (recomputeVectorBlock_advances C _ r) (recomputeSybilBlock_owns C _ _)

theorem recomputeDriftBlock_owns : Owns graphChecks (recomputeDriftBlock C) := by
  intro r
  dsimp only [recomputeDriftBlock]
  split
  · exact Within.pure (Advances.refl r)
  · split
    · apply Within.pure
      grind [graphChecks, drift_report_valid_mem]
    · apply Within.bind
      intro recomputed _
      apply Within.pure
      grind [graphChecks, drift_report_valid_mem]

theorem covarianceDriftBlock_advances (r : Report) :
    Advances graphChecks r (covarianceDriftBlock C r) := by
  dsimp only [covarianceDriftBlock]
  split
  · exact Advances.refl r
  · grind [graphChecks, full_covariance_drift_valid_mem]

theorem graphErrorsBlock_advances (r : Report) :
    Advances graphChecks r (graphErrorsBlock C r) :=
  (Advances.refl r).pushIf _ _

theorem graphBlock_owns : Owns graphChecks (graphBlock C) := by
  intro r
  dsimp only [graphBlock]
  split
  · apply Within.after (graphArtifactsBlock_advances C r)
    apply Within.seq (graphVectorBlock_owns C _)
    intro r
    apply Within.after (researchAlgorithmBlock_advances C r)
    apply Within.seq (exactFormulasBlock_owns C _)
    intro r
    apply Within.seq (seedGovernanceBlock_owns C r)
    intro r
    apply Within.seq (sybilSignatureBlock_owns C r)
    intro r
    apply Within.seq (driftSignatureBlock_owns C r)
    intro r
    apply Within.seq (recomputeGraphBlock_owns C r)
    intro r
    apply Within.seq (recomputeDriftBlock_owns C r)
    intro r
    exact Within.pure ((covarianceDriftBlock_advances C r).trans
      (graphErrorsBlock_advances C _))
  · exact Within.pure (Advances.refl r)

theorem zkBlock_owns : Owns [.zk_valid, .zk_circuit_registered] (zkBlock C) := by
  intro r
  dsimp only [zkBlock]
  split
  · apply Within.bind
    intro results _
    apply Within.pure
    grind
  · exact Within.pure (Advances.refl r)

theorem delegationsBlock_owns : Owns [.agent_scope_valid] (delegationsBlock C) := by
  intro r
  dsimp only [delegationsBlock]
  split
  · apply Within.bind
    intro results _
    apply Within.pure
    grind
  · exact Within.pure (Advances.refl r)

theorem agentActionsBlock_owns : Owns [.delegated_action_valid] (agentActionsBlock C) := by
  intro r
  dsimp only [agentActionsBlock]
  split
  · apply Within.bind
    intro policies _
    apply Within.bind
    intro actions _
    apply Within.pure
    grind
  · exact Within.pure (Advances.refl r)

theorem consistencyBlock_owns : Owns [.consistency_proof_valid] (consistencyBlock C) := by
  intro r
  dsimp only [consistencyBlock]
  split
  · apply Within.bind
    intro results _
    apply Within.pure
    grind
  · exact Within.pure (Advances.refl r)

theorem nonMembershipBlock_owns :
    Owns [.non_membership_proof_valid] (nonMembershipBlock C) := by
  intro r
  dsimp only [nonMembershipBlock]
  split
  · apply Within.bind
    intro results _
    apply Within.pure
    grind
  · exact Within.pure (Advances.refl r)

theorem governancePolicyBlock_owns :
    Owns [.governance_policy_valid] (governancePolicyBlock C) := by
  intro r
  dsimp only [governancePolicyBlock]
  split
  · split
    · apply Within.pure
      grind
    · exact Within.pure (Advances.refl r)
  · apply Within.bind
    intro identity _
    apply Within.bind
    intro valid _
    split
    · apply Within.pure
      grind
    · apply Within.pure
      grind

theorem auditBlock_owns : Owns [.audit_consistency_valid] (auditBlock C) := by
  intro r
  dsimp only [auditBlock]
  split
  · apply Within.bind
    intro results _
    apply Within.pure
    grind
  · exact Within.pure (Advances.refl r)

theorem authorizedRelayBlock_advances (checkpoint : BatchCheckpointV1) (signed : Bool)
    (h : Advances owned r r') (hm : CheckName.authorized_relay_valid ∈ owned) :
    Advances owned r (authorizedRelayBlock C checkpoint signed r') := by
  dsimp only [authorizedRelayBlock]
  split
  · exact (h.check hm _).pushIf _ _
  · exact h

theorem checkpointBlock_owns :
    Owns [.checkpoint_valid, .checkpoint_signature_valid, .authorized_relay_valid]
      (checkpointBlock C) := by
  intro r
  dsimp only [checkpointBlock]
  split
  · exact Within.pure (Advances.refl r)
  · split
    · apply Within.pure
      grind
    · apply Within.bind
      intro identityMatches _
      apply Within.bind
      intro signed _
      apply Within.pure
      apply authorizedRelayBlock_advances
      · grind
      · simp

theorem checkpointMatchBlock_owns :
    Owns [.checkpoint_matches_proof] (checkpointMatchBlock C) := by
  intro r
  dsimp only [checkpointMatchBlock]
  split
  · split
    · apply Within.bind
      intro sameRoot _
      apply Within.pure
      grind
    · exact Within.pure (Advances.refl r)
  · exact Within.pure (Advances.refl r)

theorem settlementEvidenceBlock_owns :
    Owns [.settlement_evidence_valid, .checkpoint_settled] (settlementEvidenceBlock C) := by
  intro r
  dsimp only [settlementEvidenceBlock]
  split
  · apply Within.bind
    intro hash _
    apply Within.bind
    intro outcome _
    split
    · apply Within.pure
      grind
    · apply Within.pure
      grind
  · exact Within.pure (Advances.refl r)

theorem settlementBackendBlock_owns :
    Owns [.checkpoint_settled] (settlementBackendBlock C) := by
  intro r
  dsimp only [settlementBackendBlock]
  split
  · split
    · exact Within.pure (Advances.refl r)
    · apply Within.bind
      intro settlement _
      split
      · apply Within.pure
        grind
      · split
        · split
          · apply Within.pure
            grind
          · apply Within.pure
            grind
        · apply Within.pure
          grind
  · exact Within.pure (Advances.refl r)

theorem finalAssessmentBlock_owns :
    Owns [.trust_assessment_v2_valid] (finalAssessmentBlock C) := by
  intro r
  dsimp only [finalAssessmentBlock]
  split
  · exact Within.pure (Advances.refl r)
  · apply Within.bind
    intro coverage _
    split
    · exact Within.pure (Advances.refl r)
    · apply Within.pure
      grind

abbrev VerifierBlock := Block Report.view String

/-- The blocks with the checks they own. -/
def ownedBlocks : List VerifierBlock :=
  [⟨_, _, chainRevocationBlock_owns C⟩, ⟨_, _, explainKeyBlock_owns⟩,
    ⟨_, _, revocationsBlock_owns C⟩, ⟨_, _, messageDisclosureBlock_owns C⟩,
    ⟨_, _, proofBlock_owns C⟩, ⟨_, _, receiptsBlock_owns C⟩, ⟨_, _, attestationsBlock_owns C⟩,
    ⟨_, _, attestationsV2Block_owns C⟩, ⟨_, _, privateFieldsBlock_owns C⟩,
    ⟨_, _, assessmentBlock_owns C⟩, ⟨_, _, scoringBlock_owns C⟩, ⟨_, _, metadataBlock_owns C⟩,
    ⟨_, _, graphBlock_owns C⟩, ⟨_, _, zkBlock_owns C⟩, ⟨_, _, delegationsBlock_owns C⟩,
    ⟨_, _, agentActionsBlock_owns C⟩, ⟨_, _, consistencyBlock_owns C⟩,
    ⟨_, _, nonMembershipBlock_owns C⟩, ⟨_, _, governancePolicyBlock_owns C⟩,
    ⟨_, _, auditBlock_owns C⟩, ⟨_, _, checkpointBlock_owns C⟩,
    ⟨_, _, checkpointMatchBlock_owns C⟩, ⟨_, _, settlementEvidenceBlock_owns C⟩,
    ⟨_, _, settlementBackendBlock_owns C⟩, ⟨_, _, finalAssessmentBlock_owns C⟩]

theorem ownedBlocks_length : (ownedBlocks C).length = 25 := rfl

theorem ownedBlocks_run : (ownedBlocks C).map Block.run = verifierBlocks C := rfl

end Blocks

end Continuity
