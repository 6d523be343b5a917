import Continuity.VerifierSound

namespace Continuity
open Frames
set_option autoImplicit true

namespace Report

/-- A report observed through its label alone. -/
def labelView : View Report Unit (Option AssessmentLabel) Empty where
  get r _ := r.risk_label
  log _ := []

@[simp, grind =] theorem check_label (r : Report) (name : CheckName) (value : Bool) :
    (r.check name value).risk_label = r.risk_label := rfl

@[simp, grind =] theorem uncheck_label (r : Report) (name : CheckName) :
    (r.uncheck name).risk_label = r.risk_label := rfl

@[simp, grind =] theorem push_label (r : Report) (errors : List String) :
    (r.push errors).risk_label = r.risk_label := rfl

@[simp, grind =] theorem pushIf_label (r : Report) (condition : Bool) (errors : List String) :
    (r.pushIf condition errors).risk_label = r.risk_label := by
  cases condition <;> rfl

@[simp, grind =] theorem explainIf_label (r : Report) (condition : Bool) (text : String) :
    (r.explainIf condition text).risk_label = r.risk_label := by
  cases condition <;> rfl

@[simp, grind =] theorem settle_label (r : Report) (status : SettlementStatus) :
    (r.settle status).risk_label = r.risk_label := rfl

@[simp, grind =] theorem record_label (r : Report) (name : CheckName) (results : List ItemResult) :
    (r.record name results).risk_label = r.risk_label := rfl

@[simp, grind =] theorem keep_label (r : Report) (name : CheckName) (value : Bool) :
    (r.keep name value).risk_label = r.risk_label := rfl

@[simp] theorem keepAll_label (name : CheckName) (values : List Bool) (r : Report) :
    (values.foldl (fun r value => r.keep name value) r).risk_label = r.risk_label := by
  induction values generalizing r with
  | nil => rfl
  | cons value rest ih => exact ih _

@[simp, grind =] theorem graph_label (r : Report) (value : Bool) :
    (r.graph value).risk_label = r.risk_label := rfl

@[simp, grind =] theorem requireGraph_label (r : Report) (condition : Bool) (error : String) :
    (r.requireGraph condition error).risk_label = r.risk_label := by
  cases condition <;> rfl

@[simp, grind =] theorem gate_label (r : Report) (name : CheckName) (required : Bool)
    (results : List ItemResult) (missing text : String) :
    (r.gate name required results missing text).risk_label = r.risk_label := by
  simp [gate]

end Report

/-- A block that leaves the label as it is. -/
abbrev Unrated (block : Report → Js Report) : Prop :=
  ∀ r, Within Report.labelView [] r (block r)

theorem Unrated.frame (h : r'.risk_label = r.risk_label) : Frame Report.labelView [] r r' :=
  ⟨List.prefix_refl _, fun _ _ => h⟩

theorem Unrated.pure (h : r'.risk_label = r.risk_label) :
    Within Report.labelView [] r (Pure.pure r' : Js Report) :=
  Within.pure (Unrated.frame h)

section Blocks

variable (C : Context)

theorem keyBlock_unrated (identity : IdentityDocumentV1) (hash : Hex32) :
    Unrated (keyBlock C identity hash) := by
  intro r
  apply Within.bind
  intro signed _
  exact Unrated.pure rfl

theorem chainRevocationBlock_unrated : Unrated (chainRevocationBlock C) := by
  intro r
  dsimp only [chainRevocationBlock]
  repeat' first
    | exact Unrated.pure (by grind)
    | (apply Within.bind; intro _ _)
    | split

theorem explainKeyBlock_unrated : Unrated fun r => return explainKeyBlock r := by
  intro r
  exact Unrated.pure (by simp [explainKeyBlock])

theorem revocationsBlock_unrated : Unrated (revocationsBlock C) := by
  intro r
  dsimp only [revocationsBlock]
  repeat' first
    | exact Unrated.pure (by grind)
    | (apply Within.bind; intro _ _)
    | split

theorem messageDisclosureBlock_unrated : Unrated (messageDisclosureBlock C) := by
  intro r
  dsimp only [messageDisclosureBlock]
  repeat' first
    | exact Unrated.pure (by grind)
    | (apply Within.bind; intro _ _)
    | split

theorem recordInclusion_unrated (proof : InclusionProofV1) : Unrated (recordInclusion C proof) := by
  intro r
  apply Within.bind
  intro included _
  split
  · exact Unrated.pure (by simp)
  · apply Within.bind
    intro valid _
    exact Unrated.pure (by simp)

theorem proofBlock_unrated : Unrated (proofBlock C) := by
  intro r
  dsimp only [proofBlock]
  split
  · exact Unrated.pure rfl
  · split
    · exact recordInclusion_unrated C _ r
    · exact Unrated.pure rfl

theorem consentBlock_label (h : consentBlock C required fieldClasses r = .ok (r', consent)) :
    r'.risk_label = r.risk_label := by
  unfold consentBlock at h
  split at h
  · obtain ⟨allowed, -, h⟩ := bind_eq_ok.mp h
    cases h
    simp
  · cases h
    rfl

theorem receiptsBlock_unrated : Unrated (receiptsBlock C) := by
  intro r
  dsimp only [receiptsBlock]
  split
  · apply Within.bind
    rintro ⟨r', consent⟩ hc
    apply Within.bind
    intro results _
    exact Unrated.pure (by simp [consentBlock_label C hc])
  · exact Unrated.pure rfl

theorem attestationsBlock_unrated : Unrated (attestationsBlock C) := by
  intro r
  dsimp only [attestationsBlock]
  split
  · apply Within.bind
    rintro ⟨r', consent⟩ hc
    apply Within.bind
    intro results _
    exact Unrated.pure (by simp [consentBlock_label C hc])
  · exact Unrated.pure rfl

theorem attestationsV2Block_unrated : Unrated (attestationsV2Block C) := by
  intro r
  dsimp only [attestationsV2Block]
  split
  · apply Within.bind
    rintro ⟨r', consent⟩ hc
    apply Within.bind
    intro results _
    exact Unrated.pure (by simp [consentBlock_label C hc])
  · exact Unrated.pure rfl

theorem privateFieldsBlock_unrated : Unrated (privateFieldsBlock C) := by
  intro r r' h
  obtain ⟨result, hc, rfl⟩ := map_eq_ok.mp h
  exact Unrated.pure (consentBlock_label C hc) _ rfl

theorem providerRegistryBlock_unrated (assessment : TrustAssessmentV1) :
    Unrated (providerRegistryBlock C assessment) := by
  intro r
  dsimp only [providerRegistryBlock]
  repeat' first
    | exact Unrated.pure (by grind)
    | (apply Within.bind; intro _ _)
    | split

theorem scoringProfileBlock_unrated : Unrated (scoringProfileBlock C) := by
  intro r
  dsimp only [scoringProfileBlock]
  repeat' first
    | exact Unrated.pure (by grind)
    | (apply Within.bind; intro _ _)
    | split

theorem providerGovernanceBlock_unrated : Unrated (providerGovernanceBlock C) := by
  intro r
  dsimp only [providerGovernanceBlock]
  repeat' first
    | exact Unrated.pure (by grind)
    | (apply Within.bind; intro _ _)
    | split

theorem metadataBlock_unrated : Unrated (metadataBlock C) := by
  intro r
  dsimp only [metadataBlock]
  repeat' first
    | exact Unrated.pure (by grind)
    | (apply Within.bind; intro _ _)
    | split

theorem graphVectorBlock_unrated : Unrated (graphVectorBlock C) := by
  intro r
  dsimp only [graphVectorBlock]
  repeat' first
    | exact Unrated.pure (by grind)
    | (apply Within.bind; intro _ _)
    | split

theorem exactFormulasBlock_unrated : Unrated (exactFormulasBlock C) := by
  intro r
  dsimp only [exactFormulasBlock]
  repeat' first
    | exact Unrated.pure (by grind)
    | (apply Within.bind; intro _ _)
    | split

theorem seedGovernanceBlock_unrated : Unrated (seedGovernanceBlock C) := by
  intro r
  dsimp only [seedGovernanceBlock]
  repeat' first
    | exact Unrated.pure (by grind)
    | (apply Within.bind; intro _ _)
    | split

theorem sybilSignatureBlock_unrated : Unrated (sybilSignatureBlock C) := by
  intro r
  dsimp only [sybilSignatureBlock]
  repeat' first
    | exact Unrated.pure (by grind)
    | (apply Within.bind; intro _ _)
    | split

theorem driftSignatureBlock_unrated : Unrated (driftSignatureBlock C) := by
  intro r
  dsimp only [driftSignatureBlock]
  repeat' first
    | exact Unrated.pure (by grind)
    | (apply Within.bind; intro _ _)
    | split

theorem recomputeVectorBlock_label (graph : C.tools.GraphV0) (r : Report) :
    (recomputeVectorBlock C graph r).risk_label = r.risk_label := by
  grind [recomputeVectorBlock]

theorem recomputeSybilBlock_unrated (graph : C.tools.GraphV0) :
    Unrated (recomputeSybilBlock C graph) := by
  intro r
  dsimp only [recomputeSybilBlock]
  split
  · apply Within.bind
    intro recomputed _
    exact Unrated.pure (by simp)
  · exact Unrated.pure rfl

theorem recomputeGraphBlock_unrated : Unrated (recomputeGraphBlock C) := by
  intro r
  dsimp only [recomputeGraphBlock]
  split
  · exact Unrated.pure rfl
  · exact Unrated.pure (by simp)
  · exact Within.after (Unrated.frame (recomputeVectorBlock_label C _ r))
      (recomputeSybilBlock_unrated C _ _)

theorem recomputeDriftBlock_unrated : Unrated (recomputeDriftBlock C) := by
  intro r
  dsimp only [recomputeDriftBlock]
  repeat' first
    | exact Unrated.pure (by grind)
    | (apply Within.bind; intro _ _)
    | split

theorem graphArtifactsBlock_label (r : Report) :
    (graphArtifactsBlock C r).risk_label = r.risk_label := by
  grind [graphArtifactsBlock]

theorem researchAlgorithmBlock_label (r : Report) :
    (researchAlgorithmBlock C r).risk_label = r.risk_label := by
  grind [researchAlgorithmBlock]

theorem covarianceDriftBlock_label (r : Report) :
    (covarianceDriftBlock C r).risk_label = r.risk_label := by
  grind [covarianceDriftBlock]

theorem graphErrorsBlock_label (r : Report) : (graphErrorsBlock C r).risk_label = r.risk_label :=
  Report.pushIf_label _ _ _

theorem graphBlock_unrated : Unrated (graphBlock C) := by
  intro r
  dsimp only [graphBlock]
  split
  · apply Within.after (Unrated.frame (graphArtifactsBlock_label C r))
    apply Within.seq (graphVectorBlock_unrated C _)
    intro r
    apply Within.after (Unrated.frame (researchAlgorithmBlock_label C r))
    apply Within.seq (exactFormulasBlock_unrated C _)
    intro r
    apply Within.seq (seedGovernanceBlock_unrated C r)
    intro r
    apply Within.seq (sybilSignatureBlock_unrated C r)
    intro r
    apply Within.seq (driftSignatureBlock_unrated C r)
    intro r
    apply Within.seq (recomputeGraphBlock_unrated C r)
    intro r
    apply Within.seq (recomputeDriftBlock_unrated C r)
    intro r
    exact Unrated.pure ((graphErrorsBlock_label C _).trans (covarianceDriftBlock_label C r))
  · exact Unrated.pure rfl

theorem zkBlock_unrated : Unrated (zkBlock C) := by
  intro r
  dsimp only [zkBlock]
  repeat' first
    | exact Unrated.pure (by grind)
    | (apply Within.bind; intro _ _)
    | split

theorem delegationsBlock_unrated : Unrated (delegationsBlock C) := by
  intro r
  dsimp only [delegationsBlock]
  repeat' first
    | exact Unrated.pure (by grind)
    | (apply Within.bind; intro _ _)
    | split

theorem agentActionsBlock_unrated : Unrated (agentActionsBlock C) := by
  intro r
  dsimp only [agentActionsBlock]
  repeat' first
    | exact Unrated.pure (by grind)
    | (apply Within.bind; intro _ _)
    | split

theorem consistencyBlock_unrated : Unrated (consistencyBlock C) := by
  intro r
  dsimp only [consistencyBlock]
  repeat' first
    | exact Unrated.pure (by grind)
    | (apply Within.bind; intro _ _)
    | split

theorem nonMembershipBlock_unrated : Unrated (nonMembershipBlock C) := by
  intro r
  dsimp only [nonMembershipBlock]
  repeat' first
    | exact Unrated.pure (by grind)
    | (apply Within.bind; intro _ _)
    | split

theorem governancePolicyBlock_unrated : Unrated (governancePolicyBlock C) := by
  intro r
  dsimp only [governancePolicyBlock]
  repeat' first
    | exact Unrated.pure (by grind)
    | (apply Within.bind; intro _ _)
    | split

theorem auditBlock_unrated : Unrated (auditBlock C) := by
  intro r
  dsimp only [auditBlock]
  repeat' first
    | exact Unrated.pure (by grind)
    | (apply Within.bind; intro _ _)
    | split

theorem authorizedRelayBlock_label (checkpoint : BatchCheckpointV1) (signed : Bool) (r : Report) :
    (authorizedRelayBlock C checkpoint signed r).risk_label = r.risk_label := by
  grind [authorizedRelayBlock]

theorem checkpointBlock_unrated : Unrated (checkpointBlock C) := by
  intro r
  dsimp only [checkpointBlock]
  repeat' first
    | exact Unrated.pure (by grind [authorizedRelayBlock_label])
    | (apply Within.bind; intro _ _)
    | split

theorem checkpointMatchBlock_unrated : Unrated (checkpointMatchBlock C) := by
  intro r
  dsimp only [checkpointMatchBlock]
  repeat' first
    | exact Unrated.pure (by grind)
    | (apply Within.bind; intro _ _)
    | split

theorem settlementEvidenceBlock_unrated : Unrated (settlementEvidenceBlock C) := by
  intro r
  dsimp only [settlementEvidenceBlock]
  repeat' first
    | exact Unrated.pure (by grind)
    | (apply Within.bind; intro _ _)
    | split

theorem settlementBackendBlock_unrated : Unrated (settlementBackendBlock C) := by
  intro r
  dsimp only [settlementBackendBlock]
  repeat' first
    | exact Unrated.pure (by grind)
    | (apply Within.bind; intro _ _)
    | split

theorem domainPolicyBlock_label (r : Report) :
    (domainPolicyBlock C r).risk_label = r.risk_label := by
  grind [domainPolicyBlock]

theorem evidenceCoverageBlock_label (r : Report) :
    (evidenceCoverageBlock C r).risk_label = r.risk_label := by
  grind [evidenceCoverageBlock]

/-- The blocks before the assessments. -/
def evidenceBlocks : List (Block Report.labelView String) :=
  [⟨_, _, chainRevocationBlock_unrated C⟩, ⟨_, _, explainKeyBlock_unrated⟩,
    ⟨_, _, revocationsBlock_unrated C⟩, ⟨_, _, messageDisclosureBlock_unrated C⟩,
    ⟨_, _, proofBlock_unrated C⟩, ⟨_, _, receiptsBlock_unrated C⟩,
    ⟨_, _, attestationsBlock_unrated C⟩, ⟨_, _, attestationsV2Block_unrated C⟩,
    ⟨_, _, privateFieldsBlock_unrated C⟩]

/-- The blocks between the assessments and the final gate. -/
def laterBlocks : List (Block Report.labelView String) :=
  [⟨_, _, metadataBlock_unrated C⟩, ⟨_, _, graphBlock_unrated C⟩, ⟨_, _, zkBlock_unrated C⟩,
    ⟨_, _, delegationsBlock_unrated C⟩, ⟨_, _, agentActionsBlock_unrated C⟩,
    ⟨_, _, consistencyBlock_unrated C⟩, ⟨_, _, nonMembershipBlock_unrated C⟩,
    ⟨_, _, governancePolicyBlock_unrated C⟩, ⟨_, _, auditBlock_unrated C⟩,
    ⟨_, _, checkpointBlock_unrated C⟩, ⟨_, _, checkpointMatchBlock_unrated C⟩,
    ⟨_, _, settlementEvidenceBlock_unrated C⟩, ⟨_, _, settlementBackendBlock_unrated C⟩]

theorem verifierBlocks_dropLast :
    (verifierBlocks C).dropLast = (evidenceBlocks C).map Block.run ++
      ([assessmentBlock C, scoringBlock C] ++ (laterBlocks C).map Block.run) :=
  rfl

theorem verifierBlocks_concat :
    verifierBlocks C = (verifierBlocks C).dropLast ++ [finalAssessmentBlock C] :=
  rfl

end Blocks

theorem pipeline_append {before after : List (Report → Js Report)}
    (h : pipeline (before ++ after) s = .ok u) :
    ∃ t, pipeline before s = .ok t ∧ pipeline after t = .ok u := by
  rw [pipeline, List.foldlM_append] at h
  exact bind_eq_ok.mp h

section Rating

variable {C : Context} {r r' : Report}

/-- The label and the checks of the assessments are as they were. -/
structure SameRating (r r' : Report) : Prop where
  label : r'.risk_label = r.risk_label
  v1 : r'.checks .assessment_valid = r.checks .assessment_valid
  v2 : r'.checks .trust_assessment_v2_valid = r.checks .trust_assessment_v2_valid

theorem SameRating.trans (h : SameRating r r') (h' : SameRating r' s) : SameRating r s :=
  ⟨h'.label.trans h.label, h'.v1.trans h.v1, h'.v2.trans h.v2⟩

/-- Blocks that own neither check and leave the label. -/
theorem SameRating.of_frames (hl : Frame Report.labelView owned r r')
    (hc : Advances names r r') (h₀ : owned = []) (h₁ : CheckName.assessment_valid ∉ names)
    (h₂ : CheckName.trust_assessment_v2_valid ∉ names) : SameRating r r' :=
  ⟨hl.get () (by simp [h₀]), hc.get _ h₁, hc.get _ h₂⟩

theorem evidenceBlocks_same (h : pipeline ((evidenceBlocks C).map Block.run) r = .ok r') :
    SameRating r r' :=
  .of_frames (pipeline_frame _ r r' h)
    (pipeline_frame ((ownedBlocks C).take 9) r r' h) rfl (by simp [ownedBy, ownedBlocks])
    (by simp [ownedBy, ownedBlocks])

theorem laterBlocks_same (h : pipeline ((laterBlocks C).map Block.run) r = .ok r') :
    SameRating r r' :=
  .of_frames (pipeline_frame _ r r' h)
    (pipeline_frame (((ownedBlocks C).drop 11).take 13) r r' h) rfl
    (by simp [ownedBy, ownedBlocks, graphChecks]) (by simp [ownedBy, ownedBlocks, graphChecks])

theorem keyBlock_same (h : keyBlock C identity digest r = .ok r') : SameRating r r' :=
  .of_frames (keyBlock_unrated C identity digest r r' h) (keyBlock_owns C identity digest r r' h) rfl
    (by decide) (by decide)

/-- Nothing has been assessed. -/
structure Unassessed (r : Report) : Prop where
  label : r.risk_label = none
  v1 : r.checks .assessment_valid = none
  v2 : r.checks .trust_assessment_v2_valid = none

theorem Unassessed.same (h : Unassessed r) (hs : SameRating r r') : Unassessed r' :=
  ⟨hs.label.trans h.label, hs.v1.trans h.v1, hs.v2.trans h.v2⟩

/-- What the label comes from: the valid assessment, or nothing. -/
def RatedV1 (input : ExpandedInput) (r : Report) : Prop :=
  (r.checks .assessment_valid = some true ∧
    ∃ assessment, input.assessment = some assessment ∧ r.risk_label = some assessment.label) ∨
  (r.checks .assessment_valid ≠ some true ∧ r.risk_label = none)

/-- What the label comes from: the valid assessment of version 2, or else the one of version 1. -/
def Rated (input : ExpandedInput) (r : Report) : Prop :=
  (r.checks .trust_assessment_v2_valid = some true ∧
    ∃ assessment, input.assessment_v2 = some assessment ∧
      r.risk_label = some assessment.label.risk) ∨
  (r.checks .trust_assessment_v2_valid ≠ some true ∧ RatedV1 input r)

theorem RatedV1.same (h : RatedV1 input r) (hs : SameRating r r') : RatedV1 input r' := by
  rw [RatedV1, hs.label, hs.v1]
  exact h

theorem Rated.same (h : Rated input r) (hs : SameRating r r') : Rated input r' := by
  rw [Rated, hs.label, hs.v2]
  exact h.imp_right fun h => ⟨h.1, h.2.same hs⟩

theorem assessmentBlock_rated (hr : Unassessed r) (h : assessmentBlock C r = .ok r') :
    RatedV1 C.input r' ∧ r'.checks .trust_assessment_v2_valid = none := by
  have hv2 : r'.checks .trust_assessment_v2_valid = none :=
    ((assessmentBlock_owns C r r' h).get _ (by decide)).trans hr.v2
  refine ⟨?_, hv2⟩
  rw [assessmentBlock] at h
  cases ha : C.input.assessment with
  | none =>
    rw [ha] at h
    cases h
    exact .inr ⟨by simp [hr.v1], hr.label⟩
  | some assessment =>
    rw [ha] at h
    obtain ⟨identity, -, h⟩ := bind_eq_ok.mp h
    obtain ⟨r₁, hreg, h⟩ := bind_eq_ok.mp h
    obtain ⟨valid, -, h⟩ := bind_eq_ok.mp h
    have hlabel : r₁.risk_label = none :=
      ((providerRegistryBlock_unrated C assessment r r₁ hreg).get () (by simp)).trans hr.label
    cases valid with
    | true =>
      cases h
      exact .inl ⟨by simp [Report.rate], assessment, ha, rfl⟩
    | false =>
      cases h
      exact .inr ⟨by simp, by simp [hlabel]⟩

theorem assessmentV2Block_rated (hr : RatedV1 C.input r)
    (hv2 : r.checks .trust_assessment_v2_valid = none) (h : assessmentV2Block C r = .ok r') :
    Rated C.input r' := by
  have hv1 : r'.checks .assessment_valid = r.checks .assessment_valid :=
    (assessmentV2Block_owns C r r' h).get _ (by decide)
  rw [assessmentV2Block] at h
  cases ha : C.input.assessment_v2 with
  | none =>
    rw [ha] at h
    dsimp only at h
    split at h
    · cases h
      refine .inr ⟨by simp, ?_⟩
      rw [RatedV1, hv1]
      exact hr
    · cases h
      exact .inr ⟨by simp [hv2], hr⟩
  | some assessment =>
    rw [ha] at h
    obtain ⟨identity, -, h⟩ := bind_eq_ok.mp h
    obtain ⟨valid, -, h⟩ := bind_eq_ok.mp h
    cases valid with
    | true =>
      cases h
      exact .inl ⟨by simp [Report.rate], assessment, ha, rfl⟩
    | false =>
      cases h
      refine .inr ⟨by simp, ?_⟩
      rw [RatedV1, hv1]
      exact hr

theorem scoringBlock_rated (hr : RatedV1 C.input r)
    (hv2 : r.checks .trust_assessment_v2_valid = none) (h : scoringBlock C r = .ok r') :
    Rated C.input r' := by
  rw [scoringBlock] at h
  split at h
  · obtain ⟨r₁, hprofile, h⟩ := bind_eq_ok.mp h
    obtain ⟨r₂, hgovernance, h⟩ := bind_eq_ok.mp h
    have h₁ : SameRating r r₁ := .of_frames (scoringProfileBlock_unrated C r r₁ hprofile)
      (scoringProfileBlock_owns C r r₁ hprofile) rfl (by decide) (by decide)
    have h₂ : SameRating r₁ (domainPolicyBlock C r₁) := .of_frames
      (Unrated.frame (domainPolicyBlock_label C r₁)) (domainPolicyBlock_advances C r₁) rfl
      (by decide) (by decide)
    have h₃ : SameRating (domainPolicyBlock C r₁) (evidenceCoverageBlock C (domainPolicyBlock C r₁)) :=
      .of_frames (Unrated.frame (evidenceCoverageBlock_label C _))
        (evidenceCoverageBlock_advances C _) rfl (by decide) (by decide)
    have h₄ : SameRating (evidenceCoverageBlock C (domainPolicyBlock C r₁)) r₂ := .of_frames
      (providerGovernanceBlock_unrated C _ r₂ hgovernance)
      (providerGovernanceBlock_owns C _ r₂ hgovernance) rfl (by decide) (by decide)
    have hsame := ((h₁.trans h₂).trans h₃).trans h₄
    exact assessmentV2Block_rated (hr.same hsame) (hsame.v2.trans hv2) h
  · cases h
    exact .inr ⟨by simp [hv2], hr⟩

/-- The final gate agrees with what the assessment states. -/
def GateUpheld (C : Context) (assessment : TrustAssessmentV2) (r : Report) : Prop :=
  finalGateMatches assessment.gate_result r = true ∧ coverageMatches C assessment = .ok true

end Rating

section Runs

variable (H : Host) (tools : Recomputation) (input : VerifyTSLInput) (resolver : TrustResolver)
  (policy : VerifierPolicy JsField) (backend : Option SettlementBackend)

/-- The state of a run before the final gate. -/
structure GateState where
  envelope : EventCommitmentV1
  commitmentHash : Hex32
  legacyCommitmentHash : Hex32
  report : Report

/-- What the blocks of the run read. -/
def GateState.context (g : GateState) : Context :=
  ⟨H, tools, resolver, policy.withDefaults, backend, (expandProofBundleInput H input).1, g.envelope,
    g.commitmentHash, g.legacyCommitmentHash⟩

def envelopeToFinalGate (envelope : EventCommitmentV1) (r : Report) : Js (Option GateState) := do
  let event_hash ← eventHash H.noble envelope
  let some identity ← resolver envelope.sender envelope.timestamp | return none
  let commitmentHash ← commitmentHashFromParts H.noble event_hash envelope.signature
  let legacyCommitmentHash ← legacyCommitmentHashFromParts H.noble event_hash envelope.signature
  let C : Context := ⟨H, tools, resolver, policy.withDefaults, backend,
    (expandProofBundleInput H input).1, envelope, commitmentHash, legacyCommitmentHash⟩
  let r ← keyBlock C identity event_hash r
  let r ← pipeline (verifierBlocks C).dropLast r
  return some ⟨envelope, commitmentHash, legacyCommitmentHash, r⟩

/-- The run of `verifyTSL` up to the final gate, `none` when it stops before. -/
def beforeFinalGate : Js (Option GateState) :=
  let (expanded, errors) := expandProofBundleInput H input
  let r := openingReport H policy.withDefaults expanded errors
  let validation := H.validateSchema .event
    (optional (fun e => .obj (EventCommitmentV1.toFields e)) expanded.envelope)
  let r := r.check .schema_valid validation.valid
  if !validation.valid then return none
  else match expanded.envelope with
    | some envelope => envelopeToFinalGate H tools input resolver policy backend envelope r
    | none => return none

/-- A label that is shown is that of an assessment whose check holds in the same result. -/
def LabelBacked (input : ExpandedInput) (result : VerificationResult) : Prop :=
  ∀ label, result.risk_label = some label →
    (result.checks .assessment_valid = some true ∧
      ∃ assessment, input.assessment = some assessment ∧ label = assessment.label) ∨
    (result.checks .trust_assessment_v2_valid = some true ∧
      ∃ assessment, input.assessment_v2 = some assessment ∧ label = assessment.label.risk)

variable {H tools input resolver policy backend}

theorem openingReport_label (policy : VerifierPolicy Option) (input : ExpandedInput)
    (errors : List String) : (openingReport H policy input errors).risk_label = none := by
  simp only [openingReport, redactionBlock, unsafeFixturesBlock, Report.pushIf_label,
    Report.check_label]
  rw [bundleBlock]
  split <;> simp

theorem openingReport_unassessed (policy : VerifierPolicy Option) (input : ExpandedInput)
    (errors : List String) (valid : Bool) :
    Unassessed ((openingReport H policy input errors).check .schema_valid valid) where
  label := openingReport_label policy input errors
  v1 := (Report.check_other _ _ (by decide)).trans (openingReport_checks H _ _ _ (by decide))
  v2 := (Report.check_other _ _ (by decide)).trans (openingReport_checks H _ _ _ (by decide))

/-- Up to the final gate the label follows the checks of the assessments. -/
theorem pipeline_rated (hr : Unassessed r) (h : pipeline (verifierBlocks C).dropLast r = .ok r') :
    Rated C.input r' := by
  rw [verifierBlocks_dropLast] at h
  obtain ⟨r₁, hevidence, h⟩ := pipeline_append h
  obtain ⟨r₃, hassess, hlater⟩ := pipeline_append h
  obtain ⟨r₂, hv1, h⟩ := pipeline_cons hassess
  obtain ⟨r₃', hv2, h⟩ := pipeline_cons h
  cases h
  have h₁ := hr.same (evidenceBlocks_same hevidence)
  obtain ⟨h₂, hnone⟩ := assessmentBlock_rated h₁ hv1
  exact (scoringBlock_rated h₂ hnone hv2).same (laterBlocks_same hlater)

theorem verifyEnvelope_finalGate (hr : Unassessed r)
    (h : verifyEnvelope H tools resolver policy.withDefaults backend
      (expandProofBundleInput H input).1 envelope r = .ok result) :
    (envelopeToFinalGate H tools input resolver policy backend envelope r = .ok none ∧
      result.risk_label = none) ∨
    ∃ g r', envelopeToFinalGate H tools input resolver policy backend envelope r = .ok (some g) ∧
      Rated (expandProofBundleInput H input).1 g.report ∧
      finalAssessmentBlock (g.context H tools input resolver policy backend) g.report = .ok r' ∧
      result.checks = r'.checks ∧ result.risk_label = r'.risk_label := by
  simp only [verifyEnvelope] at h
  obtain ⟨event_hash, hh, h⟩ := bind_eq_ok.mp h
  obtain ⟨found, hi, h⟩ := bind_eq_ok.mp h
  cases found with
  | none =>
    cases h
    refine .inl ⟨?_, rfl⟩
    exact bind_eq_ok.mpr ⟨event_hash, hh, bind_eq_ok.mpr ⟨none, hi, rfl⟩⟩
  | some identity =>
    obtain ⟨commitment, hc, h⟩ := bind_eq_ok.mp h
    obtain ⟨legacy, hl, h⟩ := bind_eq_ok.mp h
    obtain ⟨keyed, hk, h⟩ := bind_eq_ok.mp h
    obtain ⟨final, hf, h⟩ := bind_eq_ok.mp h
    rw [verifierBlocks_concat] at hf
    obtain ⟨gate, hgate, hfinal⟩ := pipeline_append hf
    obtain ⟨final', hlast, hf⟩ := pipeline_cons hfinal
    cases hf
    cases h
    refine .inr ⟨⟨envelope, commitment, legacy, gate⟩, final, ?_, ?_, hlast, rfl, rfl⟩
    · exact bind_eq_ok.mpr ⟨event_hash, hh, bind_eq_ok.mpr ⟨some identity, hi,
        bind_eq_ok.mpr ⟨commitment, hc, bind_eq_ok.mpr ⟨legacy, hl,
          bind_eq_ok.mpr ⟨keyed, hk, bind_eq_ok.mpr ⟨gate, hgate, rfl⟩⟩⟩⟩⟩⟩
    · exact pipeline_rated (hr.same (keyBlock_same hk)) hgate

/-- A run stops early without a label, or comes to the final gate with the label of an assessment
that is valid there. -/
theorem verifyTSL_finalGate (h : verifyTSL H tools input resolver policy backend = .ok result) :
    (beforeFinalGate H tools input resolver policy backend = .ok none ∧
      result.risk_label = none) ∨
    ∃ g r', beforeFinalGate H tools input resolver policy backend = .ok (some g) ∧
      Rated (expandProofBundleInput H input).1 g.report ∧
      finalAssessmentBlock (g.context H tools input resolver policy backend) g.report = .ok r' ∧
      result.checks = r'.checks ∧ result.risk_label = r'.risk_label := by
  simp only [verifyTSL] at h
  simp only [beforeFinalGate]
  split at h
  · next hvalid =>
    cases h
    rw [if_pos hvalid]
    exact .inl ⟨rfl, rfl⟩
  · next hvalid =>
    rw [if_neg hvalid]
    split at h
    · next envelope he =>
      have hgate := verifyEnvelope_finalGate (openingReport_unassessed _ _ _ _) h
      rw [he] at hgate ⊢
      exact hgate
    · cases h

end Runs

section Sample

/-- An assessment that states a settlement, by the relay as provider. -/
def settledAssessment : TrustAssessmentV2 where
  subject := js "did:tsl:alice"
  issuer := js "did:tsl:relay:dev"
  domain := js "general"
  scoring_profile_id := js "profile-v0"
  gate_result := {
    schema_valid := true
    signature_valid := true
    key_active := true
    not_revoked := true
    included_in_log := none
    checkpoint_valid := none
    settlement_satisfied := some true
    delegation_valid := none
    others := .none _ }
  coverage_bps := .ofNat 9000
  label := .rated .trusted (by decide)
  evidence_coverage_commitment := none
  issued_at := js "2026-05-25T00:00:00Z"
  expires_at := js "2026-06-25T00:00:00Z"
  signature := bytesToHex (
    bigEndian 32 0xd20f345001f6ff06f26d393608eb0e6676f4a367149f1543a8343537e75c5804 ++
    bigEndian 32 0x7c969b69cfb9c25507f0f16eb96a06070b697226d7b5fff9e531b7829a50d50b)
  others := {
    entries := [(js "type", .str (js "tsl.trust_assessment.v2")),
      (js "assessment_id",
        .str (hex32 0x4444444444444444444444444444444444444444444444444444444444444444)),
      (js "model_version", .str (js "reference-v0")), (js "reason_codes", .arr []),
      (js "risk_codes", .arr [])]
    nodup := by decide
    fresh := by decide }

/-- The sample event with the assessment, and no evidence of a settlement. -/
def assessedInput : VerifyTSLInput :=
  { signedInput with assessment_v2 := .value settledAssessment }

def assessedNoble : Noble :=
  let digest := bigEndian 32 0xede06d003f583ce3bf2842199f186f4a43965a8785eb3a87c1cf4461b092d8a8
  recorded
    ((domainMessage V2_DOMAIN_TAGS.TRUST_ASSESSMENT_V2 (valueBytes (.obj (withoutSignature
      settledAssessment.toFields))), digest) :: signedDigests)
    ((hexBytes settledAssessment.signature, digest,
      bigEndian 32 0x8139770ea87d175f56a35466c34c7ecccb8d8a91b4ee37a25df60f5b8fc9b394) ::
      sampleSignatures) fun _ => List.replicate 32 255

end Sample

end Continuity
