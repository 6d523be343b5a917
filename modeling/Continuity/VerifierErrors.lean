import Continuity.VerifierFrames
import Mathlib.Data.List.Dedup

namespace Continuity
open Frames
set_option autoImplicit true

/-- The error of a revocation whose signature fails. -/
abbrev signatureError : String := "TSL_REVOCATION_SIGNATURE_INVALID"

/-- The report does not get the error about the signature of a revocation. -/
def Silent (r r' : Report) : Prop := signatureError ∈ r'.errors → signatureError ∈ r.errors

/-- A block that never reports the signature of a revocation. -/
abbrev Silences (block : Report → Js Report) : Prop :=
  Reflects (fun r : Report => signatureError ∈ r.errors) block

/-- What a block ends with, without the error about the signature of a revocation. -/
def SilentFrom (r : Report) (x : Js Report) : Prop := ∀ t, x = .ok t → Silent r t

/-- The tools and the backend have error codes of their own. -/
structure OwnCodes (tools : Recomputation) (backend : Option SettlementBackend) : Prop where
  action : ∀ action policies keys time outcome,
    tools.verifyDelegatedAgentActionV0 action policies keys time = .ok outcome →
      outcome.error_code ≠ some signatureError
  settlement : ∀ evidence outcome, tools.verifyOfflineSettlementEvidence evidence = .ok outcome →
    outcome.error_code ≠ some signatureError
  backend : ∀ B checkpoint result, backend = some B →
    B.verifyCheckpointSettlement checkpoint = .ok result → result.error ≠ some signatureError

/-- The verifier looks for a signature of the revocation and does not find it. -/
def SignatureFails (H : Host) (resolver : TrustResolver) (revocation : RevocationV1) : Prop :=
  (H.validateSchema .revocation (.obj revocation.toFields)).valid = true ∧
    ∃ identity, resolver revocation.trust_id revocation.effective_at = .ok identity ∧
      signedBy H (revocationKey identity revocation) (revocationHash H.noble revocation)
        revocation.signature ≠ .ok true

/-- The revocations that the verifier reads. -/
def disclosedRevocations (H : Host) (input : VerifyTSLInput) : List RevocationV1 :=
  (expandProofBundleInput H input).1.revocations.getD []

/-- The verifier gets past the schema of the event and finds the document of its sender. -/
def ReachesBlocks (H : Host) (input : VerifyTSLInput) (resolver : TrustResolver) : Prop :=
  ∃ envelope, (expandProofBundleInput H input).1.envelope = some envelope ∧
    (H.validateSchema .event (.obj envelope.toFields)).valid = true ∧
    resolver envelope.sender envelope.timestamp ≠ .ok none

namespace SilentFrom

theorem pure (h : Silent r t) : SilentFrom r (Pure.pure t) := by
  intro u hu
  cases hu
  exact h

theorem bind {x : Js α} {f : α → Js Report} (h : ∀ a, x = .ok a → SilentFrom r (f a)) :
    SilentFrom r (x >>= f) := by
  intro u hu
  obtain ⟨a, ha, hu⟩ := bind_eq_ok.mp hu
  exact h a ha u hu

theorem after {x : Js Report} (hs : Silent r r') (h : SilentFrom r' x) : SilentFrom r x :=
  fun u hu hm => hs (h u hu hm)

theorem seq {x : Js Report} {f : Report → Js Report} (hx : SilentFrom r x)
    (hf : ∀ t, SilentFrom t (f t)) : SilentFrom r (x >>= f) := by
  apply bind
  intro t ht
  exact after (hx t ht) (hf t)

end SilentFrom

theorem silences_of (h : ∀ r, SilentFrom r (block r)) : Silences block :=
  fun r t ht hm => h r t ht hm

section Reports

@[simp] theorem Report.uncheck_errors (r : Report) (name : CheckName) :
    (r.uncheck name).errors = r.errors := rfl

@[simp] theorem Report.pushIf_errors (r : Report) (condition : Bool) (es : List String) :
    (r.pushIf condition es).errors = r.errors ++ if condition then es else [] := by
  cases condition with
  | false => exact (List.append_nil _).symm
  | true => rfl

@[simp] theorem Report.rate_errors (r : Report) (label : AssessmentLabel) :
    (r.rate label).errors = r.errors := rfl

@[simp] theorem Report.settle_errors (r : Report) (status : SettlementStatus) :
    (r.settle status).errors = r.errors := rfl

@[simp] theorem Report.record_errors (r : Report) (name : CheckName) (results : List ItemResult) :
    (r.record name results).errors = r.errors ++ results.flatMap ItemResult.errors := rfl

@[simp] theorem Report.keep_errors (r : Report) (name : CheckName) (value : Bool) :
    (r.keep name value).errors = r.errors := rfl

@[simp] theorem Report.graph_errors (r : Report) (value : Bool) :
    (r.graph value).errors = r.errors := rfl

@[simp] theorem Report.requireGraph_errors (r : Report) (condition : Bool) (error : String) :
    (r.requireGraph condition error).errors = r.errors ++ if condition then [] else [error] := by
  cases condition with
  | false => rfl
  | true => exact (List.append_nil _).symm

/-- The text of a schema error has a space. -/
theorem errorText_ne (error : ErrorObject) : errorText error ≠ signatureError := by
  intro h
  have hspace : ' ' ∈ (errorText error).toList := by
    unfold errorText
    rw [String.toList_append, String.toList_append]
    exact List.mem_append_left _ (List.mem_append_right _ (by decide))
  rw [h] at hspace
  revert hspace
  decide

@[simp] theorem validation_silent (H : Host) (name : SchemaName) (value : JsValue) :
    signatureError ∉ (H.validateSchema name value).errors := by
  unfold Host.validateSchema
  split
  · simp
  · intro hm
    obtain ⟨error, -, he⟩ := List.mem_map.mp hm
    exact errorText_ne error he

@[simp] theorem validate_silent (C : Context) (name : SchemaName) (value : JsValue) :
    signatureError ∉ (C.validate name value).errors :=
  validation_silent C.host name value

end Reports

namespace Silent

theorem push (h : Silent r r') (hne : signatureError ∉ es) : Silent r (r'.push es) := by
  intro hm
  rw [Report.push_errors, List.mem_append] at hm
  exact h (hm.resolve_right hne)

theorem pushIf (h : Silent r r') (condition : Bool) (hne : signatureError ∉ es) :
    Silent r (r'.pushIf condition es) := by
  cases condition with
  | false => exact h
  | true => exact h.push hne

theorem explainIf (h : Silent r r') (condition : Bool) (text : String) :
    Silent r (r'.explainIf condition text) := by
  intro hm
  rw [Report.explainIf_errors] at hm
  exact h hm

/-- Items that do not have the error are recorded without it. -/
theorem record {results : List ItemResult} (h : Silent r r')
    (hr : ∀ item ∈ results, signatureError ∉ item.errors) (name : CheckName) :
    Silent r (r'.record name results) := by
  apply h.push
  rw [List.mem_flatMap]
  rintro ⟨item, hi, hm⟩
  exact hr item hi hm

theorem requireGraph (h : Silent r r') (condition : Bool) (hne : signatureError ≠ error) :
    Silent r (r'.requireGraph condition error) := by
  cases condition with
  | false => exact h.push (by simpa using hne)
  | true => exact h

end Silent

section Blocks

variable (C : Context)

theorem chainRevocationBlock_silent : Silences (chainRevocationBlock C) := by
  apply silences_of
  intro r
  dsimp only [chainRevocationBlock]
  split
  · split
    · apply SilentFrom.bind
      intro revoked _
      apply SilentFrom.pure
      cases revoked <;> simp [Silent, signatureError]
    · apply SilentFrom.pure
      simp [Silent, signatureError]
  · exact SilentFrom.pure id

theorem explainKeyBlock_silent : Silences fun r => return explainKeyBlock r := by
  apply silences_of
  intro r
  apply SilentFrom.pure
  simp [Silent, explainKeyBlock]

theorem messageDisclosureBlock_silent : Silences (messageDisclosureBlock C) := by
  apply silences_of
  intro r
  dsimp only [messageDisclosureBlock]
  split
  · exact SilentFrom.pure id
  · split
    · apply SilentFrom.bind
      intro consent _
      apply SilentFrom.bind
      intro content _
      apply SilentFrom.pure
      cases content <;> cases consent <;> simp [Silent, signatureError]
    · exact SilentFrom.pure id

theorem proofBlock_silent : Silences (proofBlock C) := by
  apply silences_of
  intro r
  dsimp only [proofBlock]
  split
  · exact SilentFrom.pure id
  · split
    · apply SilentFrom.bind
      intro included _
      split
      · apply SilentFrom.pure
        simp [Silent]
      · apply SilentFrom.bind
        intro valid _
        apply SilentFrom.pure
        simp [Silent]
    · apply SilentFrom.pure
      simp [Silent, signatureError]

theorem consentBlock_silent (h : consentBlock C required fieldClasses r = .ok (r', consent)) :
    Silent r r' := by
  unfold consentBlock at h
  split at h
  · obtain ⟨allowed, -, h⟩ := bind_eq_ok.mp h
    cases h
    cases consent <;> simp [Silent, signatureError]
  · cases h
    exact id

theorem checkReceipt_silent (h : checkReceipt C receipt = .ok result) :
    signatureError ∉ result.errors := by
  dsimp only [checkReceipt] at h
  split at h
  · cases h
    simp [signatureError]
  · obtain ⟨signed, -, h⟩ := bind_eq_ok.mp h
    split at h
    · obtain ⟨included, -, h⟩ := bind_eq_ok.mp h
      cases h
      cases signed <;> cases included <;> simp [signatureError]
    · cases h
      cases signed <;> simp [signatureError]

theorem receiptsBlock_silent : Silences (receiptsBlock C) := by
  apply silences_of
  intro r
  dsimp only [receiptsBlock]
  split
  · apply SilentFrom.bind
    rintro ⟨r', consent⟩ hc
    apply SilentFrom.bind
    intro results hr
    apply SilentFrom.pure
    have hitems := mapM_forall (fun _ _ _ => checkReceipt_silent C) hr
    apply Silent.explainIf
    unfold Silent
    rw [Report.keepAll_errors]
    apply Silent.record (consentBlock_silent C hc)
    simpa using hitems
  · exact SilentFrom.pure id

theorem checkAttestation_silent (h : checkAttestation C attestation = .ok item) :
    signatureError ∉ item.errors := by
  dsimp only [checkAttestation] at h
  split at h
  · cases h
    simp [signatureError]
  · simp only [bind_eq_ok] at h
    obtain ⟨identity, -, valid, -, h⟩ := h
    cases h
    cases valid <;> simp [signatureError]

theorem checkAttestationV2_silent (h : checkAttestationV2 C attestation = .ok item) :
    signatureError ∉ item.errors := by
  dsimp only [checkAttestationV2] at h
  split at h
  · cases h
    simp [signatureError]
  · simp only [bind_eq_ok] at h
    obtain ⟨identity, -, valid, -, h⟩ := h
    cases h
    cases valid <;> simp [signatureError]

theorem attestationsBlock_silent : Silences (attestationsBlock C) := by
  apply silences_of
  intro r
  dsimp only [attestationsBlock]
  split
  · apply SilentFrom.bind
    rintro ⟨r', consent⟩ hc
    apply SilentFrom.bind
    intro results hr
    apply SilentFrom.pure
    apply Silent.explainIf
    apply Silent.record (consentBlock_silent C hc)
    have hitems := mapM_forall (fun _ _ _ => checkAttestation_silent C) hr
    simpa using hitems
  · exact SilentFrom.pure id

theorem attestationsV2Block_silent : Silences (attestationsV2Block C) := by
  apply silences_of
  intro r
  dsimp only [attestationsV2Block]
  split
  · apply SilentFrom.bind
    rintro ⟨r', consent⟩ hc
    apply SilentFrom.bind
    intro results hr
    apply SilentFrom.pure
    apply Silent.explainIf
    apply Silent.record (consentBlock_silent C hc)
    have hitems := mapM_forall (fun _ _ _ => checkAttestationV2_silent C) hr
    simpa using hitems
  · exact SilentFrom.pure id

theorem privateFieldsBlock_silent : Silences (privateFieldsBlock C) := by
  intro r r' h
  obtain ⟨result, hc, rfl⟩ := map_eq_ok.mp h
  exact consentBlock_silent C hc

theorem providerRegistryBlock_silent (assessment : TrustAssessmentV1) :
    Silences (providerRegistryBlock C assessment) := by
  apply silences_of
  intro r
  dsimp only [providerRegistryBlock]
  split
  · split
    · apply SilentFrom.bind
      intro active _
      apply SilentFrom.bind
      intro registered _
      apply SilentFrom.pure
      simp [Silent]
    · apply SilentFrom.pure
      simp [Silent, signatureError]
  · exact SilentFrom.pure id

theorem assessmentErrors_silent (assessment : TrustAssessmentV1) (name : SchemaName)
    (value : JsValue) (r : Report) :
    signatureError ∉ assessmentErrors C assessment (C.validate name value) r := by
  unfold assessmentErrors
  simp only [List.mem_append, List.mem_cons, validate_silent, not_or, or_false]
  refine ⟨⟨⟨⟨⟨by decide, ?_⟩, ?_⟩, ?_⟩, ?_⟩, ?_⟩ <;> split <;> simp [signatureError]

theorem assessmentBlock_silent : Silences (assessmentBlock C) := by
  apply silences_of
  intro r
  dsimp only [assessmentBlock]
  split
  · exact SilentFrom.pure id
  · apply SilentFrom.bind
    intro identity _
    apply SilentFrom.seq (providerRegistryBlock_silent C _ r)
    intro r'
    apply SilentFrom.bind
    intro valid _
    split
    · apply SilentFrom.pure
      simp [Silent]
    · apply SilentFrom.pure
      simp [Silent, assessmentErrors_silent]

theorem scoringProfileBlock_silent : Silences (scoringProfileBlock C) := by
  apply silences_of
  intro r
  dsimp only [scoringProfileBlock]
  split
  · apply SilentFrom.bind
    intro identity _
    apply SilentFrom.bind
    intro valid _
    apply SilentFrom.pure
    cases valid <;> split <;> simp [Silent, signatureError]
  · split
    · apply SilentFrom.pure
      simp [Silent, signatureError]
    · exact SilentFrom.pure id

theorem domainPolicyBlock_silent (r : Report) : Silent r (domainPolicyBlock C r) := by
  dsimp only [domainPolicyBlock]
  split
  · exact Silent.pushIf id _ (by simp [signatureError])
  · split <;> simp [Silent, signatureError]

theorem evidenceCoverageBlock_silent (r : Report) : Silent r (evidenceCoverageBlock C r) := by
  dsimp only [evidenceCoverageBlock]
  split
  · exact Silent.pushIf id _ (by simp [signatureError])
  · exact id

theorem providerGovernanceBlock_silent : Silences (providerGovernanceBlock C) := by
  apply silences_of
  intro r
  dsimp only [providerGovernanceBlock]
  split
  · split
    · apply SilentFrom.pure
      simp [Silent, signatureError]
    · apply SilentFrom.bind
      intro signed _
      apply SilentFrom.pure
      apply Silent.pushIf id
      cases signed <;> split <;> simp [signatureError]
  · exact SilentFrom.pure id

theorem assessmentV2Block_silent : Silences (assessmentV2Block C) := by
  apply silences_of
  intro r
  dsimp only [assessmentV2Block]
  split
  · apply SilentFrom.bind
    intro identity _
    apply SilentFrom.bind
    intro valid _
    split
    · apply SilentFrom.pure
      simp [Silent]
    · apply SilentFrom.pure
      split <;> simp [Silent, signatureError]
  · split
    · apply SilentFrom.pure
      simp [Silent, signatureError]
    · exact SilentFrom.pure id

theorem scoringBlock_silent : Silences (scoringBlock C) := by
  apply silences_of
  intro r
  dsimp only [scoringBlock]
  split
  · apply SilentFrom.seq (scoringProfileBlock_silent C r)
    intro r'
    have hd : Silent r' (evidenceCoverageBlock C (domainPolicyBlock C r')) :=
      fun hm => domainPolicyBlock_silent C r' (evidenceCoverageBlock_silent C _ hm)
    apply SilentFrom.after hd
    apply SilentFrom.seq (providerGovernanceBlock_silent C _)
    intro r''
    exact assessmentV2Block_silent C r''
  · exact SilentFrom.pure id

theorem checkFingerprint_silent (h : checkFingerprint C fingerprint = .ok item) :
    signatureError ∉ item.errors := by
  simp only [checkFingerprint, bind_eq_ok] at h
  obtain ⟨identity, -, valid, -, h⟩ := h
  cases h
  cases valid <;> simp [signatureError]

theorem metadataBlock_silent : Silences (metadataBlock C) := by
  apply silences_of
  intro r
  dsimp only [metadataBlock]
  split
  · apply SilentFrom.bind
    intro results hr
    have hrecord := Silent.record (r := r) id
      (mapM_forall (fun _ _ _ => checkFingerprint_silent C) hr) .metadata_fingerprint_valid
    split
    · apply SilentFrom.pure
      intro hm
      apply hrecord
      simpa [signatureError] using hm
    · exact SilentFrom.pure hrecord
  · exact SilentFrom.pure id

theorem graphArtifactsBlock_silent (r : Report) : Silent r (graphArtifactsBlock C r) := by
  dsimp only [graphArtifactsBlock]
  split <;> simp [Silent, signatureError]

theorem graphVectorBlock_silent : Silences (graphVectorBlock C) := by
  apply silences_of
  intro r
  dsimp only [graphVectorBlock]
  split
  · exact SilentFrom.pure id
  · apply SilentFrom.bind
    intro identity _
    apply SilentFrom.bind
    intro signed _
    apply SilentFrom.pure
    simp [Silent]

theorem researchAlgorithmBlock_silent (r : Report) : Silent r (researchAlgorithmBlock C r) := by
  dsimp only [researchAlgorithmBlock]
  split
  · exact Silent.pushIf id _ (by decide)
  · exact id

theorem exactFormulasBlock_silent : Silences (exactFormulasBlock C) := by
  apply silences_of
  intro r
  dsimp only [exactFormulasBlock]
  split
  · exact SilentFrom.pure id
  · next vector _ =>
    split
    · have hfields : Silent r (r.requireGraph (manifoldFieldsPresent vector)
          "TSL_MANIFOLD_PROFILE_UNSUPPORTED") := Silent.requireGraph id _ (by decide)
      split
      · exact SilentFrom.pure (hfields.requireGraph _ (by decide))
      · split
        · apply SilentFrom.bind
          intro opened _
          exact SilentFrom.pure (hfields.requireGraph _ (by decide))
        · exact SilentFrom.pure hfields
    · exact SilentFrom.pure id

theorem seedGovernanceBlock_silent : Silences (seedGovernanceBlock C) := by
  apply silences_of
  intro r
  dsimp only [seedGovernanceBlock]
  split
  · apply SilentFrom.bind
    intro trustedCommitment _
    apply SilentFrom.bind
    intro adversarialCommitment _
    apply SilentFrom.bind
    intro trustedValid _
    apply SilentFrom.bind
    intro adversarialValid _
    exact SilentFrom.pure (Silent.pushIf id _ (by decide))
  · exact SilentFrom.pure id

theorem sybilSignatureBlock_silent : Silences (sybilSignatureBlock C) := by
  apply silences_of
  intro r
  dsimp only [sybilSignatureBlock]
  split
  · exact SilentFrom.pure id
  · apply SilentFrom.bind
    intro identity _
    apply SilentFrom.bind
    intro signed _
    apply SilentFrom.pure
    split <;> simp [Silent, signatureError]

theorem driftSignatureBlock_silent : Silences (driftSignatureBlock C) := by
  apply silences_of
  intro r
  dsimp only [driftSignatureBlock]
  split
  · exact SilentFrom.pure id
  · apply SilentFrom.bind
    intro identity _
    apply SilentFrom.bind
    intro signed _
    apply SilentFrom.pure
    split <;> simp [Silent, signatureError]

theorem graphEvidenceError_ne (message : String) : signatureError ≠ graphEvidenceError message := by
  unfold graphEvidenceError
  split
  · next h => simp [h, signatureError]
  · split
    · next h => simp [h, signatureError]
    · decide

theorem recomputeVectorBlock_silent (graph : C.tools.GraphV0) (r : Report) :
    Silent r (recomputeVectorBlock C graph r) := by
  dsimp only [recomputeVectorBlock]
  split
  · split
    · apply Silent.requireGraph id
      split
      · next h => simp [h, signatureError]
      · decide
    · exact Silent.pushIf id _ (by decide)
  · exact id

theorem recomputeSybilBlock_silent (graph : C.tools.GraphV0) :
    Silences (recomputeSybilBlock C graph) := by
  apply silences_of
  intro r
  dsimp only [recomputeSybilBlock]
  split
  · apply SilentFrom.bind
    intro recomputed _
    apply SilentFrom.pure
    apply Silent.pushIf
    · intro hm
      rw [Report.graph_errors] at hm
      exact Silent.pushIf id _ (by decide) hm
    · decide
  · exact SilentFrom.pure id

theorem recomputeGraphBlock_silent : Silences (recomputeGraphBlock C) := by
  apply silences_of
  intro r
  dsimp only [recomputeGraphBlock]
  split
  · exact SilentFrom.pure id
  · exact SilentFrom.pure (Silent.requireGraph id _ (graphEvidenceError_ne _))
  · apply SilentFrom.after (recomputeVectorBlock_silent C _ r)
    intro t ht
    exact recomputeSybilBlock_silent C _ _ t ht

theorem recomputeDriftBlock_silent : Silences (recomputeDriftBlock C) := by
  apply silences_of
  intro r
  dsimp only [recomputeDriftBlock]
  split
  · exact SilentFrom.pure id
  · split
    · apply SilentFrom.pure
      split <;> simp [Silent, signatureError]
    · apply SilentFrom.bind
      intro recomputed _
      apply SilentFrom.pure
      apply Silent.pushIf
      · split <;> simp [Silent, signatureError]
      · decide

theorem covarianceDriftBlock_silent (r : Report) : Silent r (covarianceDriftBlock C r) := by
  dsimp only [covarianceDriftBlock]
  split
  · exact id
  · split
    · exact Silent.pushIf id _ (by decide)
    · exact id

theorem validateOption_silent (name : SchemaName) (fields : Option JsObject) :
    signatureError ∉ ((C.validateOption name fields).map SchemaValidationResult.errors).getD [] := by
  cases fields with
  | none => exact List.not_mem_nil
  | some fields => exact validate_silent C name (.obj fields)

theorem graphErrorsBlock_silent (r : Report) : Silent r (graphErrorsBlock C r) := by
  apply Silent.pushIf id
  rw [List.mem_cons, List.mem_flatMap]
  rintro (h | ⟨validation, hm, he⟩)
  · exact absurd h (by decide)
  · simp only [graphValidations, List.mem_cons, List.not_mem_nil, or_false] at hm
    rcases hm with rfl | rfl | rfl | rfl <;> exact validateOption_silent C _ _ he

theorem graphBlock_silent : Silences (graphBlock C) := by
  apply silences_of
  intro r
  dsimp only [graphBlock]
  split
  · apply SilentFrom.after (graphArtifactsBlock_silent C r)
    apply SilentFrom.seq (graphVectorBlock_silent C _)
    intro r
    apply SilentFrom.after (researchAlgorithmBlock_silent C r)
    apply SilentFrom.seq (exactFormulasBlock_silent C _)
    intro r
    apply SilentFrom.seq (seedGovernanceBlock_silent C r)
    intro r
    apply SilentFrom.seq (sybilSignatureBlock_silent C r)
    intro r
    apply SilentFrom.seq (driftSignatureBlock_silent C r)
    intro r
    apply SilentFrom.seq (recomputeGraphBlock_silent C r)
    intro r
    apply SilentFrom.seq (recomputeDriftBlock_silent C r)
    intro r
    apply SilentFrom.pure
    exact fun hm => covarianceDriftBlock_silent C r (graphErrorsBlock_silent C _ hm)
  · exact SilentFrom.pure id

theorem checkZkProof_silent (h : checkZkProof C proof = .ok item) :
    signatureError ∉ item.errors := by
  simp only [checkZkProof, bind_eq_ok] at h
  obtain ⟨valid, -, h⟩ := h
  cases h
  cases valid
  · simp only [Bool.false_eq_true, if_false, List.mem_append, List.mem_cons, validate_silent]
    split <;> simp [signatureError]
  · simp

theorem zkBlock_silent : Silences (zkBlock C) := by
  apply silences_of
  intro r
  dsimp only [zkBlock]
  split
  · apply SilentFrom.bind
    intro results hr
    apply SilentFrom.pure
    apply Silent.explainIf
    apply Silent.record
    · split <;> simp [Silent]
    · intro item hi
      rcases List.mem_append.mp hi with hi | hi
      · exact mapM_forall (fun _ _ _ => checkZkProof_silent C) hr item hi
      · obtain ⟨_, -, rfl⟩ := List.mem_map.mp hi
        decide
  · exact SilentFrom.pure id

theorem checkDelegation_silent (h : checkDelegation C delegation = .ok item) :
    signatureError ∉ item.errors := by
  simp only [checkDelegation, bind_eq_ok] at h
  obtain ⟨valid, -, h⟩ := h
  cases h
  cases valid <;> simp [signatureError]

theorem delegationsBlock_silent : Silences (delegationsBlock C) := by
  apply silences_of
  intro r
  dsimp only [delegationsBlock]
  split
  · apply SilentFrom.bind
    intro results hr
    apply SilentFrom.pure
    apply Silent.explainIf
    apply Silent.record id
    intro item hi
    rcases List.mem_append.mp hi with hi | hi
    · exact mapM_forall (fun _ _ _ => checkDelegation_silent C) hr item hi
    · split at hi
      · rw [List.mem_singleton.mp hi]
        decide
      · cases hi
  · exact SilentFrom.pure id

theorem checkDelegationPolicy_silent (h : checkDelegationPolicy C policy = .ok result) :
    signatureError ∉ result.1.errors := by
  simp only [checkDelegationPolicy, bind_eq_ok] at h
  obtain ⟨identity, -, signed, -, h⟩ := h
  cases signed <;> cases h <;> simp [signatureError]

theorem actionErrors_silent {result : Outcome} (h : result.error_code ≠ some signatureError)
    (name : SchemaName) (value : JsValue) :
    signatureError ∉ if result.ok then [] else
      result.error_code.getD "TSL_DELEGATED_ACTION_INVALID" :: (C.validate name value).errors := by
  split
  · exact List.not_mem_nil
  · rw [List.mem_cons, not_or]
    refine ⟨?_, validate_silent C name value⟩
    cases hc : result.error_code with
    | none => decide
    | some code => exact fun he => h (by rw [hc, he, Option.getD_some])

theorem checkActions_silent (ho : OwnCodes C.tools C.backend)
    (h : checkActions C publicKeys actions = .ok items) :
    ∀ item ∈ items, signatureError ∉ item.errors := by
  induction actions generalizing publicKeys items with
  | nil =>
    cases h
    simp
  | cons action rest ih =>
    dsimp only [checkActions] at h
    obtain ⟨identity, -, h⟩ := bind_eq_ok.mp h
    split at h
    · obtain ⟨result, hr, h⟩ := bind_eq_ok.mp h
      obtain ⟨rest', hrest, h⟩ := bind_eq_ok.mp h
      cases h
      intro item hi
      rcases List.mem_cons.mp hi with rfl | hi
      · exact actionErrors_silent C (ho.action _ _ _ _ _ hr) _ _
      · exact ih hrest item hi
    · obtain ⟨result, hr, h⟩ := bind_eq_ok.mp h
      obtain ⟨rest', hrest, h⟩ := bind_eq_ok.mp h
      cases hr
      cases h
      intro item hi
      rcases List.mem_cons.mp hi with rfl | hi
      · simp [signatureError]
      · exact ih hrest item hi

theorem agentActionsBlock_silent (ho : OwnCodes C.tools C.backend) :
    Silences (agentActionsBlock C) := by
  apply silences_of
  intro r
  dsimp only [agentActionsBlock]
  split
  · apply SilentFrom.bind
    intro policies hp
    apply SilentFrom.bind
    intro actions ha
    apply SilentFrom.pure
    apply Silent.record id
    intro item hi
    rcases List.mem_append.mp hi with hi | hi
    · obtain ⟨result, hr, rfl⟩ := List.mem_map.mp hi
      exact mapM_forall (fun _ _ _ => checkDelegationPolicy_silent C) hp result hr
    · exact checkActions_silent C ho ha item hi
  · exact SilentFrom.pure id

theorem Silent.gate {results : List ItemResult} (h : Silent r r')
    (hr : ∀ item ∈ results, signatureError ∉ item.errors) (hne : signatureError ≠ missing)
    (name : CheckName) (required : Bool) (text : String) :
    Silent r (r'.gate name required results missing text) := by
  apply Silent.explainIf
  apply Silent.record h
  intro item hi
  rcases List.mem_append.mp hi with hi | hi
  · exact hr item hi
  · split at hi
    · rw [List.mem_singleton.mp hi]
      simpa using hne
    · cases hi

theorem checkConsistencyProof_silent (h : checkConsistencyProof C proof = .ok item) :
    signatureError ∉ item.errors := by
  simp only [checkConsistencyProof, bind_eq_ok] at h
  obtain ⟨current, -, h⟩ := h
  cases h
  dsimp only
  split <;> simp [signatureError]

theorem consistencyBlock_silent : Silences (consistencyBlock C) := by
  apply silences_of
  intro r
  dsimp only [consistencyBlock]
  split
  · apply SilentFrom.bind
    intro results hr
    exact SilentFrom.pure (Silent.gate id
      (mapM_forall (fun _ _ _ => checkConsistencyProof_silent C) hr) (by decide) _ _ _)
  · exact SilentFrom.pure id

theorem checkNonMembershipProof_silent (h : checkNonMembershipProof C proof = .ok item) :
    signatureError ∉ item.errors := by
  simp only [checkNonMembershipProof, bind_eq_ok] at h
  obtain ⟨valid, -, h⟩ := h
  cases h
  cases valid <;> simp [signatureError]

theorem nonMembershipBlock_silent : Silences (nonMembershipBlock C) := by
  apply silences_of
  intro r
  dsimp only [nonMembershipBlock]
  split
  · apply SilentFrom.bind
    intro results hr
    exact SilentFrom.pure (Silent.gate id
      (mapM_forall (fun _ _ _ => checkNonMembershipProof_silent C) hr) (by decide) _ _ _)
  · exact SilentFrom.pure id

theorem governancePolicyBlock_silent : Silences (governancePolicyBlock C) := by
  apply silences_of
  intro r
  dsimp only [governancePolicyBlock]
  split
  · split
    · apply SilentFrom.pure
      simp [Silent, signatureError]
    · exact SilentFrom.pure id
  · apply SilentFrom.bind
    intro identity _
    apply SilentFrom.bind
    intro valid _
    split
    · apply SilentFrom.pure
      simp [Silent]
    · apply SilentFrom.pure
      apply Silent.push id
      simp only [List.mem_append, List.mem_cons, validate_silent, not_or, or_false]
      refine ⟨⟨⟨by decide, ?_⟩, ?_⟩, ?_⟩ <;> split <;> simp [signatureError]

theorem checkAuditFinding_silent (h : checkAuditFinding C finding = .ok item) :
    signatureError ∉ item.errors := by
  simp only [checkAuditFinding, bind_eq_ok] at h
  obtain ⟨identity, -, signed, -, expected, -, h⟩ := h
  cases h
  dsimp only
  split
  · exact List.not_mem_nil
  · simp only [List.mem_append, List.mem_cons, validate_silent, not_or, or_false]
    refine ⟨⟨⟨⟨by decide, ?_⟩, ?_⟩, ?_⟩, ?_⟩ <;> split <;> simp [signatureError]

theorem auditBlock_silent : Silences (auditBlock C) := by
  apply silences_of
  intro r
  dsimp only [auditBlock]
  split
  · apply SilentFrom.bind
    intro results hr
    exact SilentFrom.pure (Silent.gate id
      (mapM_forall (fun _ _ _ => checkAuditFinding_silent C) hr) (by decide) _ _ _)
  · exact SilentFrom.pure id

theorem checkpointBlock_silent : Silences (checkpointBlock C) := by
  apply silences_of
  intro r
  dsimp only [checkpointBlock]
  split
  · exact SilentFrom.pure id
  · split
    · apply SilentFrom.pure
      simp [Silent, signatureError]
    · apply SilentFrom.bind
      intro identityMatches _
      apply SilentFrom.bind
      intro signed _
      apply SilentFrom.pure
      unfold authorizedRelayBlock
      cases identityMatches <;> cases signed <;> split <;> simp [Silent, signatureError]

theorem checkpointMatchBlock_silent : Silences (checkpointMatchBlock C) := by
  apply silences_of
  intro r
  dsimp only [checkpointMatchBlock]
  split
  · split
    · apply SilentFrom.bind
      intro sameRoot _
      apply SilentFrom.pure
      simp [Silent]
    · exact SilentFrom.pure id
  · exact SilentFrom.pure id

theorem settlementEvidenceError_silent (ho : OwnCodes C.tools C.backend)
    (h : settlementEvidenceError C checkpoint checkpointHashValue fieldsHash evidence =
      .ok error) :
    error ≠ some signatureError := by
  dsimp only [settlementEvidenceError] at h
  split at h
  · cases h
    decide
  · obtain ⟨offline, hoff, h⟩ := bind_eq_ok.mp h
    split at h
    · cases h
      cases hc : offline.error_code with
      | none => decide
      | some code => exact fun he => ho.settlement _ _ hoff (hc.trans he)
    · simp only [bind_eq_ok] at h
      obtain ⟨eventHash, -, commitmentMatches, -, offlineMatches, -, h⟩ := h
      split at h <;> cases h <;> decide

theorem firstSettlement_silent {check : SettlementEvidenceV1 → Js (Option String)}
    (hc : ∀ evidence error, check evidence = .ok error → error ≠ some signatureError)
    (hl : lastError ≠ signatureError) (h : firstSettlement check lastError items = .ok outcome) :
    outcome.error_code ≠ some signatureError := by
  induction items generalizing lastError with
  | nil =>
    cases h
    exact fun he => hl (Option.some.inj he)
  | cons evidence rest ih =>
    rw [firstSettlement] at h
    obtain ⟨error, he, h⟩ := bind_eq_ok.mp h
    cases error with
    | none =>
      cases h
      exact Option.some_ne_none _ ∘ Eq.symm
    | some error => exact ih (fun hs => hc evidence _ he (by rw [hs])) h

theorem settlementEvidenceBlock_silent (ho : OwnCodes C.tools C.backend) :
    Silences (settlementEvidenceBlock C) := by
  apply silences_of
  intro r
  dsimp only [settlementEvidenceBlock]
  split
  · apply SilentFrom.bind
    intro hash _
    apply SilentFrom.bind
    intro outcome houtcome
    unfold settlementEvidenceMatchesCheckpoint at houtcome
    obtain ⟨fieldsHash, -, houtcome⟩ := bind_eq_ok.mp houtcome
    have hcode : outcome.error_code ≠ some signatureError :=
      firstSettlement_silent (fun _ _ he => settlementEvidenceError_silent C ho he)
        (by simp [signatureError]) houtcome
    split
    · apply SilentFrom.pure
      simp [Silent]
    · apply SilentFrom.pure
      cases hc : outcome.error_code with
      | none => simp [Silent, signatureError]
      | some code =>
        have hne : signatureError ≠ code := fun he => hcode (by rw [hc, he])
        simp [Silent, hne]
  · exact SilentFrom.pure id

theorem settlementBackendBlock_silent (ho : OwnCodes C.tools C.backend) :
    Silences (settlementBackendBlock C) := by
  apply silences_of
  intro r
  dsimp only [settlementBackendBlock]
  split
  · next backend _ hb =>
    split
    · exact SilentFrom.pure id
    · apply SilentFrom.bind
      intro settlement hs
      have hcode := ho.backend _ _ settlement hb hs
      split
      · apply SilentFrom.pure
        simp [Silent]
      · split
        · next error he =>
          have hne : signatureError ≠ error := fun h => hcode (by rw [he, h])
          split
          · apply SilentFrom.pure
            simp [Silent]
          · apply SilentFrom.pure
            simp [Silent, hne]
        · apply SilentFrom.pure
          simp [Silent]
  · exact SilentFrom.pure id

theorem finalAssessmentBlock_silent : Silences (finalAssessmentBlock C) := by
  apply silences_of
  intro r
  dsimp only [finalAssessmentBlock]
  split
  · exact SilentFrom.pure id
  · apply SilentFrom.bind
    intro coverage _
    split
    · exact SilentFrom.pure id
    · apply SilentFrom.pure
      exact Silent.pushIf (Silent.pushIf id _ (by decide)) _ (by decide)

/-- The blocks after the one about the revocations. -/
theorem laterBlocks_silent (ho : OwnCodes C.tools C.backend) :
    ∀ block ∈ (verifierBlocks C).drop 3, Silences block := by
  simp only [verifierBlocks, List.drop_succ_cons, List.drop_zero, List.forall_mem_cons]
  exact ⟨messageDisclosureBlock_silent C, proofBlock_silent C, receiptsBlock_silent C,
    attestationsBlock_silent C, attestationsV2Block_silent C, privateFieldsBlock_silent C,
    assessmentBlock_silent C, scoringBlock_silent C, metadataBlock_silent C, graphBlock_silent C,
    zkBlock_silent C, delegationsBlock_silent C, agentActionsBlock_silent C ho,
    consistencyBlock_silent C, nonMembershipBlock_silent C, governancePolicyBlock_silent C,
    auditBlock_silent C, checkpointBlock_silent C, checkpointMatchBlock_silent C,
    settlementEvidenceBlock_silent C ho, settlementBackendBlock_silent C ho,
    finalAssessmentBlock_silent C, fun _ hm => absurd hm List.not_mem_nil⟩

theorem revocationsBlock_errors (h : revocationsBlock C r = .ok t) :
    ∃ results, (C.input.revocations.getD []).mapM (checkRevocation C) = .ok results ∧
      t.errors = r.errors ++ results.flatMap fun result => result.errors := by
  unfold revocationsBlock at h
  split at h
  · next revocation rest hr =>
    obtain ⟨results, hm, h⟩ := bind_eq_ok.mp h
    cases h
    refine ⟨results, by rw [hr]; exact hm, ?_⟩
    rw [Report.explainIf_errors]
    split <;> simp [List.flatMap_map]
  · next hr =>
    cases h
    refine ⟨[], ?_, by simp⟩
    cases hd : C.input.revocations with
    | none => rfl
    | some revocations =>
      cases revocations with
      | nil => rfl
      | cons revocation rest => exact absurd hd (hr revocation rest)

/-- The check of a revocation reports the signature of one that its schema accepts. -/
theorem checkRevocation_error (h : checkRevocation C revocation = .ok result) :
    signatureError ∈ result.errors ↔ SignatureFails C.host C.resolver revocation := by
  change _ ↔ (C.validate .revocation (.obj revocation.toFields)).valid = true ∧
    ∃ identity, C.resolver revocation.trust_id revocation.effective_at = .ok identity ∧
      signedBy C.host (revocationKey identity revocation) (revocationHash C.noble revocation)
        revocation.signature ≠ .ok true
  dsimp only [checkRevocation] at h
  split at h
  · next hv =>
    cases h
    have hinvalid : (C.validate .revocation (.obj revocation.toFields)).valid = false := by
      simpa using hv
    simp [signatureError, hinvalid]
  · next hv =>
    have hvalid : (C.validate .revocation (.obj revocation.toFields)).valid = true := by
      simpa using hv
    obtain ⟨identity, hi, h⟩ := bind_eq_ok.mp h
    obtain ⟨signed, hs, h⟩ := bind_eq_ok.mp h
    cases h
    rw [hi]
    cases signed <;> cases revokesEnvelopeKey C revocation <;> simp [signatureError, hs, hvalid]

/-- The blocks report the signature of a revocation when the one of a disclosed revocation fails. -/
theorem verifierBlocks_error (ho : OwnCodes C.tools C.backend) (hr : signatureError ∉ r.errors)
    (h : pipeline (verifierBlocks C) r = .ok t) :
    signatureError ∈ t.errors ↔ ∃ revocation ∈ C.input.revocations.getD [],
      SignatureFails C.host C.resolver revocation := by
  obtain ⟨r₁, h₁, h⟩ := pipeline_cons h
  obtain ⟨r₂, h₂, h⟩ := pipeline_cons h
  obtain ⟨r₃, h₃, h⟩ := pipeline_cons h
  obtain ⟨results, hm, he⟩ := revocationsBlock_errors C h₃
  have hbefore : signatureError ∉ r₂.errors := fun hx =>
    hr (chainRevocationBlock_silent C r r₁ h₁ (explainKeyBlock_silent r₁ r₂ h₂ hx))
  constructor
  · intro hx
    have hx := pipeline_reflects (laterBlocks_silent C ho) r₃ t h hx
    rw [he, List.mem_append, List.mem_flatMap] at hx
    obtain ⟨result, hresult, hx⟩ := hx.resolve_left hbefore
    have hfrom := mapM_forall (Q := fun result => ∃ revocation ∈ C.input.revocations.getD [],
      checkRevocation C revocation = .ok result) (fun a ha _ hc => ⟨a, ha, hc⟩) hm
    obtain ⟨revocation, hd, hc⟩ := hfrom result hresult
    exact ⟨revocation, hd, (checkRevocation_error C hc).mp hx⟩
  · rintro ⟨revocation, hd, hfails⟩
    obtain ⟨result, hresult, hc⟩ := mapM_mem hm hd
    have hlater : Advances (ownedBy ((ownedBlocks C).drop 3)) r₃ t := by
      apply pipeline_frame
      exact h
    apply hlater.log.subset
    show signatureError ∈ r₃.errors
    rw [he, List.mem_append, List.mem_flatMap]
    exact .inr ⟨result, hresult, (checkRevocation_error C hc).mpr hfails⟩

theorem finalErrors_silent (policy : VerifierPolicy Option) (r : Report) :
    signatureError ∉ finalErrors policy r := by
  unfold finalErrors
  simp only [List.mem_append, not_or]
  refine ⟨⟨⟨⟨⟨⟨⟨?_, ?_⟩, ?_⟩, ?_⟩, ?_⟩, ?_⟩, ?_⟩, ?_⟩ <;> split <;> simp [signatureError]

end Blocks

section Run

variable {H : Host} {input : VerifyTSLInput} {resolver : TrustResolver}

theorem expandProofBundleInput_silent (H : Host) (input : VerifyTSLInput) :
    signatureError ∉ (expandProofBundleInput H input).2 := by
  unfold expandProofBundleInput
  split
  · exact List.not_mem_nil
  · unfold conflictErrors
    simp [signatureError]

theorem bundleBlock_silent (H : Host) (input : ExpandedInput) (r : Report) :
    Silent r (bundleBlock H input r) := by
  dsimp only [bundleBlock]
  split
  · exact id
  · apply Silent.pushIf
    · apply Silent.pushIf id
      rw [List.mem_cons, not_or]
      exact ⟨by decide, validation_silent H _ _⟩
    · decide

theorem openingReport_silent (H : Host) (policy : VerifierPolicy Option) (input : ExpandedInput)
    (he : signatureError ∉ errors) :
    signatureError ∉ (openingReport H policy input errors).errors := by
  intro hm
  have hbundle := Silent.pushIf id _ (by decide) hm
  have hfixtures := bundleBlock_silent H input _ hbundle
  exact he (Silent.pushIf id _ (by simp [signatureError]) hfixtures)

theorem keyBlock_errors (C : Context) (h : keyBlock C identity unsignedEventHash r = .ok t) :
    t.errors = r.errors := by
  obtain ⟨signed, -, h⟩ := bind_eq_ok.mp h
  cases h
  rfl

theorem verifyEnvelope_error (ho : OwnCodes tools backend) (hr : signatureError ∉ r.errors)
    (h : verifyEnvelope H tools resolver policy backend expanded envelope r = .ok result) :
    signatureError ∈ result.errors ↔ resolver envelope.sender envelope.timestamp ≠ .ok none ∧
      ∃ revocation ∈ expanded.revocations.getD [], SignatureFails H resolver revocation := by
  simp only [verifyEnvelope] at h
  obtain ⟨hash, -, h⟩ := bind_eq_ok.mp h
  obtain ⟨found, hi, h⟩ := bind_eq_ok.mp h
  rw [hi]
  cases found with
  | none =>
    cases h
    simp [rejected, hr, signatureError]
  | some identity =>
    obtain ⟨commitment, -, h⟩ := bind_eq_ok.mp h
    obtain ⟨legacy, -, h⟩ := bind_eq_ok.mp h
    obtain ⟨keyed, hk, h⟩ := bind_eq_ok.mp h
    obtain ⟨final, hf, h⟩ := bind_eq_ok.mp h
    cases h
    have hkeyed : signatureError ∉ keyed.errors := by
      rw [keyBlock_errors _ hk]
      exact hr
    have hclosing : ∀ C, signatureError ∈ (closingResult C hash final).errors ↔
        signatureError ∈ final.errors := by
      intro C
      simp [closingResult, mem_unique, finalErrors_silent]
    rw [hclosing, verifierBlocks_error _ ho hkeyed hf]
    simp

/-- The verifier reports the signature of a revocation when it reaches the blocks and the one of a
disclosed revocation fails. -/
theorem verifyTSL_error (ho : OwnCodes tools backend)
    (h : verifyTSL H tools input resolver policy backend = .ok result) :
    signatureError ∈ result.errors ↔ ReachesBlocks H input resolver ∧
      ∃ revocation ∈ disclosedRevocations H input, SignatureFails H resolver revocation := by
  have hopening := openingReport_silent H policy.withDefaults (expandProofBundleInput H input).1
    (expandProofBundleInput_silent H input)
  simp only [verifyTSL] at h
  split at h
  · next hv =>
    cases h
    constructor
    · intro hm
      rcases List.mem_append.mp hm with hm | hm
      · exact absurd hm hopening
      · rcases List.mem_cons.mp hm with hm | hm
        · exact absurd hm (by decide)
        · exact absurd hm (validation_silent H _ _)
    · rintro ⟨⟨envelope, he, hvalid, -⟩, -⟩
      rw [he] at hv
      exact absurd hvalid (by simpa [optional] using hv)
  · next hv =>
    split at h
    · next envelope he =>
      have hvalid : (H.validateSchema .event (.obj envelope.toFields)).valid = true := by
        rw [he] at hv
        simpa [optional] using hv
      have hstart := verifyEnvelope_error ho (by rw [Report.check_errors]; exact hopening) h
      refine hstart.trans ?_
      constructor
      · rintro ⟨hknown, hfails⟩
        exact ⟨⟨envelope, he, hvalid, hknown⟩, hfails⟩
      · rintro ⟨⟨envelope', he', -, hknown⟩, hfails⟩
        cases he.symm.trans he'
        exact ⟨hknown, hfails⟩
    · cases h

end Run

end Continuity
