import Continuity.VerifierSigners

namespace Continuity
open Frames
set_option autoImplicit true

/-- The items of a policy that stand for a check of the same name. -/
def enforcedChecks (policy : VerifierPolicy Option) : List (Bool × CheckName) :=
  [(isOn policy.require_inclusion, .included_in_log),
    (isOn policy.require_checkpoint, .checkpoint_matches_proof),
    (isOn policy.require_settlement, .checkpoint_settled),
    (isOn policy.require_chain_revocation, .chain_revocation_checked),
    (nonEmptyList policy.require_zk_claims, .zk_valid),
    (truthy policy.require_agent_scope, .agent_scope_valid),
    (isOn policy.require_consistency_proof, .consistency_proof_valid),
    (isOn policy.require_non_membership_proof, .non_membership_proof_valid),
    (isOn policy.require_governance_policy, .governance_policy_valid),
    (isOn policy.require_audit_consistency, .audit_consistency_valid),
    (isOn policy.require_v2_assessment, .trust_assessment_v2_valid),
    (isOn policy.require_provider_governance_active, .provider_governance_valid),
    (isOn policy.require_seed_governance_opening, .seed_governance_valid),
    (isOn policy.require_graph_artifacts, .graph_artifacts_valid)]

/-- A domain policy that its schema accepts, for the domain `d`. -/
def DomainSupplied (H : Host) (input : ExpandedInput) (d : JsString) : Prop :=
  ∃ supplied, input.domain_policy = some supplied ∧
    (H.validateSchema .domainPolicyV1 (.obj supplied.toFields)).valid = true ∧
    supplied.domain = d

/-- An assessment whose issuer and model are in the registries of the backend. -/
def RegistryAnswers (backend : Option SettlementBackend) (assessment : TrustAssessmentV1) : Prop :=
  ∃ isProviderActive isModelRegistered,
    backend.bind SettlementBackend.isProviderActive = some isProviderActive ∧
    backend.bind SettlementBackend.isModelRegistered = some isModelRegistered ∧
    isProviderActive assessment.issuer = .ok true ∧
    isModelRegistered assessment.issuer assessment.model_version = .ok true

/-- The relay has signed the checkpoint with an active key, or the environment takes the
signature of the fixtures for one. -/
def RelaySigned (H : Host) (resolver : TrustResolver) (policy : VerifierPolicy Option)
    (envelope : EventCommitmentV1) (checkpoint : BatchCheckpointV1) : Prop :=
  LiveSigned H resolver checkpoint.relay_id envelope.timestamp
      (checkpointHashForPolicy H checkpoint) checkpoint.relay_signature ∨
    (H.flag "ALLOW_UNSAFE_CHECKPOINT_SIGNATURE_FIXTURES" = true ∧
      (isOn policy.reject_unsafe_fixtures_on_mainnet && H.onMainnet) = false ∧
      checkpoint.relay_signature = js "0x00")

/-- Every item that the policy requires is there and holds. -/
structure PolicyEnforced (H : Host) (resolver : TrustResolver) (policy : VerifierPolicy Option)
    (backend : Option SettlementBackend) (input : ExpandedInput) (checks : VerificationChecks) :
    Prop where
  domain : ∀ d, policy.required_domain_policy = some d → DomainSupplied H input d
  registry : isOn policy.require_provider_registry = true →
    ∃ assessment, input.assessment = some assessment ∧ RegistryAnswers backend assessment
  relay : isOn policy.require_authorized_relay = true →
    ∀ relays, policy.authorized_relays = some relays → relays ≠ [] →
      ∃ envelope checkpoint, input.envelope = some envelope ∧
        input.checkpoint = some checkpoint ∧ checkpoint.relay_id ∈ relays ∧
        RelaySigned H resolver policy envelope checkpoint
  drift : isOn policy.require_core_drift_formula = true → input.drift_report.isSome = true →
    ∃ first rest, input.drift_feature_history = some (first :: rest)
  checks : ∀ entry ∈ enforcedChecks policy, entry.1 = true → checks entry.2 = some true

/-- The blocks in which the policy asks for a domain policy and for the registries are run. -/
structure PolicyReached (H : Host) (policy : VerifierPolicy Option) (input : ExpandedInput) :
    Prop where
  domain : ∀ d, policy.required_domain_policy = some d →
    (d ≠ [] ∧ (input.scoring_profile.isSome || input.assessment_v2.isSome) = true) ∨
      DomainSupplied H input d
  registry : isOn policy.require_provider_registry = true → input.assessment.isSome = true

section Blocks

variable {C : Context} {r r' : Report}

theorem domainPolicyBlock_supplied (hq : (domainPolicyBlock C r).errors = [])
    (hd : C.policy.required_domain_policy = some d) (hne : d ≠ []) :
    DomainSupplied C.host C.input d := by
  have ht : truthy C.policy.required_domain_policy = true := truthy_iff.mpr ⟨d, hd, hne⟩
  rw [domainPolicyBlock] at hq
  split at hq
  · next supplied hs =>
    simp only [ht, Bool.not_true, Bool.false_or] at hq
    cases hv : (C.validate .domainPolicyV1 (.obj supplied.toFields)).valid &&
      C.policy.required_domain_policy == some supplied.domain with
    | false => simp [hv, Report.pushIf] at hq
    | true =>
      rw [Bool.and_eq_true, hd, beq_iff_eq, Option.some.injEq] at hv
      exact ⟨supplied, hs, hv.1, hv.2.symm⟩
  · rw [if_pos ht] at hq
    simp at hq

theorem assessmentBlock_registered (h : assessmentBlock C r = .ok r') (hq : r'.errors = [])
    (hr : isOn C.policy.require_provider_registry = true)
    (ha : C.input.assessment = some assessment) : RegistryAnswers C.backend assessment := by
  rw [assessmentBlock, ha] at h
  obtain ⟨identity, -, h⟩ := bind_eq_ok.mp h
  obtain ⟨r₁, hregistry, h⟩ := bind_eq_ok.mp h
  obtain ⟨valid, hv, h⟩ := bind_eq_ok.mp h
  cases valid with
  | false =>
    cases h
    simp [assessmentErrors] at hq
  | true =>
    obtain ⟨hcond, -⟩ := guarded_true.mp hv
    simp only [hr, Bool.not_true, Bool.false_or, Bool.and_eq_true, Report.passes,
      beq_iff_eq] at hcond
    obtain ⟨-, hactive, hregistered⟩ := hcond
    rw [providerRegistryBlock, if_pos hr] at hregistry
    split at hregistry
    · next isProviderActive isModelRegistered hp hm =>
      obtain ⟨active, hoka, hregistry⟩ := bind_eq_ok.mp hregistry
      obtain ⟨registered, hokr, hregistry⟩ := bind_eq_ok.mp hregistry
      cases hregistry
      simp [Report.check] at hactive hregistered
      subst hactive hregistered
      exact ⟨isProviderActive, isModelRegistered, hp, hm, hoka, hokr⟩
    · cases hregistry
      simp [Report.check] at hactive

theorem checkpointSigned_relay (h : checkpointSigned C checkpoint = .ok true) :
    RelaySigned C.host C.resolver C.policy C.envelope checkpoint := by
  obtain ⟨identity, hi, h⟩ := bind_eq_ok.mp h
  split at h
  · next hfixture =>
    simp only [unsafeFixtureSignatureAllowed, Bool.and_eq_true, decide_eq_true_eq,
      Bool.not_eq_true'] at hfixture
    exact .inr ⟨hfixture.1.1, hfixture.1.2, hfixture.2⟩
  · exact .inl (liveSigned_of_active hi h)

theorem acceptedBy_mem (h : acceptedBy accepted value = true) (ha : accepted = some items)
    (hne : items ≠ []) : value ∈ items := by
  subst ha
  cases items with
  | nil => exact (hne rfl).elim
  | cons first rest => simpa [acceptedBy] using h

theorem checkpointBlock_authorized (h : checkpointBlock C r = .ok r') (hq : r'.errors = [])
    (hr : isOn C.policy.require_authorized_relay = true)
    (hn : r.checks .authorized_relay_valid = none)
    (hv : r'.checks .authorized_relay_valid = some true) :
    ∃ checkpoint, C.input.checkpoint = some checkpoint ∧
      acceptedBy C.policy.authorized_relays checkpoint.relay_id = true ∧
      RelaySigned C.host C.resolver C.policy C.envelope checkpoint := by
  cases hc : C.input.checkpoint with
  | none =>
    rw [checkpointBlock, hc] at h
    cases h
    rw [hn] at hv
    cases hv
  | some checkpoint =>
    have hsigned := checkpointBlock_signed h hq hc
    refine ⟨checkpoint, rfl, ?_, checkpointSigned_relay hsigned⟩
    rw [checkpointBlock, hc] at h
    dsimp only at h
    split at h
    · cases h
      simp at hq
    · obtain ⟨identityMatches, -, h⟩ := bind_eq_ok.mp h
      obtain ⟨signed, hs, h⟩ := bind_eq_ok.mp h
      cases h
      cases hs.symm.trans hsigned
      simpa [authorizedRelayBlock, hr] using hv

theorem recomputeDriftBlock_history (h : recomputeDriftBlock C r = .ok r') (hq : r'.errors = [])
    (hr : isOn C.policy.require_core_drift_formula = true)
    (hd : C.input.drift_report.isSome = true) :
    ∃ first rest, C.input.drift_feature_history = some (first :: rest) := by
  obtain ⟨drift, hd⟩ := Option.isSome_iff_exists.mp hd
  rw [recomputeDriftBlock, hd] at h
  rcases getD_nil_or C.input.drift_feature_history with hn | hsome
  · have hempty : nonEmptyList C.input.drift_feature_history = false := by
      cases hh : C.input.drift_feature_history with
      | none => rfl
      | some history =>
        rw [hh] at hn
        cases hn
        rfl
    simp only [hr, hempty, Bool.not_false, Bool.and_true, if_true] at h
    split at h
    · cases h
      simp at hq
    · obtain ⟨recomputed, -, h⟩ := bind_eq_ok.mp h
      cases h
      simp [Report.pushIf, Report.graph] at hq
      split at hq <;> simp at hq
  · exact hsome

theorem graphBlock_drift (h : graphBlock C r = .ok r') (hq : r'.errors = [])
    (hr : isOn C.policy.require_core_drift_formula = true)
    (hd : C.input.drift_report.isSome = true) :
    ∃ first rest, C.input.drift_feature_history = some (first :: rest) := by
  have hscoped : graphScoped C = true := by simp [graphScoped, hd]
  rw [graphBlock, if_pos hscoped] at h
  obtain ⟨_, -, h⟩ := bind_eq_ok.mp h
  obtain ⟨_, -, h⟩ := bind_eq_ok.mp h
  obtain ⟨_, -, h⟩ := bind_eq_ok.mp h
  obtain ⟨_, -, h⟩ := bind_eq_ok.mp h
  obtain ⟨_, -, h⟩ := bind_eq_ok.mp h
  obtain ⟨_, -, h⟩ := bind_eq_ok.mp h
  obtain ⟨r₁, hdrift, h⟩ := bind_eq_ok.mp h
  cases h
  have hq₁ : r₁.errors = [] := ((covarianceDriftBlock_advances C r₁).trans
    (graphErrorsBlock_advances C (covarianceDriftBlock C r₁))).quiet hq
  exact recomputeDriftBlock_history hdrift hq₁ hr hd

end Blocks

theorem enforcedChecks_required (h : entry ∈ enforcedChecks policy) :
    entry ∈ requiredChecks policy input := by
  simp only [enforcedChecks, List.mem_cons, List.not_mem_nil, or_false] at h
  simp only [requiredChecks, List.mem_cons, List.not_mem_nil, or_false]
  grind

namespace VerifiedRun

variable {H : Host} {tools : Recomputation} {input : VerifyTSLInput} {resolver : TrustResolver}
  {policy : VerifierPolicy JsField} {backend : Option SettlementBackend}
  (V : VerifiedRun H tools input resolver policy backend)

include V in
theorem domain_supplied (hd : policy.withDefaults.required_domain_policy = some d) (hne : d ≠ [])
    (hs : ((expandProofBundleInput H input).1.scoring_profile.isSome ||
      (expandProofBundleInput H input).1.assessment_v2.isSome) = true) :
    DomainSupplied H (expandProofBundleInput H input).1 d := by
  obtain ⟨r, r', hb, hq⟩ := V.quiet_block 10 (by decide)
  have hscoped : ((expandProofBundleInput H input).1.scoring_profile.isSome ||
      (expandProofBundleInput H input).1.assessment_v2.isSome ||
      isOn policy.withDefaults.require_v2_assessment) = true := by
    rw [hs, Bool.true_or]
  obtain ⟨r₁, _, -, -, hqd, -⟩ := scoringBlock_parts hb hq hscoped
  exact domainPolicyBlock_supplied hqd hd hne

include V in
theorem relay_authorized (hr : isOn policy.require_authorized_relay = true)
    (ha : policy.withDefaults.authorized_relays = some relays) (hne : relays ≠ []) :
    ∃ envelope checkpoint, (expandProofBundleInput H input).1.envelope = some envelope ∧
      (expandProofBundleInput H input).1.checkpoint = some checkpoint ∧
      checkpoint.relay_id ∈ relays ∧
      RelaySigned H resolver policy.withDefaults envelope checkpoint := by
  obtain ⟨r, r', hr₀, hb, hr'⟩ := V.block 20 (by decide)
  have hbefore : r.checks .authorized_relay_valid = none :=
    V.default_before 20 hr₀ (by simp [ownedBy, ownedBlocks, scoringChecks, graphChecks]) (by simp)
      (by simp) (by simp)
  have hfinal : V.final.checks .authorized_relay_valid = some true :=
    V.required (by simp [requiredChecks, VerifierPolicy.withDefaults, hr])
  have hafter : r'.checks .authorized_relay_valid = some true := by
    rw [← hfinal]
    exact (hr'.get _ (by simp [ownedBy, ownedBlocks])).symm
  obtain ⟨checkpoint, hc, haccepted, hsigned⟩ :=
    checkpointBlock_authorized hb (hr'.quiet V.quiet) hr hbefore hafter
  exact ⟨V.envelope, checkpoint, V.envelope_eq, hc, acceptedBy_mem haccepted ha hne, hsigned⟩

end VerifiedRun

/-- A verified result meets every item that the policy requires exactly when the blocks that ask
for a domain policy and for the registries are reached. -/
theorem verifyTSL_enforces (h : verifyTSL H tools input resolver policy backend = .ok result)
    (hv : result.verified = true) :
    PolicyEnforced H resolver policy.withDefaults backend (expandProofBundleInput H input).1
        result.checks ↔
      PolicyReached H policy.withDefaults (expandProofBundleInput H input).1 := by
  obtain ⟨V, -, hchecks⟩ := verifyTSL_final h hv
  constructor
  · intro he
    refine ⟨fun d hd => .inr (he.domain d hd), ?_⟩
    intro hr
    obtain ⟨assessment, ha, -⟩ := he.registry hr
    rw [ha]
    rfl
  · intro hreached
    refine ⟨?_, ?_, ?_, ?_, ?_⟩
    · intro d hd
      rcases hreached.domain d hd with ⟨hne, hs⟩ | hsupplied
      · exact V.domain_supplied hd hne hs
      · exact hsupplied
    · intro hr
      obtain ⟨assessment, ha⟩ := Option.isSome_iff_exists.mp (hreached.registry hr)
      obtain ⟨_, _, hb, hq⟩ := V.quiet_block 9 (by decide)
      exact ⟨assessment, ha, assessmentBlock_registered hb hq hr ha⟩
    · intro hr relays ha hne
      exact V.relay_authorized hr ha hne
    · intro hr hd
      obtain ⟨_, _, hb, hq⟩ := V.quiet_block 12 (by decide)
      exact graphBlock_drift hb hq hr hd
    · rintro ⟨required, name⟩ hm hon
      cases hon
      rw [hchecks]
      exact V.required (enforcedChecks_required hm)

/-- A policy with both items, and without anything that reaches their blocks. -/
def domainPolicy : VerifierPolicy JsField :=
  { samplePolicy with
    required_domain_policy := some (js "finance")
    require_provider_registry := some true }

/-- A policy that accepts the checkpoints of one relay. -/
def relayPolicy : VerifierPolicy JsField :=
  { samplePolicy with
    require_authorized_relay := some true
    authorized_relays := some [js "did:tsl:relay:dev"] }

/-- The sample event is verified under both policies. -/
theorem samplePolicies_run :
    VerificationResult.verified <$> verifyTSL (sampleHost signedNoble) sampleTools signedInput
        sampleResolver.resolveTrustID domainPolicy none = .ok true ∧
      VerificationResult.verified <$> verifyTSL (sampleHost signedNoble) sampleTools signedInput
        sampleResolver.resolveTrustID relayPolicy none = .ok true := by
  decide +kernel

/-- The sample event is verified without a domain policy and without an assessment. -/
theorem verifyTSL_unreached :
    VerificationResult.verified <$> verifyTSL (sampleHost signedNoble) sampleTools signedInput
        sampleResolver.resolveTrustID domainPolicy none = .ok true ∧
      ¬∃ checks, PolicyEnforced (sampleHost signedNoble) sampleResolver.resolveTrustID
        domainPolicy.withDefaults none
        (expandProofBundleInput (sampleHost signedNoble) signedInput).1 checks := by
  refine ⟨samplePolicies_run.1, ?_⟩
  rintro ⟨checks, he⟩
  obtain ⟨supplied, hs, -⟩ := he.domain (js "finance") rfl
  cases hs

theorem verifyTSL_enforces_sample :
    ∃ result, verifyTSL (sampleHost signedNoble) sampleTools signedInput
        sampleResolver.resolveTrustID relayPolicy none = .ok result ∧ result.verified = true ∧
      PolicyEnforced (sampleHost signedNoble) sampleResolver.resolveTrustID
        relayPolicy.withDefaults none
        (expandProofBundleInput (sampleHost signedNoble) signedInput).1 result.checks := by
  have hok : VerificationResult.verified <$> verifyTSL (sampleHost signedNoble) sampleTools
      signedInput sampleResolver.resolveTrustID relayPolicy none = .ok true :=
    samplePolicies_run.2
  obtain ⟨result, hrun, hv⟩ := map_eq_ok.mp hok
  refine ⟨result, hrun, hv, (verifyTSL_enforces hrun hv).mpr ⟨?_, ?_⟩⟩
  · intro d hd
    cases hd
  · intro hr
    cases hr

end Continuity
