import Continuity.PolicyGraph

namespace Continuity
open Frames
set_option autoImplicit true

section Blocks

variable {C : Context} {flags : PolicyFlag → Option Bool}

/-- Every proof that a run accepts is accepted under looser flags. -/
def ProofsRelax (C : Context) (flags : PolicyFlag → Option Bool) : Prop :=
  ∀ proof ∈ C.input.zk_proofs.getD [],
    C.tools.verifyThresholdProofAsync proof (zkOptions C) = .ok true →
    C.tools.verifyThresholdProofAsync proof (zkOptions (C.relax flags)) = .ok true

theorem checkZkProof_relax (hz : ProofsRelax C flags) (hm : proof ∈ C.input.zk_proofs.getD [])
    (h : checkZkProof C proof = .ok item) (hq : item.errors = []) :
    checkZkProof (C.relax flags) proof = .ok item := by
  unfold checkZkProof at h ⊢
  obtain ⟨valid, hvalid, h⟩ := bind_eq_ok.mp h
  cases h
  cases valid with
  | false => simp at hq
  | true =>
    obtain ⟨hguard, hproof⟩ := guarded_true.mp hvalid
    exact bind_eq_ok.mpr ⟨true, guarded_true.mpr ⟨hguard, hz proof hm hproof⟩, rfl⟩

theorem zkBlock_relaxed (hf : Looser flags C.policy) (hz : ProofsRelax C flags) :
    Relaxes C flags (zkBlock (C.relax flags)) (zkBlock C) := by
  intro r s h
  dsimp only [zkBlock]
  rw [show (C.relax flags).policy.require_zk_claims = C.policy.require_zk_claims from rfl,
    show (C.relax flags).policy.require_registered_zk_circuit =
      flags .require_registered_zk_circuit from rfl, Context.relax_input]
  split
  · intro t ht hv
    obtain ⟨results, hm, ht⟩ := bind_eq_ok.mp ht
    cases ht
    have hq := hv.1
    rw [Report.explainIf_errors] at hq
    have hitems := Report.record_quiet hq
    have hm' := mapM_agrees hm fun x hx y hy hxy =>
      checkZkProof_relax hz hx hxy (hitems y (List.mem_append_left _ hy))
    refine ⟨_, bind_eq_ok.mpr ⟨results, hm', rfl⟩, ?_⟩
    refine (Relaxed.record_same ?_ (by decide) _).explainIf
    cases hl : isOn (flags .require_registered_zk_circuit) with
    | true =>
      have hs : isOn C.policy.require_registered_zk_circuit = true := hf.on _ hl
      rw [hs]
      split
      · exact h.check_true _
      · exact h
    | false =>
      have hr : requiredBy (C.relax flags).policy C.input .zk_circuit_registered = false := hl
      rw [Bool.false_and, if_neg Bool.false_ne_true]
      split
      · exact h.check_strict (by decide) hr true
      · exact h
  · exact Simulates.pure fun _ => h

theorem delegationsBlock_relaxed :
    Relaxes C flags (delegationsBlock (C.relax flags)) (delegationsBlock C) := by
  intro r s h
  rw [show delegationsBlock (C.relax flags) = delegationsBlock C from rfl]
  dsimp only [delegationsBlock]
  split
  · apply Simulates.same
    intro results _
    exact Simulates.pure fun _ => (h.record_same (by decide) _).explainIf
  · exact Simulates.pure fun _ => h

theorem checkActions_relax (actions : List AgentActionV2) :
    ∀ publicKeys, checkActions (C.relax flags) publicKeys actions =
      checkActions C publicKeys actions := by
  induction actions with
  | nil =>
    intro publicKeys
    rfl
  | cons action rest ih =>
    intro publicKeys
    simp only [checkActions, ih]
    rfl

theorem agentActionsBlock_relaxed :
    Relaxes C flags (agentActionsBlock (C.relax flags)) (agentActionsBlock C) := by
  intro r s h
  dsimp only [agentActionsBlock]
  simp only [checkActions_relax]
  rw [Context.relax_input]
  split
  · apply Simulates.same
    intro policies _
    apply Simulates.same
    intro actions _
    exact Simulates.pure fun _ => h.record_same (by decide) _
  · exact Simulates.pure fun _ => h

/-- A gate without errors has a valid result where one is required. -/
theorem Report.gate_found {s : Report} {results : List ItemResult}
    (h : (s.gate name required results missing text).errors = []) :
    (required && !results.any ItemResult.valid) = false := by
  rw [Report.gate, Report.explainIf_errors] at h
  cases hm : required && !results.any ItemResult.valid with
  | false => rfl
  | true =>
    have hitem := Report.record_quiet h ⟨false, [missing]⟩ (by simp [hm])
    cases hitem

theorem Relaxed.gate (h : Relaxed C flags r s) (hn : name ∉ openChecks)
    (hreq : required = true → required' = true) {results : List ItemResult}
    (hq : (s.gate name required' results missing text).errors = []) :
    Relaxed C flags (r.gate name required results missing text)
      (s.gate name required' results missing text) := by
  have hs := Report.gate_found hq
  have hl : (required && !results.any ItemResult.valid) = false := by
    apply Bool.eq_false_iff.mpr
    intro hon
    exact Bool.eq_false_iff.mp hs (and_imp_left hreq hon)
  rw [Report.gate, Report.gate, hs, hl]
  exact (h.record_same hn _).explainIf

/-- A list of proofs of which the policy may require a valid one, in both runs. -/
theorem gateBlock_relaxed {items : Option (List α)} {check check' : α → Js ItemResult}
    (hn : name ∉ openChecks) (hreq : required = true → required' = true)
    (hcheck : ∀ x ∈ items.getD [], ∀ item, check' x = .ok item → item.errors = [] →
      check x = .ok item) :
    Relaxes C flags
      (fun r => if nonEmptyList items || required then do
          let results ← (items.getD []).mapM check
          return r.gate name required results missing text
        else return r)
      (fun s => if nonEmptyList items || required' then do
          let results ← (items.getD []).mapM check'
          return s.gate name required' results missing text
        else return s) := by
  intro r s h t ht hv
  by_cases hi : nonEmptyList items = true
  · simp only [hi, Bool.true_or, if_true] at ht ⊢
    obtain ⟨results, hm, ht⟩ := bind_eq_ok.mp ht
    cases ht
    have hm' := mapM_agrees hm fun x hx y hy hxy =>
      hcheck x hx y hxy (Report.gate_quiet hv.1 y hy)
    exact ⟨_, bind_eq_ok.mpr ⟨results, hm', rfl⟩, h.gate hn hreq hv.1⟩
  · simp only [hi, Bool.false_or] at ht ⊢
    by_cases hs : required' = true
    · rw [if_pos hs] at ht
      have hempty : items.getD [] = [] := by
        cases items with
        | none => rfl
        | some items =>
          cases items with
          | nil => rfl
          | cons x xs => exact absurd rfl hi
      rw [hempty] at ht
      cases ht
      have hfound := Report.gate_found hv.1
      rw [hs] at hfound
      cases hfound
    · have hl : ¬ required = true := fun hon => hs (hreq hon)
      rw [if_neg hs] at ht
      rw [if_neg hl]
      cases ht
      exact ⟨r, rfl, h⟩

theorem consistencyBlock_relaxed (hf : Looser flags C.policy) :
    Relaxes C flags (consistencyBlock (C.relax flags)) (consistencyBlock C) :=
  gateBlock_relaxed (by decide) (hf.on .require_consistency_proof) fun _ _ _ h _ => h

theorem sparseRequired_relax (hf : Looser flags C.policy)
    (h : sparseRequired (C.relax flags) = true) : sparseRequired C = true :=
  hf.on .require_sparse_merkle_revocation_root h

theorem checkNonMembershipProof_relax (hf : Looser flags C.policy)
    (h : checkNonMembershipProof C proof = .ok item) (hq : item.errors = []) :
    checkNonMembershipProof (C.relax flags) proof = .ok item := by
  unfold checkNonMembershipProof at h ⊢
  obtain ⟨valid, hvalid, h⟩ := bind_eq_ok.mp h
  cases h
  cases valid with
  | false => simp at hq
  | true =>
    refine bind_eq_ok.mpr ⟨true, ?_, rfl⟩
    unfold nonMembershipValid at hvalid ⊢
    obtain ⟨bound, hbound, hvalid⟩ := bind_eq_ok.mp hvalid
    obtain ⟨hguard, hproof⟩ := guarded_true.mp hvalid
    obtain ⟨hrest, hb⟩ := Bool.and_eq_true _ _ |>.mp hguard
    obtain ⟨hfirst, hshape⟩ := Bool.and_eq_true _ _ |>.mp hrest
    subst hb
    have hbound' : checkpointRootBound (C.relax flags) proof = .ok true := by
      unfold checkpointRootBound at hbound ⊢
      split
      · next hl =>
        rw [if_pos (sparseRequired_relax hf hl)] at hbound
        exact hbound
      · rfl
    refine bind_eq_ok.mpr ⟨true, hbound', guarded_true.mpr ⟨?_, hproof⟩⟩
    rw [Bool.and_true]
    refine Bool.and_eq_true _ _ |>.mpr ⟨hfirst, ?_⟩
    cases hl : sparseRequired (C.relax flags) with
    | false => rfl
    | true =>
      rw [sparseRequired_relax hf hl] at hshape
      exact hshape

theorem nonMembershipBlock_relaxed (hf : Looser flags C.policy) :
    Relaxes C flags (nonMembershipBlock (C.relax flags)) (nonMembershipBlock C) :=
  gateBlock_relaxed (by decide) (hf.on .require_non_membership_proof) fun _ _ _ h hq =>
    checkNonMembershipProof_relax hf h hq

theorem governancePolicyBlock_relaxed (hf : Looser flags C.policy) :
    Relaxes C flags (governancePolicyBlock (C.relax flags)) (governancePolicyBlock C) := by
  intro r s h
  dsimp only [governancePolicyBlock]
  rw [Context.relax_input]
  split
  · by_cases hs : isOn C.policy.require_governance_policy = true
    · intro t ht hv
      rw [if_pos hs] at ht
      cases ht
      have hq := hv.1
      simp at hq
    · have hl : ¬ isOn (C.relax flags).policy.require_governance_policy = true :=
        fun hon => hs (hf.on .require_governance_policy hon)
      rw [if_neg hs, if_neg hl]
      exact Simulates.pure fun _ => h
  · apply Simulates.same
    intro identity _
    apply Simulates.same
    intro valid _
    split
    · exact Simulates.pure fun _ => (h.check (by decide) valid).explainIf
    · exact Simulates.pure fun _ => (h.check (by decide) valid).push _

theorem auditBlock_relaxed (hf : Looser flags C.policy) :
    Relaxes C flags (auditBlock (C.relax flags)) (auditBlock C) :=
  gateBlock_relaxed (by decide) (hf.on .require_audit_consistency) fun _ _ _ h _ => h

theorem unsafeFixtureSignatureAllowed_relax (hf : Looser flags C.policy)
    (h : unsafeFixtureSignatureAllowed C = true) :
    unsafeFixtureSignatureAllowed (C.relax flags) = true := by
  obtain ⟨hflag, hreject⟩ := Bool.and_eq_true _ _ |>.mp h
  refine Bool.and_eq_true _ _ |>.mpr ⟨hflag, ?_⟩
  rw [Bool.not_eq_true'] at hreject ⊢
  apply Bool.eq_false_iff.mpr
  intro hon
  exact Bool.eq_false_iff.mp hreject
    (and_imp_left (hf.on .reject_unsafe_fixtures_on_mainnet) hon)

theorem checkpointSigned_relax (hf : Looser flags C.policy)
    (h : checkpointSigned C checkpoint = .ok true) :
    checkpointSigned (C.relax flags) checkpoint = .ok true := by
  unfold checkpointSigned at h ⊢
  obtain ⟨identity, hi, h⟩ := bind_eq_ok.mp h
  refine bind_eq_ok.mpr ⟨identity, hi, ?_⟩
  split
  · rfl
  · next hoff =>
    split at h
    · next hon =>
      exact absurd (and_imp_left (unsafeFixtureSignatureAllowed_relax hf) hon) hoff
    · exact h

theorem authorizedRelayBlock_relaxed (hf : Looser flags C.policy) (h : Relaxed C flags r s)
    (hq : (authorizedRelayBlock C checkpoint signed s).errors = []) :
    Relaxed C flags (authorizedRelayBlock (C.relax flags) checkpoint signed r)
      (authorizedRelayBlock C checkpoint signed s) := by
  unfold authorizedRelayBlock at hq ⊢
  rw [show (C.relax flags).policy.require_authorized_relay =
    flags .require_authorized_relay from rfl]
  by_cases hl : isOn (flags .require_authorized_relay) = true
  · have hs : isOn C.policy.require_authorized_relay = true := hf.on _ hl
    rw [if_pos hs] at hq
    rw [if_pos hl, if_pos hs]
    exact h.open_check (by simp) hq
  · rw [if_neg hl]
    split at hq
    · next hs =>
      rw [if_pos hs]
      exact h.open_strict (by decide) (Bool.eq_false_iff.mpr hl) (by simp) hq
    · next hs =>
      rw [if_neg hs]
      exact h

theorem authorizedRelayBlock_before
    (hq : (authorizedRelayBlock C checkpoint signed s).errors = []) : s.errors = [] := by
  unfold authorizedRelayBlock at hq
  split at hq
  · have hc := Report.pushIf_before hq
    exact hc
  · exact hq

theorem checkpointBlock_relaxed (hf : Looser flags C.policy) :
    Relaxes C flags (checkpointBlock (C.relax flags)) (checkpointBlock C) := by
  intro r s h
  dsimp only [checkpointBlock]
  rw [Context.relax_input, show (C.relax flags).validate = C.validate from rfl]
  split
  · exact Simulates.pure fun _ => h
  · next checkpoint _ =>
    split
    · exact Simulates.pure fun _ => (h.check (by decide) _).push _
    · rw [show checkpointIdentityMatches (C.relax flags) = checkpointIdentityMatches C from rfl]
      apply Simulates.same
      intro identityMatches _ t ht hv
      obtain ⟨signed, hs, ht⟩ := bind_eq_ok.mp ht
      cases ht
      have hsigned : signed = true := by
        simpa using Report.pushIf_quiet (authorizedRelayBlock_before hv.1) (by simp)
      subst hsigned
      refine ⟨_, bind_eq_ok.mpr ⟨true, checkpointSigned_relax hf hs, rfl⟩, ?_⟩
      apply authorizedRelayBlock_relaxed hf _ hv.1
      have hr : Relaxed C flags (r.check .checkpoint_valid _) (s.check .checkpoint_valid _) :=
        h.check (by decide) (C.validate .checkpoint (.obj checkpoint.toFields)).valid
      cases identityMatches with
      | true => exact (hr.check_true _).pushIf _ _
      | false => exact (((hr.check (by decide) false).push _).check_true _).pushIf _ _

theorem checkpointMatchBlock_relaxed :
    Relaxes C flags (checkpointMatchBlock (C.relax flags)) (checkpointMatchBlock C) := by
  intro r s h
  rw [show checkpointMatchBlock (C.relax flags) = checkpointMatchBlock C from rfl]
  dsimp only [checkpointMatchBlock]
  rw [h.passes (by decide)]
  split
  · split
    · apply Simulates.same
      intro sameRoot _
      exact Simulates.pure fun _ => (h.check (by decide) sameRoot).explainIf
    · exact Simulates.pure fun _ => h
  · exact Simulates.pure fun _ => h

/-- Evidence that a run can judge can be judged under looser flags, and still settles. -/
def EvidenceRelaxes (C : Context) (flags : PolicyFlag → Option Bool) : Prop :=
  ∀ evidence ∈ C.input.settlement_evidence.getD [], ∀ checkpoint checkpointHash fieldsHash error,
    settlementEvidenceError C checkpoint checkpointHash fieldsHash evidence = .ok error →
    ∃ error', settlementEvidenceError (C.relax flags) checkpoint checkpointHash fieldsHash
      evidence = .ok error' ∧ (error = none → error' = none)

theorem firstSettlement_relax {check check' : SettlementEvidenceV1 → Js (Option String)}
    (hcheck : ∀ e ∈ items, ∀ error, check' e = .ok error →
      ∃ error', check e = .ok error' ∧ (error = none → error' = none))
    (h : firstSettlement check' last items = .ok outcome) (hok : outcome.ok = true) :
    ∀ last', ∃ outcome', firstSettlement check last' items = .ok outcome' ∧
      outcome'.ok = true := by
  induction items generalizing last with
  | nil =>
    cases h
    cases hok
  | cons e rest ih =>
    intro last'
    obtain ⟨error, he, h⟩ := bind_eq_ok.mp h
    obtain ⟨error', he', hnone⟩ := hcheck e List.mem_cons_self error he
    cases error' with
    | none => exact ⟨⟨true, none⟩, bind_eq_ok.mpr ⟨none, he', rfl⟩, rfl⟩
    | some message =>
      cases error with
      | none => cases hnone rfl
      | some message' =>
        obtain ⟨outcome', ho, hok'⟩ :=
          ih (fun e he => hcheck e (List.mem_cons_of_mem _ he)) h message
        exact ⟨outcome', bind_eq_ok.mpr ⟨some message, he', ho⟩, hok'⟩

theorem settlementEvidenceBlock_relaxed (hs : EvidenceRelaxes C flags) :
    Relaxes C flags (settlementEvidenceBlock (C.relax flags)) (settlementEvidenceBlock C) := by
  intro r s h
  dsimp only [settlementEvidenceBlock]
  rw [Context.relax_input]
  split
  · next checkpoint evidence rest _ hevidence =>
    apply Simulates.same
    intro hash _ t ht hv
    obtain ⟨outcome, ho, ht⟩ := bind_eq_ok.mp ht
    cases hok : outcome.ok with
    | false =>
      rw [hok] at ht
      cases ht
      have hq := hv.1
      simp [Report.settle] at hq
    | true =>
      rw [hok] at ht
      cases ht
      obtain ⟨fieldsHash, hfields, ho⟩ := bind_eq_ok.mp ho
      obtain ⟨⟨_, code⟩, ho', rfl⟩ := firstSettlement_relax
        (fun e he => hs e (by rw [hevidence]; exact he) checkpoint hash fieldsHash) ho hok
        "TSL_SETTLEMENT_EVIDENCE_INVALID"
      refine ⟨_, bind_eq_ok.mpr ⟨_, bind_eq_ok.mpr ⟨fieldsHash, hfields, ho'⟩, rfl⟩, ?_⟩
      exact (((h.check_true _).check_true _).settle _).explainIf
  · exact Simulates.pure fun _ => h

theorem settlementBackendBlock_relaxed :
    Relaxes C flags (settlementBackendBlock (C.relax flags)) (settlementBackendBlock C) := by
  intro r s h
  rw [show settlementBackendBlock (C.relax flags) = settlementBackendBlock C from rfl]
  dsimp only [settlementBackendBlock]
  rw [h.passes (by decide)]
  split
  · split
    · exact Simulates.pure fun _ => h
    · apply Simulates.same
      intro settlement _
      have hr := h.check (by decide : CheckName.checkpoint_settled ∉ openChecks)
        settlement.settled
      split
      · exact Simulates.pure fun _ => hr.explainIf.settle _
      · split
        · split
          · exact Simulates.pure fun _ => hr
          · exact Simulates.pure fun _ => (hr.push _).settle _
        · exact Simulates.pure fun _ => hr
  · exact Simulates.pure fun _ => h

theorem finalAssessmentBlock_relaxed :
    Relaxes C flags (finalAssessmentBlock (C.relax flags)) (finalAssessmentBlock C) := by
  intro r s h
  rw [show finalAssessmentBlock (C.relax flags) = finalAssessmentBlock C from rfl]
  dsimp only [finalAssessmentBlock, finalGateMatches]
  rw [h.same .checkpoint_matches_proof (by decide), h.same .checkpoint_settled (by decide),
    h.same .delegated_action_valid (by decide)]
  split
  · exact Simulates.pure fun _ => h
  · apply Simulates.same
    intro coverage _
    split
    · exact Simulates.pure fun _ => h
    · exact Simulates.pure fun _ => ((h.check (by decide) false).pushIf _ _).pushIf _ _

theorem verifierBlocks_relaxed (hf : Looser flags C.policy) (hz : ProofsRelax C flags)
    (hs : EvidenceRelaxes C flags) :
    List.Forall₂ (Relaxes C flags) (verifierBlocks (C.relax flags)) (verifierBlocks C) :=
  .cons (chainRevocationBlock_relaxed hf) <| .cons explainKeyBlock_relaxed <|
  .cons revocationsBlock_relaxed <| .cons (messageDisclosureBlock_relaxed hf) <|
  .cons proofBlock_relaxed <| .cons (receiptsBlock_relaxed hf) <|
  .cons (attestationsBlock_relaxed hf) <| .cons (attestationsV2Block_relaxed hf) <|
  .cons (privateFieldsBlock_relaxed hf) <| .cons (assessmentBlock_relaxed hf) <|
  .cons (scoringBlock_relaxed hf) <| .cons (metadataBlock_relaxed hf) <|
  .cons (graphBlock_relaxed hf) <| .cons (zkBlock_relaxed hf hz) <|
  .cons delegationsBlock_relaxed <| .cons agentActionsBlock_relaxed <|
  .cons (consistencyBlock_relaxed hf) <| .cons (nonMembershipBlock_relaxed hf) <|
  .cons (governancePolicyBlock_relaxed hf) <| .cons (auditBlock_relaxed hf) <|
  .cons (checkpointBlock_relaxed hf) <| .cons checkpointMatchBlock_relaxed <|
  .cons (settlementEvidenceBlock_relaxed hs) <| .cons settlementBackendBlock_relaxed <|
  .cons finalAssessmentBlock_relaxed .nil

theorem verifierBlocks_reflect : ∀ block ∈ verifierBlocks C, Reflects Viable block := by
  simp only [verifierBlocks, List.forall_mem_cons, List.not_mem_nil, false_imp_iff, implies_true,
    and_true]
  exact ⟨(chainRevocationBlock_owns C).reflects (by decide),
    explainKeyBlock_owns.reflects (by decide), (revocationsBlock_owns C).reflects (by decide),
    (messageDisclosureBlock_owns C).reflects (by decide), (proofBlock_owns C).reflects (by decide),
    (receiptsBlock_owns C).reflects (by decide), (attestationsBlock_owns C).reflects (by decide),
    (attestationsV2Block_owns C).reflects (by decide),
    (privateFieldsBlock_owns C).reflects (by decide),
    (assessmentBlock_owns C).reflects (by decide), (scoringBlock_owns C).reflects (by decide),
    (metadataBlock_owns C).reflects (by decide), graphBlock_reflects,
    (zkBlock_owns C).reflects (by decide), (delegationsBlock_owns C).reflects (by decide),
    (agentActionsBlock_owns C).reflects (by decide),
    (consistencyBlock_owns C).reflects (by decide),
    (nonMembershipBlock_owns C).reflects (by decide),
    (governancePolicyBlock_owns C).reflects (by decide), (auditBlock_owns C).reflects (by decide),
    (checkpointBlock_owns C).reflects (by decide),
    (checkpointMatchBlock_owns C).reflects (by decide),
    (settlementEvidenceBlock_owns C).reflects (by decide),
    (settlementBackendBlock_owns C).reflects (by decide),
    (finalAssessmentBlock_owns C).reflects (by decide)⟩

end Blocks

end Continuity
