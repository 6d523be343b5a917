import Continuity.PolicyOrder
import Continuity.VerifierSigners

namespace Continuity
open Frames
set_option autoImplicit true

/-- A block under looser flags follows the block itself. -/
abbrev Relaxes (C : Context) (flags : PolicyFlag → Option Bool)
    (looser block : Report → Js Report) : Prop :=
  ∀ r s, Relaxed C flags r s → Simulates Viable (Relaxed C flags) (looser r) (block s)

/-- What holds of the results of one check holds of the results of another. -/
theorem mapM_related {f : α → Js β} {g : α → Js γ} {P : β → γ → Prop} {xs : List α}
    (h : xs.mapM g = .ok ys)
    (hfg : ∀ x ∈ xs, ∀ y ∈ ys, g x = .ok y → ∃ z, f x = .ok z ∧ P z y) :
    ∃ zs, xs.mapM f = .ok zs ∧ List.Forall₂ P zs ys := by
  have hpairs := mapM_eq_ok h
  clear h
  induction hpairs with
  | nil => exact ⟨[], rfl, .nil⟩
  | @cons x y xs ys hy hrest ih =>
    obtain ⟨z, hz, hP⟩ := hfg x List.mem_cons_self y List.mem_cons_self hy
    obtain ⟨zs, hzs, hPs⟩ := ih fun x' hx y' hy' =>
      hfg x' (List.mem_cons_of_mem x hx) y' (List.mem_cons_of_mem y hy')
    refine ⟨z :: zs, ?_, .cons hP hPs⟩
    rw [List.mapM_cons, hz, hzs]
    rfl

theorem mapM_agrees {f g : α → Js β} {xs : List α} (h : xs.mapM g = .ok ys)
    (hfg : ∀ x ∈ xs, ∀ y ∈ ys, g x = .ok y → f x = .ok y) : xs.mapM f = .ok ys := by
  obtain ⟨zs, hzs, hP⟩ := mapM_related (P := Eq) h fun x hx y hy he => ⟨y, hfg x hx y hy he, rfl⟩
  rw [List.forall₂_eq_eq_eq] at hP
  rw [hzs, hP]

theorem Report.pushIf_quiet {r : Report} (h : (r.pushIf condition es).errors = [])
    (hne : es ≠ []) : condition = false := by
  cases condition with
  | false => rfl
  | true => exact absurd (List.append_eq_nil_iff.mp h).2 hne

theorem Report.pushIf_before {r : Report} (h : (r.pushIf condition es).errors = []) :
    r.errors = [] := by
  cases condition with
  | false => exact h
  | true => exact (List.append_eq_nil_iff.mp h).1

theorem and_imp_left (h : a = true → b = true) (hc : (a && c) = true) : (b && c) = true := by
  obtain ⟨ha, hc⟩ := Bool.and_eq_true _ _ |>.mp hc
  exact Bool.and_eq_true _ _ |>.mpr ⟨h ha, hc⟩

section Blocks

variable {C : Context} {flags : PolicyFlag → Option Bool}

theorem Looser.off (hf : Looser flags p) (h : isOn (p.flag flag) = false) :
    isOn (flags flag) = false := by
  cases hl : isOn (flags flag) with
  | false => rfl
  | true => rw [hf.on flag hl] at h; cases h

theorem keyBlock_relaxed (identity : IdentityDocumentV1) (event_hash : Hex32) :
    Relaxes C flags (keyBlock (C.relax flags) identity event_hash)
      (keyBlock C identity event_hash) := by
  intro r s h
  apply Simulates.same
  intro signed _
  apply Simulates.pure
  intro _
  exact (((h.check (by decide) _).check (by decide) _).check (by decide) _).check (by decide) _

theorem chainRevocationBlock_relaxed (hf : Looser flags C.policy) :
    Relaxes C flags (chainRevocationBlock (C.relax flags)) (chainRevocationBlock C) := by
  intro r s h
  have hreq : requiredBy (C.relax flags).policy C.input .chain_revocation_checked =
      isOn (flags .require_chain_revocation) := rfl
  dsimp only [chainRevocationBlock, Context.relax, VerifierPolicy.withFlags]
  by_cases hl : isOn (flags .require_chain_revocation) = true
  · have hs : isOn C.policy.require_chain_revocation = true := hf.on _ hl
    rw [if_pos hl, if_pos hs]
    split
    · apply Simulates.same
      intro revoked _
      apply Simulates.pure
      intro _
      cases revoked with
      | false => exact h.check_true _
      | true => exact ((h.check_true _).check (by decide) false).push _
    · exact Simulates.pure fun _ => (h.check (by decide) false).push _
  · rw [if_neg hl]
    split
    · split
      · intro t ht hv
        obtain ⟨revoked, -, ht⟩ := bind_eq_ok.mp ht
        cases ht
        cases revoked with
        | false => exact ⟨r, rfl, h.check_strict (by decide) (by simpa [hreq] using hl) true⟩
        | true => simp [Viable] at hv
      · intro t ht hv
        cases ht
        simp [Viable] at hv
    · exact Simulates.pure fun _ => h

theorem explainKeyBlock_relaxed :
    Relaxes C flags (fun r => return explainKeyBlock r) fun r => return explainKeyBlock r := by
  intro r s h
  exact Simulates.pure fun _ => h.explainIf.explainIf.explainIf

theorem revocationsBlock_relaxed :
    Relaxes C flags (revocationsBlock (C.relax flags)) (revocationsBlock C) := by
  intro r s h
  rw [show revocationsBlock (C.relax flags) = revocationsBlock C from rfl]
  dsimp only [revocationsBlock]
  split
  · apply Simulates.same
    intro results _
    apply Simulates.pure
    intro _
    have hn : CheckName.revocation_state_valid ∉ openChecks := by decide
    have hr := h.record_same hn (results.map RevocationResult.toItemResult)
    split
    · exact (hr.check (by decide) false).explainIf
    · exact hr.explainIf
  · exact Simulates.pure fun _ => h

theorem consentRequired_relax (hf : Looser flags C.policy)
    (h : (C.relax flags).consentRequired = true) : C.consentRequired = true :=
  bne_iff_ne.mpr (hf.consent (bne_iff_ne.mp h))

theorem disclosureAllowed_relax (hf : Looser flags C.policy)
    (h : disclosureAllowed C fieldClasses = .ok true) :
    disclosureAllowed (C.relax flags) fieldClasses = .ok true := by
  unfold disclosureAllowed at h ⊢
  split
  · next hl =>
    rw [if_pos (consentRequired_relax hf hl)] at h
    exact h
  · rfl

theorem messageDisclosureBlock_relaxed (hf : Looser flags C.policy) :
    Relaxes C flags (messageDisclosureBlock (C.relax flags)) (messageDisclosureBlock C) := by
  intro r s h
  dsimp only [messageDisclosureBlock, Context.relax_input]
  split
  · exact Simulates.pure fun _ => h
  · next disclosure _ =>
    split
    · intro t ht hv
      obtain ⟨consent, hc, ht⟩ := bind_eq_ok.mp ht
      obtain ⟨content, hm, ht⟩ := bind_eq_ok.mp ht
      cases ht
      have hconsent : consent = true := by
        have hq := hv.1
        rw [Report.explainIf_errors] at hq
        cases content with
        | none => simpa using Report.pushIf_quiet hq (by simp)
        | some value => simpa using Report.pushIf_quiet hq (by simp)
      subst hconsent
      refine ⟨_, bind_eq_ok.mpr ⟨true, disclosureAllowed_relax hf hc,
        bind_eq_ok.mpr ⟨content, hm, rfl⟩⟩, ?_⟩
      have hd := (h.check_true .disclosure_consent_valid).pushIf (!true)
        ["TSL_DISCLOSURE_CONSENT_REQUIRED"]
      cases content with
      | none => exact hd.uncheck.explainIf
      | some value => exact (hd.check (by decide) value).explainIf
    · exact Simulates.pure fun _ => h

theorem recordInclusion_relaxed (proof : InclusionProofV1) :
    Relaxes C flags (recordInclusion (C.relax flags) proof) (recordInclusion C proof) := by
  intro r s h
  rw [show recordInclusion (C.relax flags) proof = recordInclusion C proof from rfl]
  dsimp only [recordInclusion]
  apply Simulates.same
  intro included _
  have hn : CheckName.included_in_log ∉ openChecks := by decide
  have hr := h.check hn included
  split
  · exact Simulates.pure fun _ => hr.explainIf
  · apply Simulates.same
    intro valid _
    apply Simulates.pure
    intro _
    have hk : inclusionName proof.tree_kind ∉ openChecks := by
      cases proof.tree_kind <;> decide
    exact hr.explainIf.check hk valid

theorem proofBlock_relaxed : Relaxes C flags (proofBlock (C.relax flags)) (proofBlock C) := by
  intro r s h
  dsimp only [proofBlock, Context.relax_input]
  split
  · exact Simulates.pure fun _ => h
  · rw [show (C.relax flags).validate = C.validate from rfl]
    split
    · exact recordInclusion_relaxed _ r s h
    · exact Simulates.pure fun _ => h.push _

/-- Consent that a run gets is there, or not asked for, under looser flags. -/
theorem consentBlock_relaxed (h : Relaxed C flags r s) (hreq : required = true → required' = true)
    (hs : consentBlock C required' fieldClasses s = .ok (t, consent)) (hq : t.errors = []) :
    consent = true ∧ ∃ r', consentBlock (C.relax flags) required fieldClasses r = .ok (r', true) ∧
      Relaxed C flags r' t := by
  unfold consentBlock at hs
  split at hs
  · obtain ⟨allowed, ha, hs⟩ := bind_eq_ok.mp hs
    cases hs
    have hconsent : consent = true := by simpa using Report.pushIf_quiet hq (by simp)
    subst hconsent
    refine ⟨rfl, ?_⟩
    unfold consentBlock
    split
    · refine ⟨_, bind_eq_ok.mpr ⟨true, ha, rfl⟩, ?_⟩
      exact (h.keep_true (by decide) rfl true).pushIf _ _
    · exact ⟨r, rfl, (h.check_strict (by decide) rfl _).pushIf false []⟩
  · next hoff =>
    cases hs
    refine ⟨rfl, r, ?_, h⟩
    rw [consentBlock, if_neg fun hon => hoff (hreq hon)]
    rfl

theorem receiptInclusionRequired_relax (hf : Looser flags C.policy)
    (h : receiptInclusionRequired (C.relax flags) = true) : receiptInclusionRequired C = true := by
  rcases Bool.or_eq_true _ _ |>.mp h with hon | hc
  · have hs : isOn C.policy.require_receipt_inclusion_for_disclosed_receipts = true :=
      hf.on .require_receipt_inclusion_for_disclosed_receipts hon
    exact Bool.or_eq_true _ _ |>.mpr (.inl hs)
  · exact Bool.or_eq_true _ _ |>.mpr (.inr (consentRequired_relax hf hc))

/-- A receipt without errors has none under looser flags; it is the same result where the looser
policy asks for its inclusion. -/
theorem checkReceipt_relax (hf : Looser flags C.policy)
    (h : checkReceipt C receipt = .ok item) (hq : item.errors = []) :
    ∃ item', checkReceipt (C.relax flags) receipt = .ok item' ∧
      item'.toItemResult = item.toItemResult ∧
      (isOn (flags .require_receipt_inclusion_for_disclosed_receipts) = true → item' = item) := by
  unfold checkReceipt at h ⊢
  rw [show (C.relax flags).validate = C.validate from rfl,
    show receiptSigned (C.relax flags) = receiptSigned C from rfl,
    show receiptProofValid (C.relax flags) = receiptProofValid C from rfl]
  dsimp only at h ⊢
  split at h
  · cases h
    cases hq
  · next hvalid =>
    rw [if_neg hvalid]
    obtain ⟨signed, hs, h⟩ := bind_eq_ok.mp h
    split at h
    · obtain ⟨included, hi, h⟩ := bind_eq_ok.mp h
      cases h
      obtain ⟨hsigned, hincluded⟩ := List.append_eq_nil_iff.mp hq
      cases signed with
      | false => cases hsigned
      | true =>
        cases included with
        | false => cases hincluded
        | true =>
          by_cases hl : receiptInclusionRequired (C.relax flags) = true
          · refine ⟨_, bind_eq_ok.mpr ⟨true, hs, ?_⟩, rfl, fun _ => rfl⟩
            rw [if_pos hl]
            exact bind_eq_ok.mpr ⟨true, hi, rfl⟩
          · refine ⟨⟨⟨true, []⟩, none⟩, bind_eq_ok.mpr ⟨true, hs, ?_⟩, rfl, ?_⟩
            · rw [if_neg hl]
              rfl
            · intro hon
              refine absurd ?_ hl
              exact Bool.or_eq_true _ _ |>.mpr (.inl hon)
    · next hoff =>
      cases h
      refine ⟨_, bind_eq_ok.mpr ⟨signed, hs, ?_⟩, rfl, fun _ => rfl⟩
      rw [if_neg fun hl => hoff (receiptInclusionRequired_relax hf hl)]
      rfl

theorem map_toItemResult (h : List.Forall₂ (fun (x y : ReceiptResult) =>
    x.toItemResult = y.toItemResult ∧ (on = true → x = y)) xs ys) :
    xs.map ReceiptResult.toItemResult = ys.map ReceiptResult.toItemResult ∧
      (on = true → xs = ys) := by
  induction h with
  | nil => exact ⟨rfl, fun _ => rfl⟩
  | cons hxy _ ih =>
    obtain ⟨hitem, hon⟩ := hxy
    obtain ⟨hmap, hlist⟩ := ih
    refine ⟨?_, ?_⟩
    · rw [List.map_cons, List.map_cons, hitem, hmap]
    · intro ho
      rw [hon ho, hlist ho]

theorem receiptsBlock_relaxed (hf : Looser flags C.policy) :
    Relaxes C flags (receiptsBlock (C.relax flags)) (receiptsBlock C) := by
  intro r s h
  dsimp only [receiptsBlock, Context.relax_input]
  split
  · next receipt rest hreceipts =>
    intro t ht hv
    obtain ⟨⟨s', consent⟩, hc, ht⟩ := bind_eq_ok.mp ht
    obtain ⟨results, hm, ht⟩ := bind_eq_ok.mp ht
    cases ht
    have hq := hv.1
    rw [Report.explainIf_errors, Report.keepAll_errors] at hq
    obtain ⟨hs', hitems⟩ := List.append_eq_nil_iff.mp hq
    obtain ⟨hconsent, r', hr', hrel⟩ :=
      consentBlock_relaxed h (consentRequired_relax hf) hc hs'
    subst hconsent
    obtain ⟨results', hm', hpairs⟩ := mapM_related hm fun x _ y hy hx =>
      checkReceipt_relax hf hx (List.flatMap_eq_nil_iff.mp hitems _
        (List.mem_cons_of_mem _ (List.mem_map_of_mem hy)))
    obtain ⟨hmap, hsame⟩ := map_toItemResult hpairs
    refine ⟨_, bind_eq_ok.mpr ⟨_, hr', bind_eq_ok.mpr ⟨results', hm', rfl⟩⟩, ?_⟩
    dsimp only
    rw [hmap]
    have hrec := hrel.record_same (by decide : CheckName.receipt_valid ∉ openChecks)
      (⟨true, []⟩ :: results.map ReceiptResult.toItemResult)
    have hreq : requiredBy (C.relax flags).policy C.input .receipt_included =
        isOn (flags .require_receipt_inclusion_for_disclosed_receipts) := by
      simp only [requiredBy, hreceipts, nonEmptyList, Bool.and_true]
      rfl
    apply Relaxed.explainIf
    cases hon : isOn (flags .require_receipt_inclusion_for_disclosed_receipts) with
    | true =>
      rw [hsame hon]
      exact hrec.keepAll (by decide) (hrec.kept _ (hreq.trans hon)) _
    | false => exact hrec.keepAll_apart (by decide) (hreq.trans hon) (by decide) _ _
  · exact Simulates.pure fun _ => h

theorem attestationsBlock_relaxed (hf : Looser flags C.policy) :
    Relaxes C flags (attestationsBlock (C.relax flags)) (attestationsBlock C) := by
  intro r s h
  dsimp only [attestationsBlock, Context.relax_input]
  split
  · next attestation rest _ =>
    intro t ht hv
    obtain ⟨⟨s', consent⟩, hc, ht⟩ := bind_eq_ok.mp ht
    obtain ⟨results, hm, ht⟩ := bind_eq_ok.mp ht
    cases ht
    have hq := hv.1
    rw [Report.explainIf_errors] at hq
    obtain ⟨hs', -⟩ := List.append_eq_nil_iff.mp hq
    obtain ⟨hconsent, r', hr', hrel⟩ := consentBlock_relaxed h
      (and_imp_left (consentRequired_relax hf)) hc hs'
    subst hconsent
    refine ⟨_, bind_eq_ok.mpr ⟨_, hr', bind_eq_ok.mpr ⟨results, hm, rfl⟩⟩, ?_⟩
    exact (hrel.record_same (by decide) _).explainIf
  · exact Simulates.pure fun _ => h

theorem attestationsV2Block_relaxed (hf : Looser flags C.policy) :
    Relaxes C flags (attestationsV2Block (C.relax flags)) (attestationsV2Block C) := by
  intro r s h
  dsimp only [attestationsV2Block, Context.relax_input]
  split
  · next attestation rest _ =>
    intro t ht hv
    obtain ⟨⟨s', consent⟩, hc, ht⟩ := bind_eq_ok.mp ht
    obtain ⟨results, hm, ht⟩ := bind_eq_ok.mp ht
    cases ht
    have hq := hv.1
    rw [Report.explainIf_errors] at hq
    obtain ⟨hs', -⟩ := List.append_eq_nil_iff.mp hq
    obtain ⟨hconsent, r', hr', hrel⟩ := consentBlock_relaxed h
      (and_imp_left (consentRequired_relax hf)) hc hs'
    subst hconsent
    refine ⟨_, bind_eq_ok.mpr ⟨_, hr', bind_eq_ok.mpr ⟨results, hm, rfl⟩⟩, ?_⟩
    dsimp only
    rw [h.notFailed (by decide)]
    exact (hrel.record_same (by decide) _).explainIf
  · exact Simulates.pure fun _ => h

theorem privateFieldsBlock_relaxed (hf : Looser flags C.policy) :
    Relaxes C flags (privateFieldsBlock (C.relax flags)) (privateFieldsBlock C) := by
  intro r s h t ht hv
  obtain ⟨⟨t', consent⟩, hc, rfl⟩ := map_eq_ok.mp ht
  obtain ⟨-, r', hr', hrel⟩ := consentBlock_relaxed h
    (and_imp_left (consentRequired_relax hf)) hc hv.1
  exact ⟨r', map_eq_ok.mpr ⟨_, hr', rfl⟩, hrel⟩

/-- The registry is asked in the looser run only if it is asked in the run itself, and answers the
same. -/
theorem providerRegistryBlock_relaxed (hf : Looser flags C.policy) (h : Relaxed C flags r s)
    (hs : providerRegistryBlock C assessment s = .ok t) :
    ∃ r', providerRegistryBlock (C.relax flags) assessment r = .ok r' ∧ Relaxed C flags r' t ∧
      (isOn (flags .require_provider_registry) = true →
        r'.checks .provider_active = t.checks .provider_active ∧
          r'.checks .model_registered = t.checks .model_registered) := by
  unfold providerRegistryBlock at hs ⊢
  dsimp only [Context.relax_backend]
  by_cases hl : isOn (flags .require_provider_registry) = true
  · have hon : isOn C.policy.require_provider_registry = true := hf.on _ hl
    rw [if_pos hon] at hs
    rw [show (C.relax flags).policy.require_provider_registry =
      flags .require_provider_registry from rfl, if_pos hl]
    split at hs
    · obtain ⟨active, ha, hs⟩ := bind_eq_ok.mp hs
      obtain ⟨registered, hr, hs⟩ := bind_eq_ok.mp hs
      cases hs
      refine ⟨_, bind_eq_ok.mpr ⟨active, ha, bind_eq_ok.mpr ⟨registered, hr, rfl⟩⟩, ?_, ?_⟩
      · exact (h.check (by decide) active).check (by decide) registered
      · intro _
        exact ⟨rfl, rfl⟩
    · cases hs
      refine ⟨_, rfl, ?_, ?_⟩
      · exact ((h.check (by decide) false).check (by decide) false).push _
      · intro _
        exact ⟨rfl, rfl⟩
  · rw [show (C.relax flags).policy.require_provider_registry =
      flags .require_provider_registry from rfl, if_neg hl]
    refine ⟨r, rfl, ?_, fun hon => absurd hon hl⟩
    split at hs
    · split at hs
      · obtain ⟨active, ha, hs⟩ := bind_eq_ok.mp hs
        obtain ⟨registered, hr, hs⟩ := bind_eq_ok.mp hs
        cases hs
        exact (h.check_strict (by decide) rfl active).check_strict (by decide) rfl registered
      · cases hs
        have hc := (h.check_strict (by decide : CheckName.provider_active ∈ flaggedChecks) rfl
          false).check_strict (by decide : CheckName.model_registered ∈ flaggedChecks) rfl false
        refine ⟨?_, hc.same, hc.kept, hc.clear⟩
        intro hq
        simp at hq
    · cases hs
      exact h

theorem assessmentSigned_relax {issuerKey : Option VerificationMethodV1}
    (hf : Looser flags C.policy)
    (hr : isOn (flags .require_provider_registry) = true →
      r.checks .provider_active = s.checks .provider_active ∧
        r.checks .model_registered = s.checks .model_registered)
    (h : assessmentSigned C assessment issuerKey valid s = .ok true) :
    assessmentSigned (C.relax flags) assessment issuerKey valid r = .ok true := by
  unfold assessmentSigned at h ⊢
  obtain ⟨hguard, hsigned⟩ := guarded_true.mp h
  refine guarded_true.mpr ⟨?_, hsigned⟩
  obtain ⟨hrest, hregistry⟩ := Bool.and_eq_true _ _ |>.mp hguard
  refine Bool.and_eq_true _ _ |>.mpr ⟨hrest, ?_⟩
  rw [show (C.relax flags).policy.require_provider_registry =
    flags .require_provider_registry from rfl]
  cases hl : isOn (flags .require_provider_registry) with
  | false => rfl
  | true =>
    have hon : isOn C.policy.require_provider_registry = true := hf.on _ hl
    obtain ⟨ha, hm⟩ := hr hl
    rw [hon] at hregistry
    rw [Report.passes, Report.passes, ha, hm]
    exact hregistry

theorem assessmentBlock_relaxed (hf : Looser flags C.policy) :
    Relaxes C flags (assessmentBlock (C.relax flags)) (assessmentBlock C) := by
  intro r s h
  dsimp only [assessmentBlock, Context.relax_input]
  split
  · exact Simulates.pure fun _ => h
  · next assessment _ =>
    rw [show (C.relax flags).validate = C.validate from rfl,
      show (C.relax flags).resolveIf = C.resolveIf from rfl, Context.relax_host]
    apply Simulates.same
    intro identity _ t ht hv
    obtain ⟨s', hs', ht⟩ := bind_eq_ok.mp ht
    obtain ⟨valid, hvalid, ht⟩ := bind_eq_ok.mp ht
    obtain ⟨r', hr', hrel, hregistry⟩ := providerRegistryBlock_relaxed hf h hs'
    cases valid with
    | false =>
      cases ht
      have hq := hv.1
      simp [assessmentErrors] at hq
    | true =>
      cases ht
      refine ⟨_, bind_eq_ok.mpr ⟨r', hr', bind_eq_ok.mpr
        ⟨true, assessmentSigned_relax hf hregistry hvalid, rfl⟩⟩, ?_⟩
      exact ((hrel.check_true _).explainIf).rate _

theorem scoringProfileBlock_relaxed (hf : Looser flags C.policy) :
    Relaxes C flags (scoringProfileBlock (C.relax flags)) (scoringProfileBlock C) := by
  intro r s h
  dsimp only [scoringProfileBlock, Context.relax_input]
  split
  · next profile _ =>
    apply Simulates.same
    intro identity _
    apply Simulates.same
    intro valid _
    exact Simulates.pure fun _ => (h.check (by decide) valid).pushIf _ _
  · by_cases hs : isOn C.policy.require_v2_assessment = true
    · intro t ht hv
      rw [if_pos hs] at ht
      cases ht
      have hq := hv.1
      simp at hq
    · have hl : ¬ isOn (C.relax flags).policy.require_v2_assessment = true :=
        fun hon => hs (hf.on .require_v2_assessment hon)
      rw [if_neg hs, if_neg hl]
      exact Simulates.pure fun _ => h

theorem domainPolicyBlock_relaxed (h : Relaxed C flags r s) :
    Relaxed C flags (domainPolicyBlock (C.relax flags) r) (domainPolicyBlock C s) := by
  rw [show domainPolicyBlock (C.relax flags) r = domainPolicyBlock C r from rfl]
  dsimp only [domainPolicyBlock]
  split
  · exact (h.check (by decide) _).pushIf _ _
  · split
    · exact (h.check (by decide) _).push _
    · exact h

theorem evidenceCoverageBlock_relaxed (h : Relaxed C flags r s) :
    Relaxed C flags (evidenceCoverageBlock (C.relax flags) r) (evidenceCoverageBlock C s) := by
  rw [show evidenceCoverageBlock (C.relax flags) r = evidenceCoverageBlock C r from rfl]
  dsimp only [evidenceCoverageBlock]
  split
  · exact (h.check (by decide) _).pushIf _ _
  · exact h

/-- A check that adds an error when it fails, in both runs. -/
theorem Relaxed.open_check (h : Relaxed C flags r s) (hne : es ≠ [])
    (hq : ((s.check name valid).pushIf (!valid) es).errors = []) :
    Relaxed C flags ((r.check name valid).pushIf (!valid) es)
      ((s.check name valid).pushIf (!valid) es) := by
  have hvalid : valid = true := by simpa using Report.pushIf_quiet hq hne
  subst hvalid
  exact (h.check_true name).pushIf _ _

/-- A check that adds an error when it fails, in the stricter run only. -/
theorem Relaxed.open_strict (h : Relaxed C flags r s) (hn : name ∈ flaggedChecks)
    (hr : requiredBy (C.relax flags).policy C.input name = false) (hne : es ≠ [])
    (hq : ((s.check name valid).pushIf (!valid) es).errors = []) :
    Relaxed C flags r ((s.check name valid).pushIf (!valid) es) := by
  have hvalid : valid = true := by simpa using Report.pushIf_quiet hq hne
  subst hvalid
  exact (h.check_strict hn hr true).pushIf false []

theorem providerGovernanceBlock_relaxed (hf : Looser flags C.policy) :
    Relaxes C flags (providerGovernanceBlock (C.relax flags)) (providerGovernanceBlock C) := by
  intro r s h
  dsimp only [providerGovernanceBlock, Context.relax_input]
  rw [show (C.relax flags).policy.require_provider_governance_active =
    flags .require_provider_governance_active from rfl]
  by_cases hl : isOn (flags .require_provider_governance_active) = true
  · have hs : isOn C.policy.require_provider_governance_active = true := hf.on _ hl
    rw [if_pos hl, if_pos hs]
    split
    · intro t ht hv
      cases ht
      have hq := hv.1
      simp at hq
    · apply Simulates.same
      intro signed _
      exact Simulates.pure fun hv => h.open_check (by simp) hv.1
  · rw [if_neg hl]
    have hr : requiredBy (C.relax flags).policy C.input .provider_governance_valid = false :=
      Bool.eq_false_iff.mpr hl
    split
    · split
      · intro t ht hv
        cases ht
        have hq := hv.1
        simp at hq
      · intro t ht hv
        obtain ⟨signed, -, ht⟩ := bind_eq_ok.mp ht
        cases ht
        exact ⟨r, rfl, h.open_strict (by decide) hr (by simp) hv.1⟩
    · exact Simulates.pure fun _ => h

theorem gateMatches_relaxed (h : Relaxed C flags r s) (gate : GateResult) :
    gateMatches gate r = gateMatches gate s := by
  rw [gateMatches, gateMatches, h.same .schema_valid (by decide),
    h.same .signature_valid (by decide), h.same .key_active (by decide),
    h.same .not_revoked (by decide), h.same .included_in_log (by decide)]

theorem assessmentV2Block_relaxed (hf : Looser flags C.policy) :
    Relaxes C flags (assessmentV2Block (C.relax flags)) (assessmentV2Block C) := by
  intro r s h
  dsimp only [assessmentV2Block, Context.relax_input]
  split
  · next assessment _ =>
    rw [gateMatches_relaxed h]
    apply Simulates.same
    intro identity _
    apply Simulates.same
    intro valid _
    split
    · exact Simulates.pure fun _ => ((h.check (by decide) valid).explainIf).rate _
    · exact Simulates.pure fun _ => (h.check (by decide) valid).push _
  · by_cases hs : isOn C.policy.require_v2_assessment = true
    · intro t ht hv
      rw [if_pos hs] at ht
      cases ht
      have hq := hv.1
      simp at hq
    · have hl : ¬ isOn (C.relax flags).policy.require_v2_assessment = true :=
        fun hon => hs (hf.on .require_v2_assessment hon)
      rw [if_neg hs, if_neg hl]
      exact Simulates.pure fun _ => h

theorem scoringTail_reflects : Reflects Viable fun s =>
    providerGovernanceBlock C (evidenceCoverageBlock C (domainPolicyBlock C s)) >>=
      assessmentV2Block C := by
  intro s t ht hv
  obtain ⟨s', hs', ht⟩ := bind_eq_ok.mp ht
  have hassessment := (assessmentV2Block_owns C).reflects (by decide) s' t ht hv
  have hgovernance := (providerGovernanceBlock_owns C).reflects (by decide) _ s' hs' hassessment
  have hcoverage := (evidenceCoverageBlock_advances C (domainPolicyBlock C s)).viable (by decide)
    hgovernance
  exact (domainPolicyBlock_advances C s).viable (by decide) hcoverage

/-- The scoring artifacts are looked at in both runs, unless a required profile is missing. -/
theorem scoringBlock_relaxed (hf : Looser flags C.policy) :
    Relaxes C flags (scoringBlock (C.relax flags)) (scoringBlock C) := by
  intro r s h
  dsimp only [scoringBlock, Context.relax_input]
  rw [show (C.relax flags).policy.require_v2_assessment = flags .require_v2_assessment from rfl]
  by_cases hi : (C.input.scoring_profile.isSome || C.input.assessment_v2.isSome) = true
  · simp only [hi, Bool.true_or, if_true]
    apply (scoringProfileBlock_relaxed hf r s h).seq scoringTail_reflects
    intro r s h
    have hdata := evidenceCoverageBlock_relaxed (domainPolicyBlock_relaxed h)
    apply (providerGovernanceBlock_relaxed hf _ _ hdata).seq
      ((assessmentV2Block_owns C).reflects (by decide))
    exact assessmentV2Block_relaxed hf
  · simp only [hi, Bool.false_or]
    by_cases hs : isOn C.policy.require_v2_assessment = true
    · intro t ht hv
      rw [if_pos hs] at ht
      obtain ⟨s', hs', ht⟩ := bind_eq_ok.mp ht
      have hv' := scoringTail_reflects s' t ht hv
      obtain ⟨hprofile, -⟩ := Bool.or_eq_false_iff.mp (Bool.eq_false_iff.mpr hi)
      have hnone := Option.isNone_iff_eq_none.mp (Option.isSome_eq_false_iff.mp hprofile)
      rw [scoringProfileBlock, hnone] at hs'
      simp only [hs, if_true] at hs'
      cases hs'
      have hq := hv'.1
      simp at hq
    · have hl : ¬ isOn (flags .require_v2_assessment) = true := fun hon => hs (hf.on _ hon)
      rw [if_neg hs, if_neg hl]
      exact Simulates.pure fun _ => h

theorem metadataBlock_relaxed (hf : Looser flags C.policy) :
    Relaxes C flags (metadataBlock (C.relax flags)) (metadataBlock C) := by
  intro r s h
  dsimp only [metadataBlock, Context.relax_input]
  rw [show (C.relax flags).policy.require_metadata_fingerprint_policy =
    flags .require_metadata_fingerprint_policy from rfl]
  by_cases hi : nonEmptyList C.input.metadata_fingerprints = true
  · simp only [hi, Bool.true_or, if_true, Bool.not_true, Bool.and_false, Bool.false_eq_true,
      if_false]
    apply Simulates.same
    intro results _
    exact Simulates.pure fun _ => h.record_same (by decide) results
  · simp only [hi, Bool.false_or, Bool.not_false, Bool.and_true]
    by_cases hs : isOn C.policy.require_metadata_fingerprint_policy = true
    · intro t ht hv
      simp only [hs, if_true] at ht
      obtain ⟨results, -, ht⟩ := bind_eq_ok.mp ht
      cases ht
      have hq := hv.1
      simp at hq
    · have hl : ¬ isOn (flags .require_metadata_fingerprint_policy) = true :=
        fun hon => hs (hf.on _ hon)
      rw [if_neg hs, if_neg hl]
      exact Simulates.pure fun _ => h

end Blocks

end Continuity
