import Continuity.PolicyBlocks

namespace Continuity
open Frames
set_option autoImplicit true

/-- The graph artifacts have failed, and stay so. -/
def GraphFailed (s : Report) : Prop := s.checks .graph_artifacts_valid = some false

namespace GraphFailed

theorem check (h : GraphFailed s) (hn : name ≠ .graph_artifacts_valid) (value : Bool) :
    GraphFailed (s.check name value) :=
  (Report.check_other s value hn.symm).trans h

theorem graph (h : GraphFailed s) (value : Bool) : GraphFailed (s.graph value) := by
  have hp : s.passes .graph_artifacts_valid = false := by
    rw [Report.passes, h]
    rfl
  rw [GraphFailed, Report.graph, Report.check_same, hp]
  rfl

theorem fail (s : Report) : GraphFailed (s.check .graph_artifacts_valid false) :=
  Report.check_same s _ _

theorem push (h : GraphFailed s) (errors : List String) :
    GraphFailed (s.push errors) := h

theorem pushIf (h : GraphFailed s) (condition : Bool) (errors : List String) :
    GraphFailed (s.pushIf condition errors) := by
  rw [GraphFailed, Report.pushIf_checks]
  exact h

theorem requireGraph (h : GraphFailed s) (condition : Bool) (error : String) :
    GraphFailed (s.requireGraph condition error) := by
  cases condition with
  | false => exact (fail s).push [error]
  | true => exact h

end GraphFailed

/-- Once the graph artifacts have failed, a block leaves them so. -/
def Sticks (block : Report → Js Report) : Prop :=
  ∀ s t, block s = .ok t → GraphFailed s → GraphFailed t

theorem Sticks.reflects (h : Sticks block) (ho : Owns owned block) : Reflects Viable block := by
  intro s t ht hv
  exact ⟨(ho s t ht).quiet hv.1, fun hs => hv.2 (h s t ht hs)⟩

theorem Report.graph_true {s : Report} (h : s.checks .graph_artifacts_valid = some true) :
    s.graph true = s := by
  have hp : (s.passes .graph_artifacts_valid && true) = true := by
    rw [Bool.and_true, Report.passes, h]
    rfl
  rw [Report.graph, hp, Report.check, ← h, Function.update_eq_self]

theorem Report.graph_viable {s : Report}
    (h : (s.graph value).checks .graph_artifacts_valid ≠ some false) :
    s.checks .graph_artifacts_valid = some true ∧ value = true := by
  rw [Report.graph, Report.check_same] at h
  cases hp : s.passes .graph_artifacts_valid with
  | false => simp [hp] at h
  | true =>
    refine ⟨beq_iff_eq.mp hp, ?_⟩
    simpa [hp] using h

theorem Report.requireGraph_true (s : Report) (error : String) : s.requireGraph true error = s := rfl

theorem Report.requireGraph_quiet {s : Report} (h : (s.requireGraph condition error).errors = []) :
    condition = true := by
  cases condition with
  | false => simp [Report.requireGraph] at h
  | true => rfl

theorem Relaxed.graph (h : Relaxed C flags r s) (value : Bool) :
    Relaxed C flags (r.graph value) (s.graph value) := by
  rw [Report.graph, Report.graph, h.passes (by decide)]
  exact h.check (by decide) _

theorem Relaxed.requireGraph (h : Relaxed C flags r s) (condition : Bool) (error : String) :
    Relaxed C flags (r.requireGraph condition error) (s.requireGraph condition error) := by
  cases condition with
  | false => exact (h.check (by decide) false).push [error]
  | true => exact h

section Blocks

variable {C : Context} {flags : PolicyFlag → Option Bool}

theorem graphVectorBlock_sticks : Sticks (graphVectorBlock C) := by
  intro s t ht h
  unfold graphVectorBlock at ht
  split at ht
  · cases ht
    exact h
  · obtain ⟨identity, -, ht⟩ := bind_eq_ok.mp ht
    obtain ⟨signed, -, ht⟩ := bind_eq_ok.mp ht
    cases ht
    exact h.graph signed

theorem researchAlgorithmBlock_failed (h : GraphFailed s) :
    GraphFailed (researchAlgorithmBlock C s) := by
  unfold researchAlgorithmBlock
  split
  · exact ((h.check (by decide) _).pushIf _ _).graph _
  · exact h

theorem exactFormulasBlock_sticks : Sticks (exactFormulasBlock C) := by
  intro s t ht h
  unfold exactFormulasBlock at ht
  split at ht
  · cases ht
    exact h
  · split at ht
    · split at ht
      · cases ht
        exact (h.requireGraph _ _).requireGraph _ _
      · split at ht
        · obtain ⟨opened, -, ht⟩ := bind_eq_ok.mp ht
          cases ht
          exact (h.requireGraph _ _).requireGraph _ _
        · cases ht
          exact h.requireGraph _ _
    · cases ht
      exact h

theorem seedGovernanceBlock_sticks : Sticks (seedGovernanceBlock C) := by
  intro s t ht h
  unfold seedGovernanceBlock at ht
  split at ht
  · obtain ⟨trusted, -, ht⟩ := bind_eq_ok.mp ht
    obtain ⟨adversarial, -, ht⟩ := bind_eq_ok.mp ht
    obtain ⟨trustedValid, -, ht⟩ := bind_eq_ok.mp ht
    obtain ⟨adversarialValid, -, ht⟩ := bind_eq_ok.mp ht
    cases ht
    exact ((h.check (by decide) _).pushIf _ _).graph _
  · cases ht
    exact h

theorem sybilSignatureBlock_sticks : Sticks (sybilSignatureBlock C) := by
  intro s t ht h
  unfold sybilSignatureBlock at ht
  split at ht
  · cases ht
    exact h
  · obtain ⟨identity, -, ht⟩ := bind_eq_ok.mp ht
    obtain ⟨signed, -, ht⟩ := bind_eq_ok.mp ht
    cases ht
    split
    · exact (((GraphFailed.fail _).push _).check (by decide) _).graph _
    · exact (h.check (by decide) _).graph _

theorem driftSignatureBlock_sticks : Sticks (driftSignatureBlock C) := by
  intro s t ht h
  unfold driftSignatureBlock at ht
  split at ht
  · cases ht
    exact h
  · obtain ⟨identity, -, ht⟩ := bind_eq_ok.mp ht
    obtain ⟨signed, -, ht⟩ := bind_eq_ok.mp ht
    cases ht
    split
    · exact (((GraphFailed.fail _).push _).check (by decide) _).graph _
    · exact (h.check (by decide) _).graph _

theorem recomputeVectorBlock_failed (graph : C.tools.GraphV0) (h : GraphFailed s) :
    GraphFailed (recomputeVectorBlock C graph s) := by
  unfold recomputeVectorBlock
  split
  · split
    · exact h.requireGraph _ _
    · exact (h.graph _).pushIf _ _
  · exact h

theorem recomputeGraphBlock_sticks : Sticks (recomputeGraphBlock C) := by
  intro s t ht h
  unfold recomputeGraphBlock at ht
  split at ht
  · cases ht
    exact h
  · cases ht
    exact h.requireGraph _ _
  · next graph _ =>
    have hv := recomputeVectorBlock_failed graph h
    unfold recomputeSybilBlock at ht
    split at ht
    · obtain ⟨recomputed, -, ht⟩ := bind_eq_ok.mp ht
      cases ht
      exact ((hv.pushIf _ _).graph _).pushIf _ _
    · cases ht
      exact hv

theorem recomputeDriftBlock_sticks : Sticks (recomputeDriftBlock C) := by
  intro s t ht h
  unfold recomputeDriftBlock at ht
  split at ht
  · cases ht
    exact h
  · next drift _ =>
    dsimp only at ht
    have hmissing : GraphFailed (if isOn C.policy.require_core_drift_formula &&
        !nonEmptyList C.input.drift_feature_history then
        ((s.check .drift_report_valid false).check .graph_artifacts_valid false).push
          ["TSL_DRIFT_RECOMPUTATION_REQUIRED"]
      else s) := by
      split
      · exact (GraphFailed.fail _).push _
      · exact h
    split at ht
    · cases ht
      exact hmissing
    · obtain ⟨recomputed, -, ht⟩ := bind_eq_ok.mp ht
      cases ht
      exact (hmissing.graph _).pushIf _ _

theorem covarianceDriftBlock_failed (h : GraphFailed s) :
    GraphFailed (covarianceDriftBlock C s) := by
  unfold covarianceDriftBlock
  split
  · exact h
  · split
    · exact ((h.check (by decide) _).pushIf _ _).graph _
    · exact h

theorem graphArtifactsBlock_failed (h : GraphFailed s) :
    GraphFailed (graphArtifactsBlock C s) := by
  have hkeep : ∀ (u : Report) (value : Bool), GraphFailed u →
      GraphFailed (u.keep .graph_artifacts_valid value) := by
    intro u value hu
    have hn : u.notFailed .graph_artifacts_valid = false := by
      rw [Report.notFailed, hu]
      rfl
    rw [GraphFailed, Report.keep, Report.check_same, hn]
    rfl
  unfold graphArtifactsBlock
  dsimp only
  split
  · exact hkeep _ _ ((GraphFailed.fail _).push _)
  · exact hkeep _ _ h

/-- A check that decides on the graph artifacts too, in both runs. -/
theorem Relaxed.graph_check (h : Relaxed C flags r s)
    (hv : Viable (((s.check name valid).pushIf (!valid) es).graph valid)) :
    Relaxed C flags (((r.check name valid).pushIf (!valid) es).graph valid)
      (((s.check name valid).pushIf (!valid) es).graph valid) := by
  obtain ⟨-, hvalid⟩ := Report.graph_viable hv.2
  subst hvalid
  exact ((h.check_true name).pushIf _ _).graph true

/-- A check that decides on the graph artifacts too, in the stricter run only. -/
theorem Relaxed.graph_strict (h : Relaxed C flags r s) (hn : name ∈ flaggedChecks)
    (hr : requiredBy (C.relax flags).policy C.input name = false)
    (hv : Viable (((s.check name valid).pushIf (!valid) es).graph valid)) :
    Relaxed C flags r (((s.check name valid).pushIf (!valid) es).graph valid) := by
  obtain ⟨hgraph, hvalid⟩ := Report.graph_viable hv.2
  subst hvalid
  rw [Report.graph_true hgraph]
  exact (h.check_strict hn hr true).pushIf false []

theorem requireGraphArtifacts_relax (hf : Looser flags C.policy)
    (h : requireGraphArtifacts (C.relax flags) = true) : requireGraphArtifacts C = true := by
  rcases Bool.or_eq_true _ _ |>.mp h with hon | hon
  · have hs : isOn C.policy.require_graph_artifacts = true :=
      hf.on .require_graph_artifacts hon
    exact Bool.or_eq_true _ _ |>.mpr (.inl hs)
  · have hs : isOn C.policy.require_exact_graph_formulas = true :=
      hf.on .require_exact_graph_formulas hon
    exact Bool.or_eq_true _ _ |>.mpr (.inr hs)

theorem graphArtifactsBlock_relaxed (hf : Looser flags C.policy) (h : Relaxed C flags r s)
    (hv : Viable (graphArtifactsBlock C s)) :
    Relaxed C flags (graphArtifactsBlock (C.relax flags) r) (graphArtifactsBlock C s) := by
  have hq := hv.1
  unfold graphArtifactsBlock at hq ⊢
  dsimp only at hq ⊢
  rw [show graphValidations (C.relax flags) = graphValidations C from rfl]
  split at hq
  · simp [Report.keep] at hq
  · next hoff =>
    rw [if_neg hoff]
    split
    · next hon => exact absurd (and_imp_left (requireGraphArtifacts_relax hf) hon) hoff
    · exact h.keep (by decide) _

theorem graphVectorBlock_relaxed (hf : Looser flags C.policy) :
    Relaxes C flags (graphVectorBlock (C.relax flags)) (graphVectorBlock C) := by
  intro r s h
  dsimp only [graphVectorBlock, Context.relax_input]
  split
  · exact Simulates.pure fun _ => h
  · next vector _ =>
    apply Simulates.same
    intro identity _ t ht hv
    obtain ⟨signed, hs, ht⟩ := bind_eq_ok.mp ht
    cases ht
    obtain ⟨-, hsigned⟩ := Report.graph_viable hv.2
    subst hsigned
    obtain ⟨hguard, hsig⟩ := guarded_true.mp hs
    obtain ⟨hrest, halgorithm⟩ := Bool.and_eq_true _ _ |>.mp hguard
    refine ⟨r.graph true, bind_eq_ok.mpr ⟨true, guarded_true.mpr ⟨?_, hsig⟩, rfl⟩, h.graph true⟩
    rw [h.passes (by decide)]
    refine Bool.and_eq_true _ _ |>.mpr ⟨hrest, ?_⟩
    cases hl : isOn (flags .require_research_graph_algorithm) with
    | false =>
      rw [show (C.relax flags).policy.require_research_graph_algorithm =
        flags .require_research_graph_algorithm from rfl, hl]
      rfl
    | true =>
      have hon : isOn C.policy.require_research_graph_algorithm = true := hf.on _ hl
      rw [hon] at halgorithm
      exact Bool.or_eq_true _ _ |>.mpr (.inr halgorithm)

theorem researchAlgorithmBlock_relaxed (hf : Looser flags C.policy) (h : Relaxed C flags r s)
    (hv : Viable (researchAlgorithmBlock C s)) :
    Relaxed C flags (researchAlgorithmBlock (C.relax flags) r) (researchAlgorithmBlock C s) := by
  unfold researchAlgorithmBlock at hv ⊢
  rw [show (C.relax flags).policy.require_research_graph_algorithm =
    flags .require_research_graph_algorithm from rfl]
  by_cases hl : isOn (flags .require_research_graph_algorithm) = true
  · have hs : isOn C.policy.require_research_graph_algorithm = true := hf.on _ hl
    rw [if_pos hs] at hv
    rw [if_pos hl, if_pos hs]
    exact h.graph_check hv
  · rw [if_neg hl]
    split at hv
    · next hs =>
      rw [if_pos hs]
      exact h.graph_strict (by decide) (Bool.eq_false_iff.mpr hl) hv
    · next hs =>
      rw [if_neg hs]
      exact h

/-- The exact formulas change nothing in a report that stays without errors. -/
theorem exactFormulasBlock_quiet (h : exactFormulasBlock C s = .ok t) (hq : t.errors = []) :
    t = s := by
  unfold exactFormulasBlock at h
  split at h
  · cases h
    rfl
  · split at h
    · split at h
      · cases h
        cases Report.requireGraph_quiet hq
      · split at h
        · obtain ⟨opened, -, h⟩ := bind_eq_ok.mp h
          cases h
          have hopened := Report.requireGraph_quiet hq
          rw [hopened, Report.requireGraph_true] at hq ⊢
          rw [Report.requireGraph_quiet hq, Report.requireGraph_true]
        · cases h
          rw [Report.requireGraph_quiet hq, Report.requireGraph_true]
    · cases h
      rfl

theorem exactFormulasBlock_relaxed (hf : Looser flags C.policy) :
    Relaxes C flags (exactFormulasBlock (C.relax flags)) (exactFormulasBlock C) := by
  intro r s h
  by_cases hl : isOn (flags .require_exact_graph_formulas) = true
  · have hs : isOn C.policy.require_exact_graph_formulas = true := hf.on _ hl
    dsimp only [exactFormulasBlock, Context.relax_input]
    split
    · exact Simulates.pure fun _ => h
    · rw [show (C.relax flags).policy.require_exact_graph_formulas =
        flags .require_exact_graph_formulas from rfl, if_pos hs, if_pos hl]
      split
      · exact Simulates.pure fun _ => (h.requireGraph _ _).requireGraph _ _
      · split
        · apply Simulates.same
          intro opened _
          exact Simulates.pure fun _ => (h.requireGraph _ _).requireGraph _ _
        · exact Simulates.pure fun _ => h.requireGraph _ _
  · intro t ht hv
    rw [exactFormulasBlock_quiet ht hv.1]
    refine ⟨r, ?_, h⟩
    unfold exactFormulasBlock
    split
    · rfl
    · rw [show (C.relax flags).policy.require_exact_graph_formulas =
        flags .require_exact_graph_formulas from rfl, if_neg hl]
      rfl

theorem seedGovernanceBlock_relaxed (hf : Looser flags C.policy) :
    Relaxes C flags (seedGovernanceBlock (C.relax flags)) (seedGovernanceBlock C) := by
  intro r s h
  dsimp only [seedGovernanceBlock, Context.relax_input]
  rw [show (C.relax flags).policy.require_seed_governance_opening =
    flags .require_seed_governance_opening from rfl]
  by_cases hl : isOn (flags .require_seed_governance_opening) = true
  · have hs : isOn C.policy.require_seed_governance_opening = true := hf.on _ hl
    rw [if_pos hl, if_pos hs]
    apply Simulates.same
    intro trusted _
    apply Simulates.same
    intro adversarial _
    apply Simulates.same
    intro trustedValid _
    apply Simulates.same
    intro adversarialValid _
    exact Simulates.pure fun hv => h.graph_check hv
  · rw [if_neg hl]
    split
    · intro t ht hv
      obtain ⟨trusted, -, ht⟩ := bind_eq_ok.mp ht
      obtain ⟨adversarial, -, ht⟩ := bind_eq_ok.mp ht
      obtain ⟨trustedValid, -, ht⟩ := bind_eq_ok.mp ht
      obtain ⟨adversarialValid, -, ht⟩ := bind_eq_ok.mp ht
      cases ht
      exact ⟨r, rfl, h.graph_strict (by decide) (Bool.eq_false_iff.mpr hl) hv⟩
    · exact Simulates.pure fun _ => h

theorem sybilSignatureBlock_relaxed (hf : Looser flags C.policy) :
    Relaxes C flags (sybilSignatureBlock (C.relax flags)) (sybilSignatureBlock C) := by
  intro r s h
  dsimp only [sybilSignatureBlock, Context.relax_input]
  split
  · exact Simulates.pure fun _ => h
  · next sybil _ =>
    intro t ht hv
    split at ht
    · obtain ⟨identity, -, ht⟩ := bind_eq_ok.mp ht
      obtain ⟨signed, -, ht⟩ := bind_eq_ok.mp ht
      cases ht
      have hq := hv.1
      simp [Report.graph] at hq
    · next hoff =>
      obtain ⟨identity, hi, ht⟩ := bind_eq_ok.mp ht
      obtain ⟨signed, hs, ht⟩ := bind_eq_ok.mp ht
      cases ht
      have hoff' : ¬ (isOn (flags .require_sybil_provider_issuer) && !truthy sybil.issuer) = true :=
        fun hon => hoff (and_imp_left (hf.on .require_sybil_provider_issuer) hon)
      rw [show (C.relax flags).policy.require_sybil_provider_issuer =
        flags .require_sybil_provider_issuer from rfl, if_neg hoff', h.notFailed (by decide)]
      refine ⟨_, bind_eq_ok.mpr ⟨identity, hi, bind_eq_ok.mpr ⟨signed, hs, rfl⟩⟩, ?_⟩
      exact (h.check (by decide) signed).graph signed

theorem driftSignatureBlock_relaxed (hf : Looser flags C.policy) :
    Relaxes C flags (driftSignatureBlock (C.relax flags)) (driftSignatureBlock C) := by
  intro r s h
  dsimp only [driftSignatureBlock, Context.relax_input]
  split
  · exact Simulates.pure fun _ => h
  · next drift _ =>
    intro t ht hv
    split at ht
    · obtain ⟨identity, -, ht⟩ := bind_eq_ok.mp ht
      obtain ⟨signed, -, ht⟩ := bind_eq_ok.mp ht
      cases ht
      have hq := hv.1
      simp [Report.graph] at hq
    · next hoff =>
      obtain ⟨identity, hi, ht⟩ := bind_eq_ok.mp ht
      obtain ⟨signed, hs, ht⟩ := bind_eq_ok.mp ht
      cases ht
      have hoff' : ¬ (isOn (flags .require_core_drift_formula) &&
          (!truthy drift.issuer || drift.signature = js "0x00")) = true :=
        fun hon => hoff (and_imp_left (hf.on .require_core_drift_formula) hon)
      rw [show (C.relax flags).policy.require_core_drift_formula =
        flags .require_core_drift_formula from rfl, if_neg hoff']
      refine ⟨_, bind_eq_ok.mpr ⟨identity, hi, bind_eq_ok.mpr ⟨signed, hs, rfl⟩⟩, ?_⟩
      exact (h.check (by decide) signed).graph signed

theorem recomputeVectorBlock_relaxed (graph : C.tools.GraphV0) (h : Relaxed C flags r s) :
    Relaxed C flags (recomputeVectorBlock C graph r) (recomputeVectorBlock C graph s) := by
  unfold recomputeVectorBlock
  split
  · split
    · exact h.requireGraph _ _
    · exact (h.graph _).pushIf _ _
  · exact h

theorem recomputeSybilBlock_relaxed (hf : Looser flags C.policy) (graph : C.tools.GraphV0) :
    Relaxes C flags (recomputeSybilBlock (C.relax flags) graph)
      (recomputeSybilBlock C graph) := by
  intro r s h
  dsimp only [recomputeSybilBlock, Context.relax_input, Context.relax_host]
  split
  · next profile sybil _ _ =>
    apply Simulates.same
    intro recomputed _
    apply Simulates.pure
    intro hv
    rw [show (C.relax flags).policy.require_behavioral_sybil_tiers =
      flags .require_behavioral_sybil_tiers from rfl]
    have hbefore := Report.pushIf_before hv.1
    rw [Report.graph, Report.check_errors] at hbefore
    have hmissing : (isOn C.policy.require_behavioral_sybil_tiers &&
        !tierEvidencePresent sybil) = false :=
      Report.pushIf_quiet hbefore (by simp)
    have hmissing' : (isOn (flags .require_behavioral_sybil_tiers) &&
        !tierEvidencePresent sybil) = false := by
      apply Bool.eq_false_iff.mpr
      intro hon
      have hs := and_imp_left (hf.on .require_behavioral_sybil_tiers) hon
      exact Bool.eq_false_iff.mp hmissing hs
    rw [hmissing, hmissing']
    exact ((h.pushIf _ _).graph _).pushIf _ _
  · exact Simulates.pure fun _ => h

theorem recomputeGraphBlock_relaxed (hf : Looser flags C.policy) :
    Relaxes C flags (recomputeGraphBlock (C.relax flags)) (recomputeGraphBlock C) := by
  intro r s h
  dsimp only [recomputeGraphBlock]
  rw [show evidenceGraph (C.relax flags) = evidenceGraph C from rfl]
  split
  · exact Simulates.pure fun _ => h
  · exact Simulates.pure fun _ => h.requireGraph _ _
  · next graph _ =>
    have hvector := recomputeVectorBlock_relaxed (C := C) graph h
    exact recomputeSybilBlock_relaxed hf graph _ _ hvector

theorem recomputeDriftBlock_relaxed (hf : Looser flags C.policy) :
    Relaxes C flags (recomputeDriftBlock (C.relax flags)) (recomputeDriftBlock C) := by
  intro r s h
  unfold recomputeDriftBlock
  cases hd : C.input.drift_report with
  | none =>
    have hd' : (C.relax flags).input.drift_report = none := hd
    rw [hd']
    exact Simulates.pure fun _ => h
  | some drift =>
    have hd' : (C.relax flags).input.drift_report = some drift := hd
    rw [hd']
    dsimp only
    by_cases hs : (isOn C.policy.require_core_drift_formula &&
        !nonEmptyList C.input.drift_feature_history) = true
    · intro t ht hv
      have hq := hv.1
      rw [if_pos hs] at ht
      split at ht
      · cases ht
        simp at hq
      · obtain ⟨recomputed, -, ht⟩ := bind_eq_ok.mp ht
        cases ht
        have hbefore := Report.pushIf_before hq
        simp [Report.graph] at hbefore
    · have hl : ¬ (isOn (C.relax flags).policy.require_core_drift_formula &&
          !nonEmptyList (C.relax flags).input.drift_feature_history) = true :=
        fun hon => hs (and_imp_left (hf.on .require_core_drift_formula) hon)
      rw [if_neg hs, if_neg hl, Context.relax_input]
      split
      · exact Simulates.pure fun _ => h
      · apply Simulates.same
        intro recomputed _
        exact Simulates.pure fun _ => (h.graph _).pushIf _ _

theorem covarianceDriftBlock_relaxed (hf : Looser flags C.policy) (h : Relaxed C flags r s)
    (hv : Viable (covarianceDriftBlock C s)) :
    Relaxed C flags (covarianceDriftBlock (C.relax flags) r) (covarianceDriftBlock C s) := by
  unfold covarianceDriftBlock at hv ⊢
  simp only [Context.relax_input] at hv ⊢
  split
  · exact h
  · next drift hdrift =>
    rw [hdrift] at hv
    dsimp only at hv
    rw [show (C.relax flags).policy.require_full_covariance_drift =
      flags .require_full_covariance_drift from rfl]
    by_cases hl : isOn (flags .require_full_covariance_drift) = true
    · have hs : isOn C.policy.require_full_covariance_drift = true := hf.on _ hl
      rw [if_pos hs] at hv
      rw [if_pos hl, if_pos hs]
      exact h.graph_check hv
    · rw [if_neg hl]
      split at hv
      · next hs =>
        rw [if_pos hs]
        exact h.graph_strict (by decide) (Bool.eq_false_iff.mpr hl) hv
      · next hs =>
        rw [if_neg hs]
        exact h

theorem graphErrorsBlock_relaxed (hf : Looser flags C.policy) (h : Relaxed C flags r s)
    (hq : (graphErrorsBlock C s).errors = []) :
    Relaxed C flags (graphErrorsBlock (C.relax flags) r) (graphErrorsBlock C s) := by
  unfold graphErrorsBlock at hq ⊢
  have hs := Report.pushIf_quiet hq (by simp)
  have hl : (requireGraphArtifacts (C.relax flags) && !r.passes .graph_artifacts_valid) =
      false := by
    rw [h.passes (by decide)]
    apply Bool.eq_false_iff.mpr
    intro hon
    exact Bool.eq_false_iff.mp hs (and_imp_left (requireGraphArtifacts_relax hf) hon)
  rw [hs, hl]
  exact h.pushIf false []

theorem graphEnd_viable (hv : Viable (graphErrorsBlock C (covarianceDriftBlock C s))) :
    Viable (covarianceDriftBlock C s) ∧ Viable s := by
  have hc : Viable (covarianceDriftBlock C s) := by
    refine ⟨Report.pushIf_before hv.1, ?_⟩
    have h := hv.2
    rw [graphErrorsBlock, Report.pushIf_checks] at h
    exact h
  refine ⟨hc, (covarianceDriftBlock_advances C s).quiet hc.1, ?_⟩
  exact fun hs => hc.2 (covarianceDriftBlock_failed hs)

theorem graphArtifactsBlock_viable (hv : Viable (graphArtifactsBlock C s)) : Viable s :=
  ⟨(graphArtifactsBlock_advances C s).quiet hv.1,
    fun hs => hv.2 (graphArtifactsBlock_failed hs)⟩

theorem researchAlgorithmBlock_viable (hv : Viable (researchAlgorithmBlock C s)) : Viable s :=
  ⟨(researchAlgorithmBlock_advances C s).quiet hv.1,
    fun hs => hv.2 (researchAlgorithmBlock_failed hs)⟩

/-- The parts of the graph block that follow the signature of the feature vector. -/
theorem graphBlock_parts : graphBlock C s = if graphScoped C then
    graphVectorBlock C (graphArtifactsBlock C s) >>= fun s =>
      exactFormulasBlock C (researchAlgorithmBlock C s) >>= pipeline [seedGovernanceBlock C,
        sybilSignatureBlock C, driftSignatureBlock C, recomputeGraphBlock C,
        recomputeDriftBlock C, fun s => return graphErrorsBlock C (covarianceDriftBlock C s)]
    else return s := by
  unfold graphBlock pipeline
  simp only [List.foldlM_cons, List.foldlM_nil, bind_pure]

theorem graphTail_reflects : ∀ block ∈ [seedGovernanceBlock C, sybilSignatureBlock C,
    driftSignatureBlock C, recomputeGraphBlock C, recomputeDriftBlock C,
    fun s => return graphErrorsBlock C (covarianceDriftBlock C s)], Reflects Viable block := by
  have hend : Reflects Viable fun s =>
      (pure (graphErrorsBlock C (covarianceDriftBlock C s)) : Js Report) := by
    intro s t ht hv
    cases ht
    exact (graphEnd_viable hv).2
  simp only [List.forall_mem_cons, List.not_mem_nil, false_imp_iff, implies_true, and_true]
  exact ⟨seedGovernanceBlock_sticks.reflects (seedGovernanceBlock_owns C),
    sybilSignatureBlock_sticks.reflects (sybilSignatureBlock_owns C),
    driftSignatureBlock_sticks.reflects (driftSignatureBlock_owns C),
    recomputeGraphBlock_sticks.reflects (recomputeGraphBlock_owns C),
    recomputeDriftBlock_sticks.reflects (recomputeDriftBlock_owns C), hend⟩

theorem graphScoped_relax (hf : Looser flags C.policy) (h : graphScoped (C.relax flags) = true) :
    graphScoped C = true := by
  rcases Bool.or_eq_true _ _ |>.mp h with hinput | hon
  · exact Bool.or_eq_true _ _ |>.mpr (.inl hinput)
  · have hs : isOn C.policy.require_graph_artifacts = true := hf.on .require_graph_artifacts hon
    exact Bool.or_eq_true _ _ |>.mpr (.inr hs)

/-- The reports along a graph block that ends well. -/
theorem graphBlock_steps (hscope : graphScoped C = true) (h : graphBlock C s = .ok t)
    (hv : Viable t) : ∃ s₁ s₂, graphVectorBlock C (graphArtifactsBlock C s) = .ok s₁ ∧
      exactFormulasBlock C (researchAlgorithmBlock C s₁) = .ok s₂ ∧
      pipeline [seedGovernanceBlock C, sybilSignatureBlock C, driftSignatureBlock C,
        recomputeGraphBlock C, recomputeDriftBlock C,
        fun s => return graphErrorsBlock C (covarianceDriftBlock C s)] s₂ = .ok t ∧
      Viable (graphArtifactsBlock C s) ∧ Viable s₁ ∧ Viable (researchAlgorithmBlock C s₁) ∧
      Viable s₂ := by
  rw [graphBlock_parts, if_pos hscope] at h
  obtain ⟨s₁, hs₁, h⟩ := bind_eq_ok.mp h
  obtain ⟨s₂, hs₂, h⟩ := bind_eq_ok.mp h
  have hv₂ := pipeline_reflects graphTail_reflects s₂ t h hv
  have hresearch := exactFormulasBlock_sticks.reflects (exactFormulasBlock_owns C) _ s₂ hs₂ hv₂
  have hv₁ := researchAlgorithmBlock_viable hresearch
  have hv₀ := graphVectorBlock_sticks.reflects (graphVectorBlock_owns C) _ s₁ hs₁ hv₁
  exact ⟨s₁, s₂, hs₁, hs₂, h, hv₀, hv₁, hresearch, hv₂⟩

theorem graphBlock_reflects : Reflects Viable (graphBlock C) := by
  intro s t ht hv
  cases hscope : graphScoped C with
  | false =>
    rw [graphBlock_parts, hscope] at ht
    cases ht
    exact hv
  | true =>
    obtain ⟨s₁, s₂, -, -, -, hv₀, -⟩ := graphBlock_steps hscope ht hv
    exact graphArtifactsBlock_viable hv₀

/-- Without any artifact, a run that asks for them has an error. -/
theorem graphBlock_unscoped (hi : graphScoped (C.relax flags) = false)
    (h : graphBlock C s = .ok t) (hv : Viable t) : t = s := by
  cases hscope : graphScoped C with
  | false =>
    rw [graphBlock_parts, hscope] at h
    cases h
    rfl
  | true =>
    obtain ⟨s₁, s₂, -, -, -, hv₀, -⟩ := graphBlock_steps hscope h hv
    obtain ⟨hinput, -⟩ := Bool.or_eq_false_iff.mp hi
    have hon : isOn C.policy.require_graph_artifacts = true := by
      rcases Bool.or_eq_true _ _ |>.mp hscope with hs | hs
      · exact absurd hs (Bool.eq_false_iff.mp hinput)
      · exact hs
    have hprofile : C.input.graph_profile.isNone = true := by
      simp only [Bool.or_eq_false_iff] at hinput
      simpa using hinput.1.1.1
    have hq := hv₀.1
    simp [graphArtifactsBlock, requireGraphArtifacts, hon, hprofile, Report.keep] at hq

theorem graphBlock_relaxed (hf : Looser flags C.policy) :
    Relaxes C flags (graphBlock (C.relax flags)) (graphBlock C) := by
  intro r s h t ht hv
  cases hl : graphScoped (C.relax flags) with
  | false =>
    rw [graphBlock_unscoped hl ht hv]
    refine ⟨r, ?_, h⟩
    rw [graphBlock_parts, hl]
    rfl
  | true =>
    obtain ⟨s₁, s₂, hs₁, hs₂, ht, hv₀, hv₁, hresearch, hv₂⟩ :=
      graphBlock_steps (graphScoped_relax hf hl) ht hv
    have h₀ := graphArtifactsBlock_relaxed hf h hv₀
    obtain ⟨r₁, hr₁, h₁⟩ := graphVectorBlock_relaxed hf _ _ h₀ s₁ hs₁ hv₁
    have hres := researchAlgorithmBlock_relaxed hf h₁ hresearch
    obtain ⟨r₂, hr₂, h₂⟩ := exactFormulasBlock_relaxed hf _ _ hres s₂ hs₂ hv₂
    have hend : ∀ r s, Relaxed C flags r s → Simulates Viable (Relaxed C flags)
        (pure (graphErrorsBlock (C.relax flags) (covarianceDriftBlock (C.relax flags) r)))
        (pure (graphErrorsBlock C (covarianceDriftBlock C s)) : Js Report) := by
      intro r s h
      apply Simulates.pure
      intro hv
      exact graphErrorsBlock_relaxed hf
        (covarianceDriftBlock_relaxed hf h (graphEnd_viable hv).1) hv.1
    have hblocks := List.Forall₂.cons (seedGovernanceBlock_relaxed hf)
      (.cons (sybilSignatureBlock_relaxed hf) (.cons (driftSignatureBlock_relaxed hf)
        (.cons (recomputeGraphBlock_relaxed hf) (.cons (recomputeDriftBlock_relaxed hf)
          (.cons hend .nil)))))
    obtain ⟨r₃, hr₃, h₃⟩ := pipeline_simulates hblocks graphTail_reflects h₂ t ht hv
    refine ⟨r₃, ?_, h₃⟩
    rw [graphBlock_parts, if_pos hl]
    exact bind_eq_ok.mpr ⟨r₁, hr₁, bind_eq_ok.mpr ⟨r₂, hr₂, hr₃⟩⟩

end Blocks

end Continuity
