import Continuity.VerifierFrames

namespace Continuity
open Frames
set_option autoImplicit true

/-- The boolean flags of a policy. -/
inductive PolicyFlag where
  | require_disclosure_consent_for_private_fields
  | reject_dev_zk_circuits
  | reject_unsafe_fixtures_on_mainnet
  | reject_rpc_attested_settlement_for_mainnet
  | require_exact_graph_formulas
  | require_behavioral_sybil_tiers
  | require_core_drift_formula
  | require_inclusion
  | require_checkpoint
  | require_settlement
  | require_provider_registry
  | require_chain_revocation
  | require_consistency_proof
  | require_non_membership_proof
  | require_governance_policy
  | require_audit_consistency
  | require_v2_assessment
  | require_metadata_fingerprint_policy
  | require_graph_artifacts
  | require_registered_zk_circuit
  | require_sparse_merkle_revocation_root
  | require_research_graph_algorithm
  | require_provider_governance_active
  | require_sybil_provider_issuer
  | require_seed_governance_opening
  | require_full_covariance_drift
  | require_manifest_verification_key_hash
  | require_authorized_relay
  | require_receipt_inclusion_for_disclosed_receipts
  | require_offline_settlement_proof
  deriving DecidableEq

def VerifierPolicy.flag (p : VerifierPolicy Option) : PolicyFlag → Option Bool
  | .require_disclosure_consent_for_private_fields =>
    p.require_disclosure_consent_for_private_fields
  | .reject_dev_zk_circuits => p.reject_dev_zk_circuits
  | .reject_unsafe_fixtures_on_mainnet => p.reject_unsafe_fixtures_on_mainnet
  | .reject_rpc_attested_settlement_for_mainnet => p.reject_rpc_attested_settlement_for_mainnet
  | .require_exact_graph_formulas => p.require_exact_graph_formulas
  | .require_behavioral_sybil_tiers => p.require_behavioral_sybil_tiers
  | .require_core_drift_formula => p.require_core_drift_formula
  | .require_inclusion => p.require_inclusion
  | .require_checkpoint => p.require_checkpoint
  | .require_settlement => p.require_settlement
  | .require_provider_registry => p.require_provider_registry
  | .require_chain_revocation => p.require_chain_revocation
  | .require_consistency_proof => p.require_consistency_proof
  | .require_non_membership_proof => p.require_non_membership_proof
  | .require_governance_policy => p.require_governance_policy
  | .require_audit_consistency => p.require_audit_consistency
  | .require_v2_assessment => p.require_v2_assessment
  | .require_metadata_fingerprint_policy => p.require_metadata_fingerprint_policy
  | .require_graph_artifacts => p.require_graph_artifacts
  | .require_registered_zk_circuit => p.require_registered_zk_circuit
  | .require_sparse_merkle_revocation_root => p.require_sparse_merkle_revocation_root
  | .require_research_graph_algorithm => p.require_research_graph_algorithm
  | .require_provider_governance_active => p.require_provider_governance_active
  | .require_sybil_provider_issuer => p.require_sybil_provider_issuer
  | .require_seed_governance_opening => p.require_seed_governance_opening
  | .require_full_covariance_drift => p.require_full_covariance_drift
  | .require_manifest_verification_key_hash => p.require_manifest_verification_key_hash
  | .require_authorized_relay => p.require_authorized_relay
  | .require_receipt_inclusion_for_disclosed_receipts =>
    p.require_receipt_inclusion_for_disclosed_receipts
  | .require_offline_settlement_proof => p.require_offline_settlement_proof

/-- The policy with other flags. -/
def VerifierPolicy.withFlags (p : VerifierPolicy Option) (flags : PolicyFlag → Option Bool) :
    VerifierPolicy Option :=
  { p with
    require_disclosure_consent_for_private_fields :=
      flags .require_disclosure_consent_for_private_fields
    reject_dev_zk_circuits := flags .reject_dev_zk_circuits
    reject_unsafe_fixtures_on_mainnet := flags .reject_unsafe_fixtures_on_mainnet
    reject_rpc_attested_settlement_for_mainnet :=
      flags .reject_rpc_attested_settlement_for_mainnet
    require_exact_graph_formulas := flags .require_exact_graph_formulas
    require_behavioral_sybil_tiers := flags .require_behavioral_sybil_tiers
    require_core_drift_formula := flags .require_core_drift_formula
    require_inclusion := flags .require_inclusion
    require_checkpoint := flags .require_checkpoint
    require_settlement := flags .require_settlement
    require_provider_registry := flags .require_provider_registry
    require_chain_revocation := flags .require_chain_revocation
    require_consistency_proof := flags .require_consistency_proof
    require_non_membership_proof := flags .require_non_membership_proof
    require_governance_policy := flags .require_governance_policy
    require_audit_consistency := flags .require_audit_consistency
    require_v2_assessment := flags .require_v2_assessment
    require_metadata_fingerprint_policy := flags .require_metadata_fingerprint_policy
    require_graph_artifacts := flags .require_graph_artifacts
    require_registered_zk_circuit := flags .require_registered_zk_circuit
    require_sparse_merkle_revocation_root := flags .require_sparse_merkle_revocation_root
    require_research_graph_algorithm := flags .require_research_graph_algorithm
    require_provider_governance_active := flags .require_provider_governance_active
    require_sybil_provider_issuer := flags .require_sybil_provider_issuer
    require_seed_governance_opening := flags .require_seed_governance_opening
    require_full_covariance_drift := flags .require_full_covariance_drift
    require_manifest_verification_key_hash := flags .require_manifest_verification_key_hash
    require_authorized_relay := flags .require_authorized_relay
    require_receipt_inclusion_for_disclosed_receipts :=
      flags .require_receipt_inclusion_for_disclosed_receipts
    require_offline_settlement_proof := flags .require_offline_settlement_proof }

/-- The policy that also sets some flags to true. -/
def VerifierPolicy.adding (p : VerifierPolicy JsField) (added : PolicyFlag → Bool) :
    VerifierPolicy JsField :=
  { p with
    require_disclosure_consent_for_private_fields :=
      if added .require_disclosure_consent_for_private_fields then .value true
      else p.require_disclosure_consent_for_private_fields
    reject_dev_zk_circuits :=
      if added .reject_dev_zk_circuits then .value true else p.reject_dev_zk_circuits
    reject_unsafe_fixtures_on_mainnet :=
      if added .reject_unsafe_fixtures_on_mainnet then .value true
      else p.reject_unsafe_fixtures_on_mainnet
    reject_rpc_attested_settlement_for_mainnet :=
      if added .reject_rpc_attested_settlement_for_mainnet then .value true
      else p.reject_rpc_attested_settlement_for_mainnet
    require_exact_graph_formulas :=
      if added .require_exact_graph_formulas then .value true else p.require_exact_graph_formulas
    require_behavioral_sybil_tiers :=
      if added .require_behavioral_sybil_tiers then .value true
      else p.require_behavioral_sybil_tiers
    require_core_drift_formula :=
      if added .require_core_drift_formula then .value true else p.require_core_drift_formula
    require_inclusion := if added .require_inclusion then some true else p.require_inclusion
    require_checkpoint := if added .require_checkpoint then some true else p.require_checkpoint
    require_settlement := if added .require_settlement then some true else p.require_settlement
    require_provider_registry :=
      if added .require_provider_registry then some true else p.require_provider_registry
    require_chain_revocation :=
      if added .require_chain_revocation then some true else p.require_chain_revocation
    require_consistency_proof :=
      if added .require_consistency_proof then some true else p.require_consistency_proof
    require_non_membership_proof :=
      if added .require_non_membership_proof then some true else p.require_non_membership_proof
    require_governance_policy :=
      if added .require_governance_policy then some true else p.require_governance_policy
    require_audit_consistency :=
      if added .require_audit_consistency then some true else p.require_audit_consistency
    require_v2_assessment :=
      if added .require_v2_assessment then some true else p.require_v2_assessment
    require_metadata_fingerprint_policy :=
      if added .require_metadata_fingerprint_policy then some true
      else p.require_metadata_fingerprint_policy
    require_graph_artifacts :=
      if added .require_graph_artifacts then some true else p.require_graph_artifacts
    require_registered_zk_circuit :=
      if added .require_registered_zk_circuit then some true else p.require_registered_zk_circuit
    require_sparse_merkle_revocation_root :=
      if added .require_sparse_merkle_revocation_root then some true
      else p.require_sparse_merkle_revocation_root
    require_research_graph_algorithm :=
      if added .require_research_graph_algorithm then some true
      else p.require_research_graph_algorithm
    require_provider_governance_active :=
      if added .require_provider_governance_active then some true
      else p.require_provider_governance_active
    require_sybil_provider_issuer :=
      if added .require_sybil_provider_issuer then some true else p.require_sybil_provider_issuer
    require_seed_governance_opening :=
      if added .require_seed_governance_opening then some true
      else p.require_seed_governance_opening
    require_full_covariance_drift :=
      if added .require_full_covariance_drift then some true else p.require_full_covariance_drift
    require_manifest_verification_key_hash :=
      if added .require_manifest_verification_key_hash then some true
      else p.require_manifest_verification_key_hash
    require_authorized_relay :=
      if added .require_authorized_relay then some true else p.require_authorized_relay
    require_receipt_inclusion_for_disclosed_receipts :=
      if added .require_receipt_inclusion_for_disclosed_receipts then some true
      else p.require_receipt_inclusion_for_disclosed_receipts
    require_offline_settlement_proof :=
      if added .require_offline_settlement_proof then some true
      else p.require_offline_settlement_proof }

/-- Flags that ask for no more than a policy does. -/
structure Looser (flags : PolicyFlag → Option Bool) (p : VerifierPolicy Option) : Prop where
  on : ∀ flag, isOn (flags flag) = true → isOn (p.flag flag) = true
  consent : flags .require_disclosure_consent_for_private_fields ≠ some false →
    p.require_disclosure_consent_for_private_fields ≠ some false

theorem strictDefault_added (field : JsField Bool) (added : Bool) :
    strictDefault (if added then .value true else field) =
      if added then some true else strictDefault field := by
  cases added <;> rfl

/-- The flag of the policy with the added flags. -/
theorem VerifierPolicy.adding_flag (p : VerifierPolicy JsField) (added : PolicyFlag → Bool)
    (flag : PolicyFlag) : (p.adding added).withDefaults.flag flag =
      if added flag then some true else p.withDefaults.flag flag := by
  cases flag <;> first | rfl | exact strictDefault_added _ _

theorem VerifierPolicy.adding_withFlags (p : VerifierPolicy JsField) (added : PolicyFlag → Bool) :
    (p.adding added).withDefaults.withFlags p.withDefaults.flag = p.withDefaults := rfl

theorem VerifierPolicy.adding_looser (p : VerifierPolicy JsField) (added : PolicyFlag → Bool) :
    Looser p.withDefaults.flag (p.adding added).withDefaults := by
  constructor
  · intro flag hon
    rw [p.adding_flag added flag]
    split
    · rfl
    · exact hon
  · intro hne
    have h := p.adding_flag added .require_disclosure_consent_for_private_fields
    change (p.adding added).withDefaults.flag .require_disclosure_consent_for_private_fields ≠ _
    rw [h]
    split
    · simp
    · exact hne

/-- The optional checks that only a flag of the policy brings about. -/
def openChecks : List CheckName :=
  [.disclosure_consent_valid, .provider_governance_valid, .zk_circuit_registered,
    .research_graph_algorithm_valid, .seed_governance_valid, .full_covariance_drift_valid,
    .authorized_relay_valid]

/-- The checks whose value may depend on the flags of the policy in an accepted run. -/
def flaggedChecks : List CheckName :=
  [.chain_revocation_checked, .receipt_included, .provider_active, .model_registered] ++ openChecks

/-- Whether a policy requires one of the flagged checks. -/
def requiredBy (p : VerifierPolicy Option) (input : ExpandedInput) : CheckName → Bool
  | .chain_revocation_checked => isOn p.require_chain_revocation
  | .zk_circuit_registered => isOn p.require_registered_zk_circuit
  | .research_graph_algorithm_valid => isOn p.require_research_graph_algorithm
  | .provider_governance_valid => isOn p.require_provider_governance_active
  | .seed_governance_valid => isOn p.require_seed_governance_opening
  | .full_covariance_drift_valid => isOn p.require_full_covariance_drift
  | .authorized_relay_valid => isOn p.require_authorized_relay
  | .receipt_included =>
    isOn p.require_receipt_inclusion_for_disclosed_receipts && nonEmptyList input.receipts
  | _ => false

/-- The context of a run under other flags. -/
def Context.relax (C : Context) (flags : PolicyFlag → Option Bool) : Context :=
  { C with policy := C.policy.withFlags flags }

section Relax

variable (C : Context) (flags : PolicyFlag → Option Bool)

@[simp] theorem Context.relax_host : (C.relax flags).host = C.host := rfl

@[simp] theorem Context.relax_input : (C.relax flags).input = C.input := rfl

@[simp] theorem Context.relax_envelope : (C.relax flags).envelope = C.envelope := rfl

@[simp] theorem Context.relax_backend : (C.relax flags).backend = C.backend := rfl

@[simp] theorem Context.relax_resolver : (C.relax flags).resolver = C.resolver := rfl

end Relax

/-- The report of a run under looser flags, beside the report of the run itself. -/
structure Relaxed (C : Context) (flags : PolicyFlag → Option Bool) (r s : Report) : Prop where
  quiet : s.errors = [] → r.errors = []
  same : ∀ name, name ∉ flaggedChecks → r.checks name = s.checks name
  kept : ∀ name, requiredBy (C.relax flags).policy C.input name = true →
    r.checks name = s.checks name
  clear : ∀ name ∈ openChecks, r.checks name ≠ some false

/-- A report that can still end as verified. -/
def Viable (s : Report) : Prop :=
  s.errors = [] ∧ s.checks .graph_artifacts_valid ≠ some false

theorem Advances.viable (h : Advances owned s t)
    (hn : CheckName.graph_artifacts_valid ∉ owned) (hv : Viable t) : Viable s := by
  have hgraph : t.checks _ = s.checks _ := h.get _ hn
  refine ⟨h.quiet hv.1, ?_⟩
  rw [← hgraph]
  exact hv.2

/-- A block that leaves the graph artifacts alone ends well only from a viable report. -/
theorem Owns.reflects (h : Owns owned block) (hn : CheckName.graph_artifacts_valid ∉ owned) :
    Reflects Viable block :=
  fun s t ht hv => Advances.viable (h s t ht) hn hv

namespace Relaxed

variable {C : Context} {flags : PolicyFlag → Option Bool} {r s : Report}

theorem passes (h : Relaxed C flags r s) (hn : name ∉ flaggedChecks) :
    r.passes name = s.passes name := by
  rw [Report.passes, Report.passes, h.same name hn]

theorem notFailed (h : Relaxed C flags r s) (hn : name ∉ flaggedChecks) :
    r.notFailed name = s.notFailed name := by
  rw [Report.notFailed, Report.notFailed, h.same name hn]

/-- Both runs set a check to the same value. -/
theorem set (h : Relaxed C flags r s) (ho : name ∈ openChecks → value = true) :
    Relaxed C flags (r.check name value) (s.check name value) := by
  refine ⟨h.quiet, ?_, ?_, ?_⟩
  · intro k hk
    by_cases hne : k = name
    · rw [hne, Report.check_same, Report.check_same]
    · rw [Report.check_other r value hne, Report.check_other s value hne, h.same k hk]
  · intro k hk
    by_cases hne : k = name
    · rw [hne, Report.check_same, Report.check_same]
    · rw [Report.check_other r value hne, Report.check_other s value hne, h.kept k hk]
  · intro k hk
    by_cases hne : k = name
    · rw [hne, Report.check_same, ho (hne ▸ hk)]
      simp
    · rw [Report.check_other r value hne]
      exact h.clear k hk

theorem check (h : Relaxed C flags r s) (hn : name ∉ openChecks) (value : Bool) :
    Relaxed C flags (r.check name value) (s.check name value) :=
  h.set fun hm => absurd hm hn

theorem check_true (h : Relaxed C flags r s) (name : CheckName) :
    Relaxed C flags (r.check name true) (s.check name true) :=
  h.set fun _ => rfl

theorem uncheck (h : Relaxed C flags r s) : Relaxed C flags (r.uncheck name) (s.uncheck name) := by
  refine ⟨h.quiet, ?_, ?_, ?_⟩
  · intro k hk
    by_cases hne : k = name
    · simp [Report.uncheck, hne]
    · simp [Report.uncheck, hne, h.same k hk]
  · intro k hk
    by_cases hne : k = name
    · simp [Report.uncheck, hne]
    · simp [Report.uncheck, hne, h.kept k hk]
  · intro k hk
    by_cases hne : k = name
    · simp [Report.uncheck, hne]
    · simp [Report.uncheck, hne, h.clear k hk]

/-- Only the stricter run sets a check that the looser policy does not require. -/
theorem check_strict (h : Relaxed C flags r s) (hn : name ∈ flaggedChecks)
    (hr : requiredBy (C.relax flags).policy C.input name = false) (value : Bool) :
    Relaxed C flags r (s.check name value) := by
  refine ⟨h.quiet, ?_, ?_, h.clear⟩
  · intro k hk
    have hne : k ≠ name := fun he => hk (he ▸ hn)
    rw [Report.check_other s value hne, h.same k hk]
  · intro k hk
    have hne : k ≠ name := by
      rintro rfl
      rw [hr] at hk
      cases hk
    rw [Report.check_other s value hne, h.kept k hk]

/-- Only the looser run sets such a check. -/
theorem check_loose (h : Relaxed C flags r s) (hn : name ∈ flaggedChecks)
    (hr : requiredBy (C.relax flags).policy C.input name = false)
    (ho : name ∈ openChecks → value = true) : Relaxed C flags (r.check name value) s := by
  refine ⟨h.quiet, ?_, ?_, ?_⟩
  · intro k hk
    have hne : k ≠ name := fun he => hk (he ▸ hn)
    rw [Report.check_other r value hne, h.same k hk]
  · intro k hk
    have hne : k ≠ name := by
      rintro rfl
      rw [hr] at hk
      cases hk
    rw [Report.check_other r value hne, h.kept k hk]
  · intro k hk
    by_cases hne : k = name
    · rw [hne, Report.check_same, ho (hne ▸ hk)]
      simp
    · rw [Report.check_other r value hne]
      exact h.clear k hk

theorem push (h : Relaxed C flags r s) (errors : List String) :
    Relaxed C flags (r.push errors) (s.push errors) := by
  refine ⟨?_, h.same, h.kept, h.clear⟩
  intro hq
  obtain ⟨hs, he⟩ := List.append_eq_nil_iff.mp hq
  exact List.append_eq_nil_iff.mpr ⟨h.quiet hs, he⟩

theorem pushIf (h : Relaxed C flags r s) (condition : Bool) (errors : List String) :
    Relaxed C flags (r.pushIf condition errors) (s.pushIf condition errors) := by
  cases condition with
  | false => exact h
  | true => exact h.push errors

theorem explainIf (h : Relaxed C flags r s) :
    Relaxed C flags (r.explainIf left text) (s.explainIf right text') := by
  cases left <;> cases right <;> exact ⟨h.quiet, h.same, h.kept, h.clear⟩

theorem rate (h : Relaxed C flags r s) (label : AssessmentLabel) :
    Relaxed C flags (r.rate label) (s.rate label) := ⟨h.quiet, h.same, h.kept, h.clear⟩

theorem settle (h : Relaxed C flags r s) (status : SettlementStatus) :
    Relaxed C flags (r.settle status) (s.settle status) := ⟨h.quiet, h.same, h.kept, h.clear⟩

/-- Both runs record lists of results that agree. -/
theorem record (h : Relaxed C flags r s) (hn : name ∉ openChecks)
    {results results' : List ItemResult}
    (hv : results.all ItemResult.valid = results'.all ItemResult.valid)
    (he : results'.flatMap ItemResult.errors = [] → results.flatMap ItemResult.errors = []) :
    Relaxed C flags (r.record name results) (s.record name results') := by
  have hc : Relaxed C flags (r.check name (results.all ItemResult.valid))
      (s.check name (results'.all ItemResult.valid)) := by
    rw [hv]
    exact h.check hn _
  refine ⟨?_, hc.same, hc.kept, hc.clear⟩
  intro hq
  obtain ⟨hs, hr⟩ := List.append_eq_nil_iff.mp hq
  exact List.append_eq_nil_iff.mpr ⟨h.quiet hs, he hr⟩

theorem record_same (h : Relaxed C flags r s) (hn : name ∉ openChecks)
    (results : List ItemResult) : Relaxed C flags (r.record name results) (s.record name results) :=
  h.record hn rfl id

theorem keep (h : Relaxed C flags r s) (hn : name ∉ flaggedChecks) (value : Bool) :
    Relaxed C flags (r.keep name value) (s.keep name value) := by
  have ho : name ∉ openChecks := fun hm => hn (List.mem_append_right _ hm)
  rw [Report.keep, Report.keep, h.notFailed hn]
  exact h.check ho _

/-- A check that is kept under looser flags has not failed before. -/
theorem keep_true (h : Relaxed C flags r s) (hn : name ∈ openChecks)
    (hr : requiredBy (C.relax flags).policy C.input name = false) (value : Bool) :
    Relaxed C flags (r.keep name true) (s.keep name value) := by
  have hlax : (r.notFailed name && true) = true := by
    rw [Bool.and_true, Report.notFailed]
    exact bne_iff_ne.mpr (h.clear name hn)
  rw [Report.keep, Report.keep, hlax]
  have hm : name ∈ flaggedChecks := List.mem_append_right _ hn
  exact (h.check_strict hm hr _).check_loose hm hr fun _ => rfl

/-- Both runs keep a check that starts out the same. -/
theorem keepAll (h : Relaxed C flags r s) (hn : name ∉ openChecks)
    (he : r.checks name = s.checks name) (values : List Bool) :
    Relaxed C flags (values.foldl (fun r value => r.keep name value) r)
      (values.foldl (fun s value => s.keep name value) s) := by
  induction values generalizing r s with
  | nil => exact h
  | cons value rest ih =>
    have hv : r.keep name value = r.check name (s.notFailed name && value) := by
      rw [Report.keep, Report.notFailed, Report.notFailed, he]
    simp only [List.foldl_cons]
    apply ih
    · rw [hv]
      exact h.check hn _
    · rw [hv, Report.keep, Report.check_same, Report.check_same]

theorem keepAll_apart (h : Relaxed C flags r s) (hn : name ∈ flaggedChecks)
    (hr : requiredBy (C.relax flags).policy C.input name = false) (ho : name ∉ openChecks)
    (values values' : List Bool) :
    Relaxed C flags (values.foldl (fun r value => r.keep name value) r)
      (values'.foldl (fun s value => s.keep name value) s) := by
  induction values generalizing r with
  | nil =>
    induction values' generalizing s with
    | nil => exact h
    | cons value rest ih => exact ih (h.check_strict hn hr _)
  | cons value rest ih => exact ih (h.check_loose hn hr fun hm => absurd hm ho)

end Relaxed

end Continuity
