import Continuity.Frames
import Continuity.Host

namespace Continuity
open Frames
set_option autoImplicit true

/-- The policy of a caller (`F = JsField`) or with the strict defaults filled in
(`F = Option`); only the flags with a default tell a missing value from an undefined one. -/
structure VerifierPolicy (F : Type → Type) where
  require_disclosure_consent_for_private_fields : F Bool
  reject_dev_zk_circuits : F Bool
  reject_unsafe_fixtures_on_mainnet : F Bool
  reject_rpc_attested_settlement_for_mainnet : F Bool
  require_exact_graph_formulas : F Bool
  require_behavioral_sybil_tiers : F Bool
  require_core_drift_formula : F Bool
  require_inclusion : Option Bool
  require_checkpoint : Option Bool
  require_settlement : Option Bool
  require_provider_registry : Option Bool
  require_chain_revocation : Option Bool
  require_zk_claims : Option (List JsString)
  require_consistency_proof : Option Bool
  require_non_membership_proof : Option Bool
  require_governance_policy : Option Bool
  require_agent_scope : Option JsString
  require_audit_consistency : Option Bool
  accepted_scoring_profiles : Option (List JsString)
  required_domain_policy : Option JsString
  require_v2_assessment : Option Bool
  require_metadata_fingerprint_policy : Option Bool
  require_graph_artifacts : Option Bool
  require_registered_zk_circuit : Option Bool
  require_sparse_merkle_revocation_root : Option Bool
  require_research_graph_algorithm : Option Bool
  require_provider_governance_active : Option Bool
  require_sybil_provider_issuer : Option Bool
  require_seed_governance_opening : Option Bool
  require_full_covariance_drift : Option Bool
  require_manifest_verification_key_hash : Option Bool
  require_authorized_relay : Option Bool
  authorized_relays : Option (List TrustID)
  require_receipt_inclusion_for_disclosed_receipts : Option Bool
  require_offline_settlement_proof : Option Bool
  min_settlement_confirmations : Option JsNumber
  accepted_auditors : Option (List TrustID)
  accepted_governance_policy : Option JsString
  accepted_scoring_providers : Option (List TrustID)
  verifier_or_provider : Option TrustID
  disclosure_purpose : Option JsString
  revoked_disclosure_pointers : Option (List JsString)
  disclosure_checked_at : Option RFC3339
  max_assessment_age_ms : Option JsNumber

/-- The policy that names nothing. -/
def emptyPolicy : VerifierPolicy JsField where
  require_disclosure_consent_for_private_fields := .absent
  reject_dev_zk_circuits := .absent
  reject_unsafe_fixtures_on_mainnet := .absent
  reject_rpc_attested_settlement_for_mainnet := .absent
  require_exact_graph_formulas := .absent
  require_behavioral_sybil_tiers := .absent
  require_core_drift_formula := .absent
  require_inclusion := none
  require_checkpoint := none
  require_settlement := none
  require_provider_registry := none
  require_chain_revocation := none
  require_zk_claims := none
  require_consistency_proof := none
  require_non_membership_proof := none
  require_governance_policy := none
  require_agent_scope := none
  require_audit_consistency := none
  accepted_scoring_profiles := none
  required_domain_policy := none
  require_v2_assessment := none
  require_metadata_fingerprint_policy := none
  require_graph_artifacts := none
  require_registered_zk_circuit := none
  require_sparse_merkle_revocation_root := none
  require_research_graph_algorithm := none
  require_provider_governance_active := none
  require_sybil_provider_issuer := none
  require_seed_governance_opening := none
  require_full_covariance_drift := none
  require_manifest_verification_key_hash := none
  require_authorized_relay := none
  authorized_relays := none
  require_receipt_inclusion_for_disclosed_receipts := none
  require_offline_settlement_proof := none
  min_settlement_confirmations := none
  accepted_auditors := none
  accepted_governance_policy := none
  accepted_scoring_providers := none
  verifier_or_provider := none
  disclosure_purpose := none
  revoked_disclosure_pointers := none
  disclosure_checked_at := none
  max_assessment_age_ms := none

/-- A strict default stands unless the caller's policy has the key, even with no value. -/
def strictDefault : JsField Bool → Option Bool
  | .absent => some true
  | field => field.toOption

def VerifierPolicy.withDefaults (p : VerifierPolicy JsField) : VerifierPolicy Option :=
  { p with
    require_disclosure_consent_for_private_fields :=
      strictDefault p.require_disclosure_consent_for_private_fields
    reject_dev_zk_circuits := strictDefault p.reject_dev_zk_circuits
    reject_unsafe_fixtures_on_mainnet := strictDefault p.reject_unsafe_fixtures_on_mainnet
    reject_rpc_attested_settlement_for_mainnet :=
      strictDefault p.reject_rpc_attested_settlement_for_mainnet
    require_exact_graph_formulas := strictDefault p.require_exact_graph_formulas
    require_behavioral_sybil_tiers := strictDefault p.require_behavioral_sybil_tiers
    require_core_drift_formula := strictDefault p.require_core_drift_formula }

/-- The fields of the checks object. -/
inductive CheckName where
  | schema_valid
  | signature_valid
  | key_found
  | key_active
  | not_revoked
  | included_in_log
  | checkpoint_valid
  | checkpoint_matches_proof
  | checkpoint_settled
  | content_commitment_matches
  | settlement_evidence_valid
  | receipt_valid
  | attestation_valid
  | revocation_state_valid
  | assessment_valid
  | provider_active
  | model_registered
  | chain_revocation_checked
  | zk_valid
  | agent_scope_valid
  | audit_consistency_valid
  | consistency_proof_valid
  | non_membership_proof_valid
  | zk_circuit_registered
  | research_graph_algorithm_valid
  | provider_governance_valid
  | seed_governance_valid
  | full_covariance_drift_valid
  | governance_policy_valid
  | trust_assessment_v2_valid
  | scoring_profile_valid
  | domain_policy_valid
  | evidence_coverage_valid
  | metadata_fingerprint_valid
  | disclosure_consent_valid
  | redaction_manifest_valid
  | checkpoint_signature_valid
  | graph_artifacts_valid
  | sybil_assessment_valid
  | drift_report_valid
  | delegated_action_valid
  | receipt_included
  | authorized_relay_valid
  | attestation_included
  | revocation_included
  deriving DecidableEq

/-- The checks object: the value of each check, `none` while it is undefined. -/
abbrev VerificationChecks := CheckName → Option Bool

def defaultChecks : VerificationChecks
  | .schema_valid => some false
  | .signature_valid => some false
  | .key_found => some false
  | .key_active => some false
  | .not_revoked => some false
  | .included_in_log => some false
  | .checkpoint_valid => some false
  | .checkpoint_matches_proof => some false
  | .checkpoint_settled => some false
  | _ => none

inductive SettlementStatus where
  | not_required
  | pending
  | settled
  | unavailable
  | mismatch
  deriving DecidableEq

/-- The local variables that a run of the verifier updates. -/
structure Report where
  checks : VerificationChecks
  errors : List String
  explanation : List String
  settlement_status : SettlementStatus
  /-- `none` while nothing is assessed. -/
  risk_label : Option AssessmentLabel

namespace Report

def check (r : Report) (name : CheckName) (value : Bool) : Report :=
  { r with checks := Function.update r.checks name (some value) }

def uncheck (r : Report) (name : CheckName) : Report :=
  { r with checks := Function.update r.checks name none }

/-- `errors.push(...errors)`. -/
def push (r : Report) (errors : List String) : Report := { r with errors := r.errors ++ errors }

def pushIf (r : Report) (condition : Bool) (errors : List String) : Report :=
  if condition then r.push errors else r

def explainIf (r : Report) (condition : Bool) (text : String) : Report :=
  if condition then { r with explanation := r.explanation ++ [text] } else r

def rate (r : Report) (label : AssessmentLabel) : Report := { r with risk_label := some label }

def settle (r : Report) (status : SettlementStatus) : Report :=
  { r with settlement_status := status }

def passes (r : Report) (name : CheckName) : Bool := r.checks name == some true

def notFailed (r : Report) (name : CheckName) : Bool := r.checks name != some false

@[simp] theorem check_same (r : Report) (name : CheckName) (value : Bool) :
    (r.check name value).checks name = some value := Function.update_self _ _ _

theorem check_other (r : Report) (value : Bool) (h : k ≠ name) :
    (r.check name value).checks k = r.checks k := Function.update_of_ne h _ _

@[simp] theorem check_errors (r : Report) (name : CheckName) (value : Bool) :
    (r.check name value).errors = r.errors := rfl

@[simp] theorem push_errors (r : Report) (errors : List String) :
    (r.push errors).errors = r.errors ++ errors := rfl

@[simp] theorem push_checks (r : Report) (errors : List String) :
    (r.push errors).checks = r.checks := rfl

@[simp] theorem pushIf_checks (r : Report) (condition : Bool) (errors : List String) :
    (r.pushIf condition errors).checks = r.checks := by
  cases condition <;> rfl

@[simp] theorem explainIf_checks (r : Report) (condition : Bool) (text : String) :
    (r.explainIf condition text).checks = r.checks := by
  cases condition <;> rfl

@[simp] theorem explainIf_errors (r : Report) (condition : Bool) (text : String) :
    (r.explainIf condition text).errors = r.errors := by
  cases condition <;> rfl

/-- A report is observed through its checks and its errors. -/
def view : View Report CheckName (Option Bool) String where
  get r name := r.checks name
  log r := r.errors

end Report

/-- A step of the verifier that changes only the checks it owns and drops no error. -/
abbrev Advances (owned : List CheckName) (r r' : Report) : Prop := Frame Report.view owned r r'

namespace Advances

@[grind ←] theorem refl (r : Report) : Advances owned r r := Frame.refl r

@[grind ←] theorem check (h : Advances owned r r') (hm : name ∈ owned) (value : Bool) :
    Advances owned r (r'.check name value) := by
  refine ⟨h.log, ?_⟩
  intro k hk
  have hne : k ≠ name := fun he => hk (he ▸ hm)
  exact (Report.check_other r' value hne).trans (h.get k hk)

@[grind ←] theorem uncheck (h : Advances owned r r') (hm : name ∈ owned) :
    Advances owned r (r'.uncheck name) := by
  refine ⟨h.log, ?_⟩
  intro k hk
  have hne : k ≠ name := fun he => hk (he ▸ hm)
  exact (Function.update_of_ne hne _ _).trans (h.get k hk)

@[grind ←] theorem push (h : Advances owned r r') (errors : List String) :
    Advances owned r (r'.push errors) :=
  ⟨h.log.trans (List.prefix_append _ _), h.get⟩

@[grind ←] theorem pushIf (h : Advances owned r r') (condition : Bool) (errors : List String) :
    Advances owned r (r'.pushIf condition errors) := by
  cases condition with
  | false => exact h
  | true => exact h.push errors

@[grind ←] theorem explainIf (h : Advances owned r r') (condition : Bool) (text : String) :
    Advances owned r (r'.explainIf condition text) := by
  cases condition with
  | false => exact h
  | true => exact ⟨h.log, h.get⟩

@[grind ←] theorem rate (h : Advances owned r r') (label : AssessmentLabel) :
    Advances owned r (r'.rate label) := ⟨h.log, h.get⟩

@[grind ←] theorem settle (h : Advances owned r r') (status : SettlementStatus) :
    Advances owned r (r'.settle status) := ⟨h.log, h.get⟩

end Advances

end Continuity
