import Continuity.Types

namespace Continuity
set_option autoImplicit true

/-- The fields of an object that no modelled function reads, apart from the `known` ones. -/
structure OtherFields (known : List JsString) where
  entries : JsObject
  nodup : (entries.map Prod.fst).Nodup
  fresh : ∀ key ∈ entries.map Prod.fst, key ∉ known

def OtherFields.none (known : List JsString) : OtherFields known where
  entries := []
  nodup := List.nodup_nil
  fresh := by simp

def textList (values : List JsString) : JsValue := .arr (values.map .str)

theorem encodable_textList (values : List JsString) : Encodable (textList values) := by
  apply encodableItems_iff.mpr
  intro item hitem
  obtain ⟨value, -, rfl⟩ := List.mem_map.mp hitem
  exact True.intro

def numberList (values : List JsNumber) : JsValue := .arr (values.map .num)

structure AttestationV2 where
  issuer : TrustID
  signing_key_id : JsString
  subject : TrustID
  visibility : Visibility
  issued_at : RFC3339
  signature : HexSig
  others : OtherFields [js "issuer", js "signing_key_id", js "subject", js "visibility",
    js "issued_at", js "signature"]

def AttestationV2.toFields (a : AttestationV2) : JsObject :=
  [(js "issuer", JsValue.str a.issuer), (js "signing_key_id", .str a.signing_key_id),
    (js "subject", .str a.subject), (js "visibility", .str a.visibility.text),
    (js "issued_at", .str a.issued_at), (js "signature", .str a.signature)] ++ a.others.entries

inductive EvidenceKind where
  | offline_receipt_log_proof
  | rpc_attested_receipt
  deriving DecidableEq

def EvidenceKind.text : EvidenceKind → JsString
  | .offline_receipt_log_proof => js "offline_receipt_log_proof"
  | .rpc_attested_receipt => js "rpc_attested_receipt"

inductive ReceiptStatus where
  | success
  | reverted
  | unknown
  deriving DecidableEq

def ReceiptStatus.text : ReceiptStatus → JsString
  | .success => js "success"
  | .reverted => js "reverted"
  | .unknown => js "unknown"

inductive SettlementState where
  | submitted
  | settled
  | failed
  deriving DecidableEq

def SettlementState.text : SettlementState → JsString
  | .submitted => js "submitted"
  | .settled => js "settled"
  | .failed => js "failed"

inductive FinalityType where
  | finalized_block
  | confirmations
  | checkpoint_oracle
  deriving DecidableEq

def FinalityType.text : FinalityType → JsString
  | .finalized_block => js "finalized_block"
  | .confirmations => js "confirmations"
  | .checkpoint_oracle => js "checkpoint_oracle"

structure FinalityProof where
  type : FinalityType
  finalized_block_hash : Option Hex32
  confirmations : Option JsNumber
  source_commitment : Hex32

def FinalityProof.toJs (f : FinalityProof) : JsValue :=
  .obj ((js "type", .str f.type.text) ::
    optField (js "finalized_block_hash") .str f.finalized_block_hash ++
    optField (js "confirmations") .num f.confirmations ++
    [(js "source_commitment", JsValue.str f.source_commitment)])

structure SettlementEvidenceV1 where
  checkpoint_hash : Hex32
  checkpoint_identity_hash : Hex32
  settlement_backend : JsString
  chain_id : JsNumber
  contract_address : JsString
  contract_checkpoint_hash : Option Hex32
  contract_checkpoint_fields_hash : Hex32
  settlement_tx : JsString
  evidence_kind : EvidenceKind
  block_header_rlp : Option JsString
  receipt_rlp : Option JsString
  receipt_proof_nodes : Option (List JsString)
  finality_proof : Option FinalityProof
  transaction_receipt_hash : Option Hex32
  block_hash : Option Hex32
  block_number : Option JsNumber
  receipt_root : Option Hex32
  transaction_index : Option JsNumber
  receipt_status : Option ReceiptStatus
  chain_proof_commitment : Option Hex32
  settlement_event_hash : Option Hex32
  settlement_event_index : Option JsNumber
  event_topic_hash : Option Hex32
  event_topics : Option (List Hex32)
  event_data : Option JsString
  log_index : Option JsNumber
  receipt_proof_source_commitment : Option Hex32
  finality_source_commitment : Option Hex32
  submitter : JsString
  submitted_at : RFC3339
  status : SettlementState

def SettlementEvidenceV1.toJs (e : SettlementEvidenceV1) : JsValue :=
  .obj ([(js "type", JsValue.str (js "tsl.settlement_evidence.v1")),
    (js "checkpoint_hash", .str e.checkpoint_hash),
    (js "checkpoint_identity_hash", .str e.checkpoint_identity_hash),
    (js "settlement_backend", .str e.settlement_backend), (js "chain_id", .num e.chain_id),
    (js "contract_address", .str e.contract_address)] ++
    optField (js "contract_checkpoint_hash") .str e.contract_checkpoint_hash ++
    [(js "contract_checkpoint_fields_hash", JsValue.str e.contract_checkpoint_fields_hash),
    (js "settlement_tx", .str e.settlement_tx),
    (js "evidence_kind", .str e.evidence_kind.text)] ++
    optField (js "block_header_rlp") .str e.block_header_rlp ++
    optField (js "receipt_rlp") .str e.receipt_rlp ++
    optField (js "receipt_proof_nodes") textList e.receipt_proof_nodes ++
    optField (js "finality_proof") FinalityProof.toJs e.finality_proof ++
    optField (js "transaction_receipt_hash") .str e.transaction_receipt_hash ++
    optField (js "block_hash") .str e.block_hash ++
    optField (js "block_number") .num e.block_number ++
    optField (js "receipt_root") .str e.receipt_root ++
    optField (js "transaction_index") .num e.transaction_index ++
    optField (js "receipt_status") (fun status => .str (ReceiptStatus.text status))
      e.receipt_status ++
    optField (js "chain_proof_commitment") .str e.chain_proof_commitment ++
    optField (js "settlement_event_hash") .str e.settlement_event_hash ++
    optField (js "settlement_event_index") .num e.settlement_event_index ++
    optField (js "event_topic_hash") .str e.event_topic_hash ++
    optField (js "event_topics") textList e.event_topics ++
    optField (js "event_data") .str e.event_data ++ optField (js "log_index") .num e.log_index ++
    optField (js "receipt_proof_source_commitment") .str e.receipt_proof_source_commitment ++
    optField (js "finality_source_commitment") .str e.finality_source_commitment ++
    [(js "submitter", JsValue.str e.submitter), (js "submitted_at", .str e.submitted_at),
    (js "status", .str e.status.text)])

inductive AssessmentLabel where
  | trusted
  | likely_trusted
  | medium_trust
  | unknown_caution
  | suspicious
  | high_risk
  | revoked
  | insufficient_evidence
  deriving DecidableEq

def AssessmentLabel.text : AssessmentLabel → JsString
  | .trusted => js "trusted"
  | .likely_trusted => js "likely_trusted"
  | .medium_trust => js "medium_trust"
  | .unknown_caution => js "unknown_caution"
  | .suspicious => js "suspicious"
  | .high_risk => js "high_risk"
  | .revoked => js "revoked"
  | .insufficient_evidence => js "insufficient_evidence"

structure TrustAssessmentV1 where
  subject : TrustID
  issuer : TrustID
  label : AssessmentLabel
  model_version : JsString
  evidence_commitment : Hex32
  features_disclosed : Option (List JsString)
  explanation : Option (List JsString)
  issued_at : RFC3339
  expires_at : RFC3339
  signature : HexSig
  others : OtherFields [js "subject", js "issuer", js "label", js "model_version",
    js "evidence_commitment", js "features_disclosed", js "explanation", js "issued_at",
    js "expires_at", js "signature"]

def TrustAssessmentV1.toFields (a : TrustAssessmentV1) : JsObject :=
  [(js "subject", JsValue.str a.subject), (js "issuer", .str a.issuer),
    (js "label", .str a.label.text),
    (js "model_version", .str a.model_version),
    (js "evidence_commitment", .str a.evidence_commitment)] ++
    optField (js "features_disclosed") textList a.features_disclosed ++
    optField (js "explanation") textList a.explanation ++
    [(js "issued_at", JsValue.str a.issued_at), (js "expires_at", .str a.expires_at),
    (js "signature", .str a.signature)] ++ a.others.entries

structure ScoringProfileV2 where
  profile_id : JsString
  provider : TrustID
  issued_at : RFC3339
  valid_after : RFC3339
  expires_at : RFC3339
  signature : HexSig
  others : OtherFields [js "profile_id", js "provider", js "issued_at", js "valid_after",
    js "expires_at", js "signature"]

def ScoringProfileV2.toFields (p : ScoringProfileV2) : JsObject :=
  [(js "profile_id", JsValue.str p.profile_id), (js "provider", .str p.provider),
    (js "issued_at", .str p.issued_at), (js "valid_after", .str p.valid_after),
    (js "expires_at", .str p.expires_at), (js "signature", .str p.signature)] ++ p.others.entries

structure DomainPolicyV1 where
  domain : JsString
  others : OtherFields [js "domain"]

def DomainPolicyV1.toFields (p : DomainPolicyV1) : JsObject :=
  (js "domain", .str p.domain) :: p.others.entries

structure EvidenceCoverageV1 where
  coverage_bps : JsNumber
  others : OtherFields [js "coverage_bps"]

def EvidenceCoverageV1.toFields (c : EvidenceCoverageV1) : JsObject :=
  (js "coverage_bps", .num c.coverage_bps) :: c.others.entries

inductive GovernanceStatus where
  | sandbox
  | active
  | probation
  | research_only
  | revoked
  deriving DecidableEq

def GovernanceStatus.text : GovernanceStatus → JsString
  | .sandbox => js "sandbox"
  | .active => js "active"
  | .probation => js "probation"
  | .research_only => js "research_only"
  | .revoked => js "revoked"

inductive RedTeamResult where
  | pass
  | fail
  | not_run
  deriving DecidableEq

def RedTeamResult.text : RedTeamResult → JsString
  | .pass => js "pass"
  | .fail => js "fail"
  | .not_run => js "not_run"

inductive PromotionGateResult where
  | pass
  | fail
  | conditional
  | research_only
  deriving DecidableEq

def PromotionGateResult.text : PromotionGateResult → JsString
  | .pass => js "pass"
  | .fail => js "fail"
  | .conditional => js "conditional"
  | .research_only => js "research_only"

structure ProviderGovernanceStatusV1 where
  provider : TrustID
  status : GovernanceStatus
  model_registered : Bool
  red_team_result : RedTeamResult
  privacy_leakage_bps : JsNumber
  promotion_gate_result : PromotionGateResult
  issued_at : RFC3339
  signature : Option HexSig
  others : OtherFields [js "provider", js "status", js "model_registered", js "red_team_result",
    js "privacy_leakage_bps", js "promotion_gate_result", js "issued_at", js "signature"]

def ProviderGovernanceStatusV1.toFields (g : ProviderGovernanceStatusV1) : JsObject :=
  [(js "provider", JsValue.str g.provider), (js "status", .str g.status.text),
    (js "model_registered", .bool g.model_registered),
    (js "red_team_result", .str g.red_team_result.text),
    (js "privacy_leakage_bps", .num g.privacy_leakage_bps),
    (js "promotion_gate_result", .str g.promotion_gate_result.text),
    (js "issued_at", .str g.issued_at)] ++ optField (js "signature") .str g.signature ++
    g.others.entries

structure GateResult where
  schema_valid : Bool
  signature_valid : Bool
  key_active : Bool
  not_revoked : Bool
  included_in_log : Option Bool
  checkpoint_valid : Option Bool
  settlement_satisfied : Option Bool
  delegation_valid : Option Bool
  others : OtherFields [js "schema_valid", js "signature_valid", js "key_active",
    js "not_revoked", js "included_in_log", js "checkpoint_valid", js "settlement_satisfied",
    js "delegation_valid"]

def GateResult.toJs (g : GateResult) : JsValue :=
  .obj ([(js "schema_valid", JsValue.bool g.schema_valid),
    (js "signature_valid", .bool g.signature_valid),
    (js "key_active", .bool g.key_active), (js "not_revoked", .bool g.not_revoked)] ++
    optField (js "included_in_log") .bool g.included_in_log ++
    optField (js "checkpoint_valid") .bool g.checkpoint_valid ++
    optField (js "settlement_satisfied") .bool g.settlement_satisfied ++
    optField (js "delegation_valid") .bool g.delegation_valid ++ g.others.entries)

inductive AssessmentLabelV2 where
  | rated (label : AssessmentLabel) (h : label ≠ .revoked)
  | cryptographic_failure
  | revoked_or_compromised
  | settlement_missing
  | unsettled_or_unproven
  | delegation_missing

def AssessmentLabelV2.text : AssessmentLabelV2 → JsString
  | .rated label _ => label.text
  | .cryptographic_failure => js "cryptographic_failure"
  | .revoked_or_compromised => js "revoked_or_compromised"
  | .settlement_missing => js "settlement_missing"
  | .unsettled_or_unproven => js "unsettled_or_unproven"
  | .delegation_missing => js "delegation_missing"

/-- The label a valid assessment of version 2 is shown with. -/
def AssessmentLabelV2.risk : AssessmentLabelV2 → AssessmentLabel
  | .rated label _ => label
  | _ => .high_risk

structure TrustAssessmentV2 where
  subject : TrustID
  issuer : TrustID
  domain : JsString
  scoring_profile_id : JsString
  gate_result : GateResult
  coverage_bps : JsNumber
  label : AssessmentLabelV2
  evidence_coverage_commitment : Option Hex32
  issued_at : RFC3339
  expires_at : RFC3339
  signature : HexSig
  others : OtherFields [js "subject", js "issuer", js "domain", js "scoring_profile_id",
    js "gate_result", js "coverage_bps", js "label", js "evidence_coverage_commitment",
    js "issued_at", js "expires_at", js "signature"]

def TrustAssessmentV2.toFields (a : TrustAssessmentV2) : JsObject :=
  [(js "subject", JsValue.str a.subject), (js "issuer", .str a.issuer),
    (js "domain", .str a.domain),
    (js "scoring_profile_id", .str a.scoring_profile_id),
    (js "gate_result", a.gate_result.toJs), (js "coverage_bps", .num a.coverage_bps),
    (js "label", .str a.label.text)] ++
    optField (js "evidence_coverage_commitment") .str a.evidence_coverage_commitment ++
    [(js "issued_at", JsValue.str a.issued_at), (js "expires_at", .str a.expires_at),
    (js "signature", .str a.signature)] ++ a.others.entries

inductive ScopeClass where
  | local_only
  | pairwise_verifier
  | provider_ephemeral
  | public_commitment
  deriving DecidableEq

def ScopeClass.text : ScopeClass → JsString
  | .local_only => js "local_only"
  | .pairwise_verifier => js "pairwise_verifier"
  | .provider_ephemeral => js "provider_ephemeral"
  | .public_commitment => js "public_commitment"

structure MetadataFingerprintCommitmentV1 where
  subject : TrustID
  scope_class : ScopeClass
  expires_at : RFC3339
  signature : HexSig
  others : OtherFields [js "subject", js "scope_class", js "expires_at", js "signature"]

def MetadataFingerprintCommitmentV1.toFields (f : MetadataFingerprintCommitmentV1) : JsObject :=
  [(js "subject", JsValue.str f.subject), (js "scope_class", .str f.scope_class.text),
    (js "expires_at", .str f.expires_at), (js "signature", .str f.signature)] ++ f.others.entries

structure DisclosureConsentV1 where
  subject : TrustID
  verifier_or_provider : TrustID
  allowed_field_classes : List JsString
  forbidden_field_classes : List JsString
  purpose : JsString
  issued_at : RFC3339
  expires_at : RFC3339
  revocation_pointer : JsString
  signature : HexSig

def DisclosureConsentV1.toFields (c : DisclosureConsentV1) : JsObject :=
  [(js "type", .str (js "tsl.disclosure_consent.v1")), (js "subject", .str c.subject),
    (js "verifier_or_provider", .str c.verifier_or_provider),
    (js "allowed_field_classes", textList c.allowed_field_classes),
    (js "forbidden_field_classes", textList c.forbidden_field_classes),
    (js "purpose", .str c.purpose), (js "issued_at", .str c.issued_at),
    (js "expires_at", .str c.expires_at), (js "revocation_pointer", .str c.revocation_pointer),
    (js "signature", .str c.signature)]

inductive SeedClass where
  | trusted
  | adversarial
  deriving DecidableEq

def SeedClass.text : SeedClass → JsString
  | .trusted => js "trusted"
  | .adversarial => js "adversarial"

inductive ReviewState where
  | draft
  | reviewed
  | approved
  | rejected
  | revoked
  deriving DecidableEq

def ReviewState.text : ReviewState → JsString
  | .draft => js "draft"
  | .reviewed => js "reviewed"
  | .approved => js "approved"
  | .rejected => js "rejected"
  | .revoked => js "revoked"

structure SeedGovernanceProfileV1 where
  issuer : TrustID
  review_state : ReviewState
  seed_class : SeedClass
  seed_set_commitment : Hex32
  reviewed_at : RFC3339
  signature : Option HexSig
  others : OtherFields [js "issuer", js "review_state", js "seed_class",
    js "seed_set_commitment", js "reviewed_at", js "signature"]

def SeedGovernanceProfileV1.toFields (p : SeedGovernanceProfileV1) : JsObject :=
  [(js "issuer", JsValue.str p.issuer), (js "review_state", .str p.review_state.text),
    (js "seed_class", .str p.seed_class.text),
    (js "seed_set_commitment", .str p.seed_set_commitment),
    (js "reviewed_at", .str p.reviewed_at)] ++ optField (js "signature") .str p.signature ++
    p.others.entries

inductive ManifoldAlgorithm where
  | seed_distance_proxy_v1
  | centroid_covariance_v1
  deriving DecidableEq

def ManifoldAlgorithm.text : ManifoldAlgorithm → JsString
  | .seed_distance_proxy_v1 => js "seed_distance_proxy_v1"
  | .centroid_covariance_v1 => js "centroid_covariance_v1"

structure ManifoldProfile where
  algorithm : ManifoldAlgorithm
  trusted_centroid_commitment : Option Hex32
  adversarial_centroid_commitment : Option Hex32
  cluster_centroid_commitment : Option Hex32
  covariance_commitment : Option Hex32
  trusted_centroid_bps : Option (List JsNumber)
  adversarial_centroid_bps : Option (List JsNumber)
  cluster_centroid_bps : Option (List JsNumber)
  inverse_covariance_bps : Option (List (List JsNumber))
  others : OtherFields [js "algorithm", js "trusted_centroid_commitment",
    js "adversarial_centroid_commitment", js "cluster_centroid_commitment",
    js "covariance_commitment", js "trusted_centroid_bps", js "adversarial_centroid_bps",
    js "cluster_centroid_bps", js "inverse_covariance_bps"]

def numberRows (rows : List (List JsNumber)) : JsValue := .arr (rows.map numberList)

def ManifoldProfile.toJs (m : ManifoldProfile) : JsValue :=
  .obj ([(js "algorithm", JsValue.str m.algorithm.text)] ++
    optField (js "trusted_centroid_commitment") .str m.trusted_centroid_commitment ++
    optField (js "adversarial_centroid_commitment") .str m.adversarial_centroid_commitment ++
    optField (js "cluster_centroid_commitment") .str m.cluster_centroid_commitment ++
    optField (js "covariance_commitment") .str m.covariance_commitment ++
    optField (js "trusted_centroid_bps") numberList m.trusted_centroid_bps ++
    optField (js "adversarial_centroid_bps") numberList m.adversarial_centroid_bps ++
    optField (js "cluster_centroid_bps") numberList m.cluster_centroid_bps ++
    optField (js "inverse_covariance_bps") numberRows m.inverse_covariance_bps ++
    m.others.entries)

structure CommunityDetection where
  algorithm : JsString
  others : OtherFields [js "algorithm"]

def CommunityDetection.toJs (c : CommunityDetection) : JsValue :=
  .obj ((js "algorithm", .str c.algorithm) :: c.others.entries)

structure SeedSets where
  trusted_seed_commitment : Hex32
  adversarial_seed_commitment : Hex32
  trusted_seed_governance_commitment : Option Hex32
  adversarial_seed_governance_commitment : Option Hex32

def SeedSets.toJs (s : SeedSets) : JsValue :=
  .obj ([(js "trusted_seed_commitment", JsValue.str s.trusted_seed_commitment),
    (js "adversarial_seed_commitment", .str s.adversarial_seed_commitment)] ++
    optField (js "trusted_seed_governance_commitment") .str
      s.trusted_seed_governance_commitment ++
    optField (js "adversarial_seed_governance_commitment") .str
      s.adversarial_seed_governance_commitment)

structure GraphProfileV2 where
  profile_id : JsString
  community_detection : CommunityDetection
  seed_sets : SeedSets
  manifold_profile : Option ManifoldProfile
  others : OtherFields [js "profile_id", js "community_detection", js "seed_sets",
    js "manifold_profile"]

def GraphProfileV2.toFields (p : GraphProfileV2) : JsObject :=
  [(js "profile_id", .str p.profile_id), (js "community_detection", p.community_detection.toJs),
    (js "seed_sets", p.seed_sets.toJs)] ++
    optField (js "manifold_profile") ManifoldProfile.toJs p.manifold_profile ++ p.others.entries

inductive GraphDisclosureLevel where
  | aggregate_only
  | pairwise
  | local_only
  | «public»
  deriving DecidableEq

def GraphDisclosureLevel.text : GraphDisclosureLevel → JsString
  | .aggregate_only => js "aggregate_only"
  | .pairwise => js "pairwise"
  | .local_only => js "local_only"
  | .«public» => js "public"

/-- The measured components are among the other fields; they are compared by name. -/
structure GraphFeatureVectorV1 where
  subject : TrustID
  computed_at : RFC3339
  community_algorithm_id : Option JsString
  privacy_disclosure_level : GraphDisclosureLevel
  signature : HexSig
  others : OtherFields [js "subject", js "computed_at", js "community_algorithm_id",
    js "privacy_disclosure_level", js "signature"]

def GraphFeatureVectorV1.toFields (v : GraphFeatureVectorV1) : JsObject :=
  [(js "subject", JsValue.str v.subject), (js "computed_at", .str v.computed_at)] ++
    optField (js "community_algorithm_id") .str v.community_algorithm_id ++
    [(js "privacy_disclosure_level", JsValue.str v.privacy_disclosure_level.text),
    (js "signature", .str v.signature)] ++ v.others.entries

inductive AdversaryTier where
  | B0
  | B1
  | B2
  | B3
  | B4
  | B5
  deriving DecidableEq

def AdversaryTier.text : AdversaryTier → JsString
  | .B0 => js "B0"
  | .B1 => js "B1"
  | .B2 => js "B2"
  | .B3 => js "B3"
  | .B4 => js "B4"
  | .B5 => js "B5"

/-- The issuer is required by its type and still read as if it could be missing. -/
structure SybilAssessmentV1 where
  subject : TrustID
  issuer : Option TrustID
  computed_at : RFC3339
  adversary_tier_assumed : AdversaryTier
  compromise_evidence : Option JsObject
  issuer_collusion_evidence : Option JsObject
  infrastructure_collusion_evidence : Option JsObject
  signature : HexSig
  others : OtherFields [js "subject", js "issuer", js "computed_at",
    js "adversary_tier_assumed", js "compromise_evidence", js "issuer_collusion_evidence",
    js "infrastructure_collusion_evidence", js "signature"]

def SybilAssessmentV1.toFields (s : SybilAssessmentV1) : JsObject :=
  [(js "subject", JsValue.str s.subject)] ++ optField (js "issuer") .str s.issuer ++
    [(js "computed_at", JsValue.str s.computed_at),
    (js "adversary_tier_assumed", .str s.adversary_tier_assumed.text)] ++
    optField (js "compromise_evidence") .obj s.compromise_evidence ++
    optField (js "issuer_collusion_evidence") .obj s.issuer_collusion_evidence ++
    optField (js "infrastructure_collusion_evidence") .obj s.infrastructure_collusion_evidence ++
    [(js "signature", JsValue.str s.signature)] ++ s.others.entries

structure DriftReportV1 where
  subject : TrustID
  issuer : Option TrustID
  computed_at : RFC3339
  feature_history_commitment : Option Hex32
  covariance_profile_commitment : Option Hex32
  signature : HexSig
  others : OtherFields [js "subject", js "issuer", js "computed_at",
    js "feature_history_commitment", js "covariance_profile_commitment", js "signature"]

def DriftReportV1.toFields (d : DriftReportV1) : JsObject :=
  [(js "subject", JsValue.str d.subject)] ++ optField (js "issuer") .str d.issuer ++
    [(js "computed_at", JsValue.str d.computed_at)] ++
    optField (js "feature_history_commitment") .str d.feature_history_commitment ++
    optField (js "covariance_profile_commitment") .str d.covariance_profile_commitment ++
    [(js "signature", JsValue.str d.signature)] ++ d.others.entries

/-- The parts of a groth16 proof; a key may be any value. -/
structure Groth16Proof where
  proof : JsValue
  public_signals : List JsString
  verification_key : Option JsValue
  others : OtherFields [js "proof", js "public_signals", js "verification_key"]

def Groth16Proof.toJs (g : Groth16Proof) : JsValue :=
  .obj ([(js "proof", g.proof), (js "public_signals", textList g.public_signals)] ++
    optField (js "verification_key") id g.verification_key ++ g.others.entries)

structure ZkThresholdProofV1 where
  type : JsString
  claim : JsString
  subject : TrustID
  threshold : JsNumber
  witness_commitment : Hex32
  public_input_hash : Hex32
  proof : Hex32
  circuit_id : Option JsString
  verification_key_id : Option JsString
  public_signal_commitment : Option Hex32
  release_manifest_hash : Option Hex32
  groth16 : Option Groth16Proof
  others : OtherFields [js "type", js "claim", js "subject", js "threshold",
    js "witness_commitment", js "public_input_hash", js "proof", js "circuit_id",
    js "verification_key_id", js "public_signal_commitment", js "release_manifest_hash",
    js "groth16"]

def ZkThresholdProofV1.toFields (p : ZkThresholdProofV1) : JsObject :=
  [(js "type", JsValue.str p.type), (js "claim", .str p.claim), (js "subject", .str p.subject),
    (js "threshold", .num p.threshold), (js "witness_commitment", .str p.witness_commitment),
    (js "public_input_hash", .str p.public_input_hash), (js "proof", .str p.proof)] ++
    optField (js "circuit_id") .str p.circuit_id ++
    optField (js "verification_key_id") .str p.verification_key_id ++
    optField (js "public_signal_commitment") .str p.public_signal_commitment ++
    optField (js "release_manifest_hash") .str p.release_manifest_hash ++
    optField (js "groth16") Groth16Proof.toJs p.groth16 ++ p.others.entries

inductive ManifestStatus where
  | dev
  | draft
  | reviewed
  | candidate
  | active
  | revoked
  deriving DecidableEq

def ManifestStatus.text : ManifestStatus → JsString
  | .dev => js "dev"
  | .draft => js "draft"
  | .reviewed => js "reviewed"
  | .candidate => js "candidate"
  | .active => js "active"
  | .revoked => js "revoked"

inductive SignatureStatus where
  | unsigned
  | placeholder
  | externally_signed
  deriving DecidableEq

def SignatureStatus.text : SignatureStatus → JsString
  | .unsigned => js "unsigned"
  | .placeholder => js "placeholder"
  | .externally_signed => js "externally_signed"

structure ZkCircuitReleaseManifestV1 where
  circuit_id : JsString
  claim : JsString
  hash_suite : JsString
  witness_interface : JsString
  verification_key_id : JsString
  verification_key_hash : Hex32
  verification_key : Option JsValue
  public_signal_schema : Option JsObject
  private_witness_schema : Option JsObject
  soundness_bits : Option JsNumber
  privacy_notes : Option (List JsString)
  status : ManifestStatus
  signature_status : SignatureStatus
  signature : Option HexSig
  others : OtherFields [js "circuit_id", js "claim", js "hash_suite", js "witness_interface",
    js "verification_key_id", js "verification_key_hash", js "verification_key",
    js "public_signal_schema", js "private_witness_schema", js "soundness_bits",
    js "privacy_notes", js "status", js "signature_status", js "signature"]

def ZkCircuitReleaseManifestV1.toFields (m : ZkCircuitReleaseManifestV1) : JsObject :=
  [(js "circuit_id", JsValue.str m.circuit_id), (js "claim", .str m.claim),
    (js "hash_suite", .str m.hash_suite), (js "witness_interface", .str m.witness_interface),
    (js "verification_key_id", .str m.verification_key_id),
    (js "verification_key_hash", .str m.verification_key_hash)] ++
    optField (js "verification_key") id m.verification_key ++
    optField (js "public_signal_schema") .obj m.public_signal_schema ++
    optField (js "private_witness_schema") .obj m.private_witness_schema ++
    optField (js "soundness_bits") .num m.soundness_bits ++
    optField (js "privacy_notes") textList m.privacy_notes ++
    [(js "status", JsValue.str m.status.text),
    (js "signature_status", .str m.signature_status.text)] ++
    optField (js "signature") .str m.signature ++ m.others.entries

structure ZkVerificationKeyRegistryV1 where
  active_manifest_hashes : List Hex32
  revoked_manifest_hashes : List Hex32
  signature_status : SignatureStatus
  signature : Option HexSig
  others : OtherFields [js "active_manifest_hashes", js "revoked_manifest_hashes",
    js "signature_status", js "signature"]

def ZkVerificationKeyRegistryV1.toFields (r : ZkVerificationKeyRegistryV1) : JsObject :=
  [(js "active_manifest_hashes", textList r.active_manifest_hashes),
    (js "revoked_manifest_hashes", textList r.revoked_manifest_hashes),
    (js "signature_status", .str r.signature_status.text)] ++
    optField (js "signature") .str r.signature ++ r.others.entries

structure AgentDelegationV1 where
  type : JsString
  controller : TrustID
  controller_key_id : JsString
  agent : TrustID
  agent_key_id : JsString
  scope : List JsString
  issued_at : RFC3339
  expires_at : RFC3339
  controller_signature : HexSig
  agent_signature : HexSig
  others : OtherFields [js "type", js "controller", js "controller_key_id", js "agent",
    js "agent_key_id", js "scope", js "issued_at", js "expires_at", js "controller_signature",
    js "agent_signature"]

def AgentDelegationV1.toFields (d : AgentDelegationV1) : JsObject :=
  [(js "type", .str d.type), (js "controller", .str d.controller),
    (js "controller_key_id", .str d.controller_key_id), (js "agent", .str d.agent),
    (js "agent_key_id", .str d.agent_key_id), (js "scope", textList d.scope),
    (js "issued_at", .str d.issued_at), (js "expires_at", .str d.expires_at),
    (js "controller_signature", .str d.controller_signature),
    (js "agent_signature", .str d.agent_signature)] ++ d.others.entries

inductive DelegationEffect where
  | allow
  | deny
  deriving DecidableEq

def DelegationEffect.text : DelegationEffect → JsString
  | .allow => js "allow"
  | .deny => js "deny"

/-- The constraints of a policy, at the types to which the verifier casts them. -/
structure DelegationConstraints where
  max_value_minor_units : Option JsNumber
  currency : Option JsString
  allowed_tools : Option (List JsString)
  denied_tools : Option (List JsString)
  allowed_counterparty_commitments : Option (List JsString)
  max_actions_per_window : Option JsNumber
  observed_actions_in_window : Option JsNumber
  requires_human_approval : Option Bool
  requires_human_approval_above_minor_units : Option JsNumber
  others : OtherFields [js "max_value_minor_units", js "currency", js "allowed_tools",
    js "denied_tools", js "allowed_counterparty_commitments", js "max_actions_per_window",
    js "observed_actions_in_window", js "requires_human_approval",
    js "requires_human_approval_above_minor_units"]

def DelegationConstraints.toFields (c : DelegationConstraints) : JsObject :=
  optField (js "max_value_minor_units") .num c.max_value_minor_units ++
    optField (js "currency") .str c.currency ++
    optField (js "allowed_tools") textList c.allowed_tools ++
    optField (js "denied_tools") textList c.denied_tools ++
    optField (js "allowed_counterparty_commitments") textList
      c.allowed_counterparty_commitments ++
    optField (js "max_actions_per_window") .num c.max_actions_per_window ++
    optField (js "observed_actions_in_window") .num c.observed_actions_in_window ++
    optField (js "requires_human_approval") .bool c.requires_human_approval ++
    optField (js "requires_human_approval_above_minor_units") .num
      c.requires_human_approval_above_minor_units ++ c.others.entries

structure Subdelegation where
  allowed : Option Bool
  max_depth : Option JsNumber
  allowed_actions : Option (List JsString)
  others : OtherFields [js "allowed", js "max_depth", js "allowed_actions"]

def Subdelegation.toFields (s : Subdelegation) : JsObject :=
  optField (js "allowed") .bool s.allowed ++ optField (js "max_depth") .num s.max_depth ++
    optField (js "allowed_actions") textList s.allowed_actions ++ s.others.entries

structure DelegationPolicyV2 where
  policy_id : Hex32
  principal : TrustID
  delegate : TrustID
  effect : DelegationEffect
  actions : List JsString
  resources : List JsString
  constraints : DelegationConstraints
  subdelegation : Option Subdelegation
  /-- `some none` is `null`. -/
  parent_policy_id : Option (Option Hex32)
  valid_from : RFC3339
  valid_until : RFC3339
  revocation_pointer : JsString
  signature : HexSig
  others : OtherFields [js "policy_id", js "principal", js "delegate", js "effect", js "actions",
    js "resources", js "constraints", js "subdelegation", js "parent_policy_id", js "valid_from",
    js "valid_until", js "revocation_pointer", js "signature"]

def DelegationPolicyV2.toFields (p : DelegationPolicyV2) : JsObject :=
  [(js "policy_id", JsValue.str p.policy_id), (js "principal", .str p.principal),
    (js "delegate", .str p.delegate), (js "effect", .str p.effect.text),
    (js "actions", textList p.actions), (js "resources", textList p.resources),
    (js "constraints", .obj p.constraints.toFields)] ++
    optField (js "subdelegation") (fun s => .obj s.toFields) p.subdelegation ++
    optField (js "parent_policy_id") (fun id => id.elim .null .str) p.parent_policy_id ++
    [(js "valid_from", JsValue.str p.valid_from), (js "valid_until", .str p.valid_until),
    (js "revocation_pointer", .str p.revocation_pointer), (js "signature", .str p.signature)] ++
    p.others.entries

structure AgentActionV2 where
  agent : TrustID
  principal : TrustID
  action : JsString
  resource : JsString
  tool : Option JsString
  parameters_commitment : Hex32
  delegation_chain_root : Hex32
  value_minor_units : Option JsNumber
  human_approval_proof : Option JsString
  issued_at : RFC3339
  signature : HexSig
  others : OtherFields [js "agent", js "principal", js "action", js "resource", js "tool",
    js "parameters_commitment", js "delegation_chain_root", js "value_minor_units",
    js "human_approval_proof", js "issued_at", js "signature"]

def AgentActionV2.toFields (a : AgentActionV2) : JsObject :=
  [(js "agent", JsValue.str a.agent), (js "principal", .str a.principal),
    (js "action", .str a.action),
    (js "resource", .str a.resource)] ++ optField (js "tool") .str a.tool ++
    [(js "parameters_commitment", JsValue.str a.parameters_commitment),
    (js "delegation_chain_root", .str a.delegation_chain_root)] ++
    optField (js "value_minor_units") .num a.value_minor_units ++
    optField (js "human_approval_proof") .str a.human_approval_proof ++
    [(js "issued_at", JsValue.str a.issued_at), (js "signature", .str a.signature)] ++
    a.others.entries

inductive Severity where
  | info
  | warning
  | critical
  deriving DecidableEq

def Severity.text : Severity → JsString
  | .info => js "info"
  | .warning => js "warning"
  | .critical => js "critical"

structure AuditFindingV1 where
  auditor : TrustID
  checkpoint_hash : Option Hex32
  severity : Severity
  issued_at : RFC3339
  signature : HexSig
  others : OtherFields [js "auditor", js "checkpoint_hash", js "severity", js "issued_at",
    js "signature"]

def AuditFindingV1.toFields (f : AuditFindingV1) : JsObject :=
  [(js "auditor", JsValue.str f.auditor)] ++
    optField (js "checkpoint_hash") .str f.checkpoint_hash ++
    [(js "severity", JsValue.str f.severity.text), (js "issued_at", .str f.issued_at),
    (js "signature", .str f.signature)] ++ f.others.entries

structure GovernancePolicyV1 where
  policy_id : JsString
  authority : TrustID
  authority_key_id : JsString
  emergency_pause : Bool
  issued_at : RFC3339
  expires_at : Option RFC3339
  signature : HexSig
  others : OtherFields [js "policy_id", js "authority", js "authority_key_id",
    js "emergency_pause", js "issued_at", js "expires_at", js "signature"]

def GovernancePolicyV1.toFields (p : GovernancePolicyV1) : JsObject :=
  [(js "policy_id", JsValue.str p.policy_id), (js "authority", .str p.authority),
    (js "authority_key_id", .str p.authority_key_id),
    (js "emergency_pause", .bool p.emergency_pause), (js "issued_at", .str p.issued_at)] ++
    optField (js "expires_at") .str p.expires_at ++
    [(js "signature", JsValue.str p.signature)] ++ p.others.entries

structure RedactionManifest where
  raw_content_included : Bool
  content_salt_included : Option Bool
  exact_counterparties_included : Bool
  metadata_fields_redacted : List JsString

def RedactionManifest.toJs (m : RedactionManifest) : JsValue :=
  .obj ([(js "raw_content_included", JsValue.bool m.raw_content_included)] ++
    optField (js "content_salt_included") .bool m.content_salt_included ++
    [(js "exact_counterparties_included", JsValue.bool m.exact_counterparties_included),
    (js "metadata_fields_redacted", textList m.metadata_fields_redacted)])

structure MessageDisclosure where
  raw_message : Option JsString
  content_salt : Option JsString

def MessageDisclosure.toJs (m : MessageDisclosure) : JsValue :=
  .obj (optField (js "raw_message") .str m.raw_message ++
    optField (js "content_salt") .str m.content_salt)

end Continuity
