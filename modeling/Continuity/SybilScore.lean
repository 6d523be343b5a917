import Continuity.DelegatedAction
import Continuity.GraphFeatures

namespace Continuity
open Collections
set_option autoImplicit true

/-- What an adversary of a tier is assumed to be able to do. -/
structure TierConfig where
  risk_adjustment_bps : Int
  high_threshold_bps : Nat
  elevated_threshold_bps : Nat
  contamination_threshold_bps : Nat
  cost_multiplier_bps : Nat
  min_evidence_mass : Nat
  default_scenario : JsString

def tierPolicy : AdversaryTier → TierConfig
  | .B0 => ⟨-750, 7800, 6800, 3500, 7000, 500, js "low_capability_dense_farm"⟩
  | .B1 => ⟨-250, 7400, 6400, 3000, 8500, 750, js "basic_aged_farm"⟩
  | .B2 => ⟨0, 7000, 6500, 2500, 10000, 1000, js "reference_cluster_assessment"⟩
  | .B3 => ⟨400, 6600, 5900, 2200, 13500, 1250, js "compromised_account_cluster"⟩
  | .B4 => ⟨750, 6200, 5500, 1800, 18000, 1500, js "issuer_collusion_bridge"⟩
  | .B5 => ⟨1100, 5800, 5000, 1500, 25000, 2000, js "relay_provider_auditor_consistency_attack"⟩

structure SybilProfile where
  profile_id : Option JsString
  adversary_tier : Option AdversaryTier
  min_evidence_mass : Option JsNumber
  base_identity_cost_minor_units : Option JsNumber
  internal_edge_cost_minor_units : Option JsNumber
  time_aging_cost_minor_units : Option JsNumber
  external_receipt_cost_minor_units : Option JsNumber
  attestation_cost_minor_units : Option JsNumber
  compromise_cost_minor_units : Option JsNumber
  evasion_cost_minor_units : Option JsNumber
  expected_benefit_minor_units : Option JsNumber
  attack_scenario : Option JsString
  compromise_signals : Option JsObject
  issuer_collusion_signals : Option JsObject
  infrastructure_collusion_signals : Option JsObject
  compromise_evidence : Option JsObject
  issuer_collusion_evidence : Option JsObject
  infrastructure_collusion_evidence : Option JsObject

structure SybilInput where
  subject : TrustID
  issuer : Option TrustID
  graph : GraphV0
  graph_profile : GraphSettings
  trusted_seeds : Option (List TrustID)
  adversarial_seeds : Option (List TrustID)
  sybil_profile : Option SybilProfile
  evidence_commitment : Option Hex32
  computed_at : Option RFC3339
  signature : Option HexSig

section Numbers

/-- The middle of some whole numbers, rounded down between two. -/
def medianNumber (values : List Int) : Int :=
  let sorted := values.insertionSort (· ≤ ·)
  let middle := sorted.length / 2
  if sorted.length % 2 = 1 then sorted.getD middle 0
  else (sorted.getD (middle - 1) 0 + sorted.getD middle 0) / 2

def averageSignalBps (signal : Option JsObject) : Nat :=
  let values := (signal.getD []).filterMap fun field =>
    match field.2 with
    | .num n => some (clampBps n)
    | _ => none
  if values.isEmpty then 0 else min 10000 (values.sum / values.length)

/-- A count that is not there is zero. -/
def evidenceCount (evidence : JsObject) (field : String) : JsNumber :=
  match getField evidence (js field) with
  | .num n => n
  | _ => .ofNat 0

def evidenceCountSignalBps (evidence : JsObject) (fields : List String) : Nat :=
  let count := fields.foldl (fun sum field => sum + (evidenceCount evidence field).trunc.atLeastZero)
    (JsNumber.ofNat 0)
  clampBps ((JsNumber.ofNat 3).min count * .ofNat 10000 / .ofNat 3).floor

def sigmoidRiskBps (E : Engine) (signalBps : Nat) : Nat :=
  let centered := JsNumber.ofInt (signalBps - 5000) / .ofNat 900
  clampBps (JsNumber.ofNat 1 / (.ofNat 1 + E.math.exp (-centered)) * .ofNat 10000).floor

end Numbers

def isReceiptGraphEdge (edge : GraphEdgeV0) : Bool :=
  [js "received", js "replied", js "transacted", js "completed", js "disputed"].contains edge.type ||
    includesUnits edge.type (js "receipt")

section Assessment

variable (E : Engine) (input : SybilInput)

def SybilInput.tier : AdversaryTier := (input.sybil_profile.bind SybilProfile.adversary_tier).getD .B2

def SybilInput.number (field : SybilProfile → Option JsNumber) (default_ : Nat) : JsNumber :=
  (input.sybil_profile.bind field).getD (.ofNat default_)

def edgeMass (edges : List GraphEdgeV0) : Nat :=
  (edges.map (positiveWeight (some input.graph_profile))).sum

/-- What flows each way between two nodes. -/
structure PairFlow where
  forward : Nat
  reverse : Nat

def receiptPairs (edges : List GraphEdgeV0) : OrderedMap JsString PairFlow :=
  edges.foldl (fun pairs edge =>
    let pair := (pairs.get? (pairKey edge)).getD ⟨0, 0⟩
    let mass := positiveWeight (some input.graph_profile) edge
    pairs.set (pairKey edge) (if unitsLe edge.src edge.dst then
      { pair with forward := pair.forward + mass } else
      { pair with reverse := pair.reverse + mass })) .empty

/-- How close together the edges of a cluster were made. -/
def creationSyncBps (edges : List GraphEdgeV0) : Nat :=
  let times := edges.filterMap fun edge => E.host.parse (edge.created_at.getD edge.timestamp)
  let median := medianNumber times
  let mad := max 1 (medianNumber (times.map fun time => ((time - median).natAbs : Int)))
  if times.length < 2 then 0 else 10000 - bps mad.toNat 2592000000

/-- The share of the issuer that issued most of the edges. -/
def issuerReuseBps (edges : List GraphEdgeV0) : Nat :=
  let issuers := (edges.filterMap GraphEdgeV0.issuer).filter fun issuer => !issuer.isEmpty
  bps ((issuers.map fun issuer => issuers.count issuer).foldl max 0) issuers.length

structure SybilSignals where
  compromise : Option JsObject
  issuer_collusion : Option JsObject
  infrastructure_collusion : Option JsObject

def countField (name : String) (evidence : JsObject) (fields : List String) : JsString × JsValue :=
  (js name, .num (.ofNat (evidenceCountSignalBps evidence fields)))

def sybilSignalObjects (issuerReuse : Nat) : SybilSignals :=
  let override (field : SybilProfile → Option JsObject) : Option JsObject :=
    if E.host.flag "TSL_DEV_SYBIL_SIGNALS" then input.sybil_profile.bind field else none
  { compromise := ((input.sybil_profile.bind SybilProfile.compromise_evidence).map fun e =>
      [countField "key_revocation_bps" e ["key_revocation_count"],
        countField "severe_drift_bps" e ["severe_drift_count"],
        countField "recovery_anomaly_bps" e ["recovery_anomaly_count"]]).or
      (override SybilProfile.compromise_signals)
    issuer_collusion :=
      ((input.sybil_profile.bind SybilProfile.issuer_collusion_evidence).map fun e =>
        [countField "issuer_reversal_bps" e ["issuer_reversal_count"],
          (js "issuer_reuse_bps", .num (.ofNat issuerReuse)),
          countField "low_quality_issuer_bps" e ["low_quality_issuer_count"],
          countField "collusion_indicator_bps" e
            ["false_attestation_count", "collusion_indicator_count"]]).or
      (override SybilProfile.issuer_collusion_signals)
    infrastructure_collusion :=
      ((input.sybil_profile.bind SybilProfile.infrastructure_collusion_evidence).map fun e =>
        [countField "checkpoint_conflict_bps" e ["checkpoint_conflict_count"],
          countField "provider_auditor_disagreement_bps" e
            ["provider_auditor_disagreement_count"],
          countField "settlement_anomaly_bps" e
            ["settlement_anomaly_count", "selective_visibility_count"]]).or
      (override SybilProfile.infrastructure_collusion_signals) }

/-- The part of a signal that its tier adds to the risk. -/
def behavioralRiskAdjustment (tier : AdversaryTier) (compromise issuer infrastructure : Nat) :
    JsNumber :=
  match tier with
  | .B3 => (JsNumber.ofNat compromise * .rounded (35 / 100)).floor
  | .B4 => (JsNumber.ofNat issuer * .rounded (4 / 10)).floor
  | .B5 => (JsNumber.ofNat infrastructure * .rounded (45 / 100)).floor
  | _ => .ofNat 0

structure SybilMeasures where
  cluster_size : Nat
  cluster_concentration_bps : Nat
  trusted_escape_bps : Nat
  internal_receipt_ratio_bps : Nat
  creation_sync_bps : Nat
  issuer_reuse_bps : Nat
  external_diversity_bps : Nat
  seed_contamination_bps : Nat
  receipt_symmetry_bps : Nat
  attack_cost_minor_units : JsNumber
  cost_components : List (JsString × JsNumber)
  signals : SybilSignals
  risk_score_bps : Nat
  risk_label : JsString

/-- `Math.floor((amount * multiplier) / 10000)`. -/
def costShare (amount : JsNumber) (multiplier : Nat) : JsNumber :=
  (amount * .ofNat multiplier / .ofNat 10000).floor

def sybilMeasures : SybilMeasures :=
  let graph := input.graph
  let cluster := componentOfSubject E graph (some input.graph_profile) input.subject
  let trusted := input.trusted_seeds.getD []
  let adversarial := input.adversarial_seeds.getD []
  let tier := input.tier
  let config := tierPolicy tier
  let internalEdges := graph.edges.filter fun edge =>
    cluster.contains edge.src && cluster.contains edge.dst
  let touchingEdges := graph.edges.filter fun edge =>
    cluster.contains edge.src || cluster.contains edge.dst
  let outboundEdges := graph.edges.filter fun edge => cluster.contains edge.src
  let internalMass := edgeMass input internalEdges
  let touchingMass := edgeMass input outboundEdges
  let externalEdges := touchingEdges.filter fun edge =>
    !(cluster.contains edge.src && cluster.contains edge.dst)
  let trustedMass := edgeMass input (outboundEdges.filter fun edge =>
    !cluster.contains edge.dst && trusted.contains edge.dst)
  let adversarialMass := edgeMass input (touchingEdges.filter fun edge =>
    adversarial.contains edge.src || adversarial.contains edge.dst)
  let concentration := bps internalMass touchingMass
  let trustedEscape := bps trustedMass touchingMass
  let receiptRatio := bps (edgeMass input (internalEdges.filter isReceiptGraphEdge))
    (edgeMass input (outboundEdges.filter isReceiptGraphEdge))
  let pairs := (receiptPairs input (internalEdges.filter isReceiptGraphEdge)).values
  let symmetry := bps (pairs.map fun pair => min pair.forward pair.reverse).sum
    (pairs.map fun pair => max pair.forward pair.reverse).sum
  let creationSync := creationSyncBps E internalEdges
  let issuerReuse := issuerReuseBps internalEdges
  let externalMasses := externalEdges.foldl (fun masses edge =>
    addMass masses (if cluster.contains edge.src then edge.dst else edge.src)
      (positiveWeight (some input.graph_profile) edge)) (OrderedMap.empty : OrderedMap TrustID Nat)
  let externalMass := externalMasses.values.sum
  let externalDiversity := clampBps (.ofNat 10000 - communityHhi E externalMasses.values)
  let contamination := bps adversarialMass touchingMass
  let signals := sybilSignalObjects E input issuerReuse
  let compromise := averageSignalBps signals.compromise
  let issuer := averageSignalBps signals.issuer_collusion
  let infrastructure := averageSignalBps signals.infrastructure_collusion
  let weighted := concentration * 20 + receiptRatio * 12 + symmetry * 8 + creationSync * 12 +
    issuerReuse * 10 + contamination * 22 + (10000 - trustedEscape) * 10 +
    (10000 - externalDiversity) * 6
  let risk := sigmoidRiskBps E (clampBps
    (JsNumber.ofInt ((weighted / 100 : Nat) + config.risk_adjustment_bps) +
      behavioralRiskAdjustment tier compromise issuer infrastructure))
  let size := JsNumber.ofNat cluster.length
  let attestations := (internalEdges.filter fun edge =>
    includesUnits edge.type (js "attestation")).length
  let costs : List (JsString × JsNumber) :=
    [(js "identity_cost_minor_units", costShare
        (size * input.number SybilProfile.base_identity_cost_minor_units 25000)
        config.cost_multiplier_bps),
      (js "time_aging_cost_minor_units", costShare
        (size * input.number SybilProfile.time_aging_cost_minor_units 1000)
        config.cost_multiplier_bps),
      (js "external_receipt_cost_minor_units", costShare
        (JsNumber.ofNat externalMass / .ofNat 10000 *
          input.number SybilProfile.external_receipt_cost_minor_units 7500)
        config.cost_multiplier_bps),
      (js "attestation_cost_minor_units", costShare
        (.ofNat attestations * input.number SybilProfile.attestation_cost_minor_units 10000)
        config.cost_multiplier_bps),
      (js "compromise_cost_minor_units", costShare
        (input.number SybilProfile.compromise_cost_minor_units 0 * .ofNat (max 1 compromise) /
          .ofNat 10000) config.cost_multiplier_bps),
      (js "evasion_cost_minor_units", costShare
        (JsNumber.ofNat risk / .ofNat 10000 *
          input.number SybilProfile.evasion_cost_minor_units 5000) config.cost_multiplier_bps),
      (js "issuer_collusion_cost_minor_units", costShare
        (JsNumber.ofNat issuer / .ofNat 10000 * .ofNat 15000) config.cost_multiplier_bps),
      (js "infrastructure_consistency_cost_minor_units", costShare
        (JsNumber.ofNat infrastructure / .ofNat 10000 * .ofNat 25000) config.cost_multiplier_bps)]
  let attackCost := costs.foldl (fun sum cost => sum + cost.2) (.ofNat 0) +
    .ofNat (internalMass / 10000) * input.number SybilProfile.internal_edge_cost_minor_units 5000
  let benefit := input.number SybilProfile.expected_benefit_minor_units 0
  let economicsFailed := (JsNumber.ofNat 0).lt benefit && attackCost.le benefit
  let minimum := input.number SybilProfile.min_evidence_mass config.min_evidence_mass
  let label :=
    if (JsNumber.ofNat touchingMass).lt minimum then js "insufficient_evidence"
    else if economicsFailed then js "high"
    else if concentration > 8500 ∧ trustedEscape < 500 then js "high"
    else if tier = .B5 ∧ infrastructure ≥ 5000 then js "high"
    else if tier = .B4 ∧ issuer ≥ 5000 then js "high"
    else if tier = .B3 ∧ compromise ≥ 5000 then js "elevated"
    else if contamination > config.contamination_threshold_bps then js "elevated"
    else if risk ≥ config.high_threshold_bps then js "high"
    else if risk ≥ config.elevated_threshold_bps then js "elevated"
    else if receiptRatio > 7500 ∧ trustedEscape < 1500 then js "medium"
    else js "low"
  { cluster_size := cluster.length
    cluster_concentration_bps := concentration
    trusted_escape_bps := trustedEscape
    internal_receipt_ratio_bps := receiptRatio
    creation_sync_bps := creationSync
    issuer_reuse_bps := issuerReuse
    external_diversity_bps := externalDiversity
    seed_contamination_bps := contamination
    receipt_symmetry_bps := symmetry
    attack_cost_minor_units := attackCost.atLeastZero
    cost_components := costs
    signals
    risk_score_bps := risk
    risk_label := label }

structure SybilAssessment where
  subject : TrustID
  issuer : TrustID
  sybil_profile_id : JsString
  graph_profile_id : JsString
  seed_set_commitment : Hex32
  evidence_commitment : Hex32
  cluster_id_commitment : Hex32
  computed_at : RFC3339
  adversary_tier_assumed : AdversaryTier
  cluster_size_bucket : JsString
  measures : SybilMeasures
  expected_benefit_minor_units : JsNumber
  attack_scenario : JsString
  compromise_evidence : Option JsObject
  issuer_collusion_evidence : Option JsObject
  infrastructure_collusion_evidence : Option JsObject
  scenario_evidence_checks : List JsString
  signature : HexSig

def scenarioEvidenceChecks : AdversaryTier → List JsString
  | .B3 => [js "key_revocation", js "drift_compromise", js "recovery_anomaly"]
  | .B4 => [js "issuer_reversal", js "issuer_quality", js "collusion_indicator"]
  | .B5 => [js "checkpoint_conflict", js "provider_auditor_disagreement", js "settlement_anomaly"]
  | _ => []

def seedSet (seeds : Option (List TrustID)) : JsValue :=
  textList (sortStrings (unique (seeds.getD [])))

/-- The stated commitment, or the hash of the graph and of the seeds. -/
def sybilEvidenceCommitment (seed_set_commitment : Hex32) : Js Hex32 :=
  match input.evidence_commitment with
  | some commitment => return commitment
  | none => do
    let graph_hash ← canonicalHash E.host.noble input.graph.toJs
    canonicalHash E.host.noble (.obj [(js "graph_hash", .str graph_hash),
      (js "seed_set_commitment", .str seed_set_commitment)])

def computeSybilAssessmentV0 : Js SybilAssessment := do
  let measures := sybilMeasures E input
  let seed_set_commitment ← canonicalHash E.host.noble (.obj
    [(js "trusted", seedSet input.trusted_seeds), (js "adversarial", seedSet input.adversarial_seeds),
      (js "graph_profile_id", .str input.graph_profile.profile_id)])
  let evidence_commitment ← sybilEvidenceCommitment E input seed_set_commitment
  let cluster_id_commitment ← canonicalHash E.host.noble (.obj [(js "subject", .str input.subject),
    (js "graph_profile_id", .str input.graph_profile.profile_id)])
  let size := natText measures.cluster_size
  return {
    subject := input.subject
    issuer := input.issuer.getD (js "did:tsl:provider:reference-sybil")
    sybil_profile_id :=
      (input.sybil_profile.bind SybilProfile.profile_id).getD (js "sybil-reference-v0")
    graph_profile_id := input.graph_profile.profile_id
    seed_set_commitment
    evidence_commitment
    cluster_id_commitment
    computed_at := input.computed_at.getD E.host.nowText
    adversary_tier_assumed := input.tier
    cluster_size_bucket := size ++ js "-" ++ size
    measures
    expected_benefit_minor_units := input.number SybilProfile.expected_benefit_minor_units 0
    attack_scenario := (input.sybil_profile.bind SybilProfile.attack_scenario).getD
      (tierPolicy input.tier).default_scenario
    compromise_evidence := input.sybil_profile.bind SybilProfile.compromise_evidence
    issuer_collusion_evidence := input.sybil_profile.bind SybilProfile.issuer_collusion_evidence
    infrastructure_collusion_evidence :=
      input.sybil_profile.bind SybilProfile.infrastructure_collusion_evidence
    scenario_evidence_checks := scenarioEvidenceChecks input.tier
    signature := input.signature.getD (js "0x00") }

end Assessment

end Continuity
