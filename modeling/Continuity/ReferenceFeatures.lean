import Continuity.DriftReport
import Continuity.GraphOrder

namespace Continuity
open Collections
set_option autoImplicit true

/-- The checks of a verification that the features read. -/
structure FeatureChecks where
  signature_valid : Option Bool
  key_active : Option Bool
  not_revoked : Option Bool

/-- The score and the coverage of a neighbour. -/
structure NeighborScore where
  score_bps : JsNumber
  coverage_bps : JsNumber

structure ReferenceFeatureVectorV0Input where
  subject : TrustID
  identity : Option IdentityDocumentV1
  envelope : EventCommitmentV1
  receipts : Option (List ReceiptCommitmentV1)
  attestations : Option (List AttestationV1)
  attestations_v2 : Option (List AttestationV2)
  graph_feature_vector : Option GraphFeatureVectorV1
  sybil_assessment : Option SybilAssessmentV1
  drift_report : Option DriftReportV1
  verification_checks : Option FeatureChecks
  local_relationship_bps : Option JsNumber
  local_relationship_disclosed : Option Bool
  key_rotation_recovery_valid : Option Bool
  valid_signed_event_count : Option JsNumber
  clustered_receipt_count : Option JsNumber
  cadence_intervals_ms : Option (List JsNumber)
  trusted_neighbor_scores_bps : Option (OrderedMap TrustID NeighborScore)
  trusted_neighbor_edge_weights_bps : Option (OrderedMap TrustID JsNumber)
  computed_at : Option RFC3339

/-- The features by their names; a missing number is left undefined. -/
structure ReferenceFeatureVectorV0 where
  crypto_validity : Nat
  identity_age : Nat
  active_key_age : Nat
  identity_key_age : Nat
  signed_event_count : Nat
  receipt_count : Nat
  counterparty_diversity : Nat
  community_escape : JsNumber
  trusted_neighbor_mass : JsNumber
  dispute_rate : Nat
  attestation_quality : Nat
  revocation_risk : Nat
  cadence : Nat
  dormant_reactivation : Nat
  adversarial_proximity : Nat
  local_relationship : Option Nat
  reciprocity : JsNumber
  receipt_quality : Nat
  temporal_consistency : Nat
  sybil_resistance : Option Nat
  cluster_concentration : Option JsNumber

section Helpers

variable (E : Engine)

def expSaturationBps (value cap scale : JsNumber) : Nat :=
  let capped := (value.min cap).atLeastZero
  clampBps ((JsNumber.ofNat 1 - E.math.exp (-capped / scale)) * .ofNat 10000).floor

def logCountBps (value cap : JsNumber) : Nat :=
  clampBps (E.math.log (.ofNat 1 + value.atLeastZero) / E.math.log (.ofNat 1 + cap) *
    .ofNat 10000).floor

/-- `values.sort((a, b) => a - b)`. -/
def sortNumbers (values : List JsNumber) : List JsNumber :=
  values.insertionSort fun a b => !b.lt a

def middleNumber (sorted : List JsNumber) : JsNumber :=
  let entry (index : Nat) : JsNumber := sorted[index]?.getD .nan
  if sorted.length % 2 = 1 then entry (sorted.length / 2)
  else ((entry (sorted.length / 2 - 1) + entry (sorted.length / 2)) / .ofNat 2).floor

def cadenceStabilityBps (intervals : Option (List JsNumber)) : Option Nat :=
  match intervals with
  | none => none
  | some intervals =>
    if intervals.length < 3 then none
    else
      let sorted := sortNumbers (intervals.map fun value => value.trunc.atLeastZero)
      let median := middleNumber sorted
      let deviations := sortNumbers (sorted.map fun value => (value - median).abs)
      let mad := (JsNumber.ofNat 1).max (middleNumber deviations)
      let latest := sorted.getLast?.getD median
      let madz := ((latest - median).abs * .ofNat 1000 / mad).floor
      some (clampBps (.ofNat 10000 - ((JsNumber.ofNat 8000).min madz * .ofNat 10000 /
        .ofNat 8000).floor))

/-- A number that an object holds under a name. -/
def numberOf (object : JsObject) (name : String) : Option JsNumber :=
  match getField object (js name) with
  | .num n => some n
  | _ => none

/-- `Math.floor((at - Date.parse(text)) / 86400000)`, at least zero. -/
def ageInDays (time : JsNumber) (text : RFC3339) : JsNumber :=
  ((time - parsedTime E.host text) / .ofNat 86400000).floor.atLeastZero

end Helpers

def isDisputed (receipt : ReceiptCommitmentV1) : Bool :=
  match receipt.receipt_class with
  | .disputed => true
  | _ => false

def receiptClusterId (receipt : ReceiptCommitmentV1) : JsString :=
  receipt.metadata_commitment.getD receipt.receiver

def disputedReceipts (receipts : List ReceiptCommitmentV1) : Nat :=
  (receipts.filter isDisputed).length

/-- The share of disputed receipts as the features score it. -/
def disputeRate (receipts : List ReceiptCommitmentV1) : Nat :=
  if receipts.isEmpty then 0
  else bps (disputedReceipts receipts) (receipts.length + disputedReceipts receipts)

section Attestations

variable (E : Engine)

/-- An attestation without an end, or with one after the time. -/
def nonExpired (time : JsNumber) (attestation : JsObject) : Bool :=
  match getField attestation (js "expires_at") with
  | .str text => text.isEmpty || time.lt (parsedTime E.host text)
  | _ => true

/-- `object[name] === text`. -/
def fieldIs (object : JsObject) (name text : String) : Bool :=
  strictEq (getField object (js name)) (.str (js text))

/-- What an attestation adds to its quality. -/
def attestationWorth (attestation : JsObject) : Int :=
  if fieldIs attestation "claim_polarity" "negative" then -1000
  else if fieldIs attestation "appeal_status" "reversed" then 0
  else if fieldIs attestation "severity" "critical" then max 0 (2000 - 2500)
  else if fieldIs attestation "severity" "high" then max 0 (2000 - 1500)
  else if fieldIs attestation "severity" "medium" then max 0 (2000 - 750)
  else max 0 (2000 - 0)

end Attestations

section Neighbors

variable (scores : OrderedMap TrustID NeighborScore) (weights : OrderedMap TrustID JsNumber)

def neighborWeight (id : TrustID) : Nat := clampBps ((weights.get? id).getD (.ofNat 0))

def trustedNeighborMass (graph : JsObject) : JsNumber :=
  let denominator := (scores.keys.map (neighborWeight weights)).sum
  if scores.entries.isEmpty then (numberOf graph "trusted_neighbor_mass_bps").getD (.ofNat 0)
  else if 0 < denominator then
    let total := (scores.entries.map fun entry => neighborWeight weights entry.1 *
      clampBps entry.2.score_bps * clampBps entry.2.coverage_bps / 100000000).sum
    .ofNat (clampBps (JsNumber.ofNat total /
      (JsNumber.ofNat 1).max (.ofNat denominator / .ofNat 10000)).floor)
  else
    let total := (scores.values.map fun value =>
      clampBps value.score_bps * clampBps value.coverage_bps / 10000).sum
    .ofNat (min 10000 (total / scores.entries.length))

end Neighbors

def extractReferenceFeatureVectorV0 (E : Engine) (input : ReferenceFeatureVectorV0Input) :
    ReferenceFeatureVectorV0 :=
  let time := parsedTime E.host (input.computed_at.getD input.envelope.timestamp)
  let age (text : Option RFC3339) (otherwise : JsNumber) : JsNumber :=
    if truthy text then ageInDays E time (text.getD []) else otherwise
  let identityAgeDays := age (input.identity.map IdentityDocumentV1.created_at) (.ofNat 0)
  let activeKey := input.identity.bind fun identity =>
    identity.verification_methods.find? fun method => decide (method.status = .active)
  let rawActiveKeyAgeDays := age (activeKey.map VerificationMethodV1.created_at) identityAgeDays
  let activeKeyAgeDays :=
    if isOn input.key_rotation_recovery_valid then rawActiveKeyAgeDays.max identityAgeDays
    else rawActiveKeyAgeDays
  let receipts := input.receipts.getD []
  let counterparties := (unique (receipts.map receiptClusterId)).length
  let attestations := (input.attestations.getD []).map AttestationV1.toFields ++
    (input.attestations_v2.getD []).map AttestationV2.toFields
  let worth := ((attestations.filter (nonExpired E time)).map attestationWorth).sum
  let graph := (input.graph_feature_vector.map GraphFeatureVectorV1.toFields).getD []
  let sybil := (input.sybil_assessment.map SybilAssessmentV1.toFields).getD []
  let drift := (input.drift_report.map DriftReportV1.toFields).getD []
  let components := match getField drift (js "component_scores_bps") with
    | .obj fields => fields
    | _ => []
  let checks := input.verification_checks.getD ⟨none, none, none⟩
  let signatureOk := checks.signature_valid == some true
  let keyOk := checks.key_active != some false && checks.not_revoked != some false
  let below (value : JsNumber) : Nat := clampBps (.ofNat 10000 - value)
  {
    crypto_validity := if signatureOk && keyOk then 10000 else 0
    identity_age := expSaturationBps E identityAgeDays (.ofNat 730) (.ofNat 180)
    active_key_age := expSaturationBps E activeKeyAgeDays (.ofNat 365) (.ofNat 90)
    identity_key_age := clampBps (identityAgeDays.min activeKeyAgeDays / .ofNat 365 *
      .ofNat 10000).floor
    signed_event_count := logCountBps E (input.valid_signed_event_count.getD
      (.ofNat (if signatureOk then 1 else 0))) (.ofNat 1000)
    receipt_count := logCountBps E (input.clustered_receipt_count.getD (.ofNat counterparties))
      (.ofNat 300)
    counterparty_diversity :=
      if input.graph_feature_vector.isSome then
        below ((numberOf graph "counterparty_hhi_bps").getD .nan)
      else min 10000 (counterparties * 2000)
    community_escape := (numberOf graph "community_escape_bps").getD (.ofNat 0)
    trusted_neighbor_mass := trustedNeighborMass (input.trusted_neighbor_scores_bps.getD .empty)
      (input.trusted_neighbor_edge_weights_bps.getD .empty) graph
    dispute_rate := disputeRate receipts
    attestation_quality := clampBps (.ofInt worth)
    revocation_risk := if checks.not_revoked == some false then 0 else 10000
    cadence := (cadenceStabilityBps input.cadence_intervals_ms).getD
      (((numberOf components "cadence").map below).getD 5000)
    dormant_reactivation := if fieldIs drift "drift_label" "dormant_reactivation" then 0 else 10000
    adversarial_proximity :=
      match numberOf graph "adversarial_seed_distance_bps" with
      | some distance => clampBps (E.math.exp (-(E.math.pow
          ((.ofNat 10000 - distance) / .ofNat 10000) (.ofNat 2))) * .ofNat 10000).floor
      | none => below (((numberOf graph "adversarial_proximity_bps").or
          (numberOf sybil "seed_contamination_bps")).getD (.ofNat 0))
    local_relationship :=
      if isOn input.local_relationship_disclosed then input.local_relationship_bps.map clampBps
      else none
    reciprocity := (numberOf graph "reciprocity_bps").getD (.ofNat 0)
    receipt_quality := min 10000 (receipts.length * 1000 + counterparties * 500)
    temporal_consistency :=
      if input.drift_report.isSome then below ((numberOf drift "drift_score_bps").getD (.ofNat 0))
      else 5000
    sybil_resistance := (numberOf sybil "risk_score_bps").map below
    cluster_concentration := numberOf graph "cluster_concentration_bps" }

section DisputeRate

theorem disputedReceipts_le (receipts : List ReceiptCommitmentV1) :
    disputedReceipts receipts ≤ receipts.length :=
  List.length_filter_le _ _

theorem disputeRate_eq {receipts : List ReceiptCommitmentV1} (h : receipts ≠ []) :
    disputeRate receipts = disputedReceipts receipts * 10000 /
      (receipts.length + disputedReceipts receipts) := by
  have hpos : 0 < receipts.length := List.length_pos_of_ne_nil h
  have hle := disputedReceipts_le receipts
  have hsmall : disputedReceipts receipts * 10000 /
      (receipts.length + disputedReceipts receipts) ≤ 10000 := by
    apply Nat.div_le_of_le_mul
    nlinarith
  rw [disputeRate, if_neg (by simpa using h), bps, if_neg (by omega), min_eq_right hsmall]

/-- The scored rate and the proved bound agree exactly when no bound lies between the share of all
receipts and the share that counts the disputed ones twice. -/
theorem dispute_rate_agrees_iff (E : Engine) (input : ReferenceFeatureVectorV0Input)
    (receipts : List ReceiptCommitmentV1) (hr : input.receipts = some receipts)
    (hne : receipts ≠ []) :
    let n := receipts.length
    let d := disputedReceipts receipts
    let r := (extractReferenceFeatureVectorV0 E input).dispute_rate
    (∀ bound ≤ 10000, ((d * 10000 ≤ bound * n → r ≤ bound) ∧ (r < bound → d * 10000 ≤ bound * n)) ↔
      (d * 10000 ≤ bound * n ∨ bound * (n + d) ≤ d * 10000)) ∧
    (r = d * 10000 / n ↔ ∀ bound ≤ 10000, bound * n ≤ d * 10000 → bound * (n + d) ≤ d * 10000) := by
  intro n d r
  have hpos : 0 < n := List.length_pos_of_ne_nil hne
  have hle : d ≤ n := disputedReceipts_le receipts
  have hrate : r = d * 10000 / (n + d) := by
    show disputeRate (input.receipts.getD []) = _
    rw [hr]
    exact disputeRate_eq hne
  have hlower : r ≤ d * 10000 / n := by
    rw [hrate]
    exact Nat.div_le_div_left (Nat.le_add_right n d) hpos
  constructor
  · intro bound _
    have hproved : d * 10000 ≤ bound * n → r ≤ bound := by
      intro h
      refine hlower.trans (Nat.div_le_of_le_mul ?_)
      rwa [Nat.mul_comm n bound]
    have hscored : r < bound ↔ ¬ bound * (n + d) ≤ d * 10000 := by
      rw [hrate, Nat.div_lt_iff_lt_mul (by omega), not_le]
    rw [and_iff_right hproved, hscored]
    exact ⟨fun h => or_iff_not_imp_right.mpr h, fun h hn => h.resolve_right hn⟩
  · constructor
    · intro he bound _ hbound
      have hquotient : bound ≤ d * 10000 / n := (Nat.le_div_iff_mul_le hpos).mpr hbound
      rw [← he, hrate] at hquotient
      exact (Nat.le_div_iff_mul_le (by omega)).mp hquotient
    · intro h
      refine hlower.antisymm ?_
      have hsmall : d * 10000 / n ≤ 10000 := by
        apply Nat.div_le_of_le_mul
        exact Nat.mul_le_mul_right 10000 hle
      have hdouble := h (d * 10000 / n) hsmall (Nat.div_mul_le_self _ _)
      rw [hrate]
      exact (Nat.le_div_iff_mul_le (by omega)).mpr hdouble

def receiptOf (receipt_class : ReceiptClass) : ReceiptCommitmentV1 where
  event_commitment := hex32 1
  receiver := js "did:tsl:bob"
  signing_key_id := js "#k1"
  receipt_class := receipt_class
  timestamp := js "2026-05-25T00:00:00Z"
  metadata_commitment := none
  signature := js "0x00"

/-- The input of a subject who shows receipts alone. -/
def receiptsInput (receipts : List ReceiptCommitmentV1) : ReferenceFeatureVectorV0Input where
  subject := js "did:tsl:alice"
  identity := none
  envelope := sampleEnvelope
  receipts := some receipts
  attestations := none
  attestations_v2 := none
  graph_feature_vector := none
  sybil_assessment := none
  drift_report := none
  verification_checks := none
  local_relationship_bps := none
  local_relationship_disclosed := none
  key_rotation_recovery_valid := none
  valid_signed_event_count := none
  clustered_receipt_count := none
  cadence_intervals_ms := none
  trusted_neighbor_scores_bps := none
  trusted_neighbor_edge_weights_bps := none
  computed_at := none

/-- Receipts without a dispute are scored as they are proved. -/
theorem dispute_rate_agrees_iff_sample :
    let E := sampleEngine (recorded [] [] longDigest)
    let receipts := [receiptOf .completed, receiptOf .completed]
    (extractReferenceFeatureVectorV0 E (receiptsInput receipts)).dispute_rate =
      disputedReceipts receipts * 10000 / receipts.length := by
  intro E receipts
  have hagrees := dispute_rate_agrees_iff E (receiptsInput receipts) receipts rfl (by simp [receipts])
  refine hagrees.2.mpr fun bound _ h => ?_
  have hzero : bound = 0 := by simpa [receipts, disputedReceipts, receiptOf, isDisputed] using h
  rw [hzero, Nat.zero_mul]
  exact Nat.zero_le _

/-- A subject whose one receipt is disputed is scored at half the rate that a circuit proves. -/
theorem dispute_rate_halved :
    let E := sampleEngine (recorded [] [] longDigest)
    let receipts := [receiptOf .disputed]
    (extractReferenceFeatureVectorV0 E (receiptsInput receipts)).dispute_rate = 5000 ∧
      (extractReferenceFeatureVectorV0 E (receiptsInput receipts)).dispute_rate < 6000 ∧
      ¬ disputedReceipts receipts * 10000 ≤ 6000 * receipts.length := by
  intro E receipts
  have hrate : (extractReferenceFeatureVectorV0 E (receiptsInput receipts)).dispute_rate =
      disputeRate receipts := rfl
  rw [hrate]
  decide

end DisputeRate

end Continuity
