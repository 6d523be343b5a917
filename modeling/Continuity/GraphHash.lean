import Continuity.Frames
import Continuity.GraphEdges
import Continuity.GraphOrder
import Continuity.SybilScore

namespace Continuity
open Frames Reordering
set_option autoImplicit true

section Weights

theorem encodable_small (h : n ≤ 10000) : Encodable (.num (.ofNat n)) :=
  encodable_ofNat (Nat.lt_of_le_of_lt h (by decide))

theorem graphBaseWeightBps_le (profile : GraphSettings) (edgeType : JsString) :
    graphBaseWeightBps profile edgeType ≤ 10000 := by
  rw [graphBaseWeightBps]
  split
  · exact clampBps_le _
  · split_ifs <;> decide

theorem graphDecayBps_le (E : Engine) (profile : GraphSettings) (edgeType : JsString)
    (timestamp atTime : RFC3339) : graphDecayBps E profile edgeType timestamp atTime ≤ 10000 := by
  rw [graphDecayBps]
  split
  · exact Nat.le_refl _
  · split
    · exact Nat.le_refl _
    · exact clampBps_le _

theorem negativeGraphDecayBps_le (E : Engine) (profile : GraphSettings)
    (timestamp atTime : RFC3339) :
    negativeGraphDecayBps E profile timestamp atTime ≤ 10000 := by
  rw [negativeGraphDecayBps]
  split
  · exact Nat.le_refl _
  · exact clampBps_le _

theorem issuerQualityBps_le (profile : GraphSettings) (issuer : TrustID) :
    issuerQualityBps profile issuer ≤ 10000 := by
  rw [issuerQualityBps]
  split
  · exact Nat.le_refl _
  · exact clampBps_le _

theorem appealMultiplier_le (appeal_status : JsField JsString) :
    appealMultiplier appeal_status ≤ 10000 := by
  rw [appealMultiplier]
  split
  · split_ifs <;> decide
  · exact Nat.le_refl _

end Weights

/-- Numbers that the canonical encoder takes. -/
structure WholeWeights (e : GraphEdgeV0) : Prop where
  weight : Encodable (.num e.weight_bps)
  quality : ∀ n, e.source_quality_bps = some n → Encodable (.num n)
  decay : ∀ n, e.decay_bps = some n → Encodable (.num n)
  status : ∀ n, e.receipt_status_bps = some n → Encodable (.num n)
  appeal : ∀ n, e.appeal_multiplier_bps = some n → Encodable (.num n)

/-- No field of the edge is there without a value. -/
structure CompleteEdge (e : GraphEdgeV0) : Prop where
  evidence_commitment : e.evidence_commitment ≠ .undefined
  appeal_uri : e.appeal_uri ≠ .undefined
  appeal_status : e.appeal_status ≠ .undefined

theorem encodableFields_number (key : JsString)
    (h : ∀ n, value = some n → Encodable (.num n)) :
    EncodableFields (optField key .num value) := by
  cases value with
  | none => exact True.intro
  | some n => exact ⟨h n rfl, True.intro⟩

theorem encodableFields_fieldEntry (key : JsString) (field : JsField JsString) :
    EncodableFields (fieldEntry key .str field) ↔ field ≠ .undefined := by
  cases field <;> simp [fieldEntry, EncodableFields, Encodable]

theorem encodable_edge (h : WholeWeights e) : Encodable e.toJs ↔ CompleteEdge e := by
  rw [GraphEdgeV0.toJs, Encodable, GraphEdgeV0.toFields]
  simp only [encodableFields_append, encodableFields_optional, encodableFields_fieldEntry,
    encodableFields_number _ h.quality, encodableFields_number _ h.decay,
    encodableFields_number _ h.status, encodableFields_number _ h.appeal, EncodableFields,
    Encodable, and_true, true_and]
  constructor
  · rintro ⟨⟨⟨-, hc⟩, hu⟩, hs⟩
    exact ⟨hc, hu, hs⟩
  · rintro ⟨hc, hu, hs⟩
    exact ⟨⟨⟨h.weight, hc⟩, hu⟩, hs⟩

theorem encodable_graph {graph : GraphV0} :
    Encodable graph.toJs ↔ ∀ edge ∈ graph.edges, Encodable edge.toJs := by
  simp only [GraphV0.toJs, Encodable, EncodableFields, encodableItems_iff, List.forall_mem_map,
    encodable_textList, and_true]

section Kinds

variable {E : Engine} {input : GraphEvidence} {src dst : TrustID} {type : JsString}
  {timestamp : RFC3339} {hash : Hex32}

theorem plainEdge_whole (hn : n ≤ 10000) (hm : m ≤ 10000) :
    WholeWeights (plainEdge src dst type timestamp (.ofNat n) (.ofNat m) hash) where
  weight := encodable_small hn
  quality _ h := by cases h
  decay _ h := by
    cases h
    exact encodable_small hm
  status _ h := by cases h
  appeal _ h := by cases h

theorem plainEdge_complete (weight_bps decay_bps : JsNumber) :
    CompleteEdge (plainEdge src dst type timestamp weight_bps decay_bps hash) := by
  constructor <;> simp [plainEdge]

theorem whenSet_ne_undefined (text : Option JsString) : whenSet text ≠ .undefined := by
  rw [whenSet]
  split <;> simp

/-- The decay of an edge, whichever way it is chosen. -/
theorem chosenDecay_whole (c : Prop) [Decidable c] (edgeType : JsString) (stamp : RFC3339) :
    Encodable (.num (if c then negativeDecay E input stamp else decay E input edgeType stamp)) := by
  split
  · exact encodable_small (negativeGraphDecayBps_le E _ _ _)
  · exact encodable_small (graphDecayBps_le E _ _ _ _)

theorem receiptEdge_encodable (receipt : ReceiptCommitmentV1) (sender : TrustID) :
    Encodable (receiptEdge E input receipt hash sender).toJs := by
  apply (encodable_edge ?_).mpr
  · exact ⟨whenSet_ne_undefined _, whenSet_ne_undefined _, whenSet_ne_undefined _⟩
  · refine ⟨encodable_small (graphBaseWeightBps_le _ _), ?_, ?_, ?_, ?_⟩
    · intro n hn
      cases hn
    · intro n hn
      cases hn
      exact chosenDecay_whole _ _ _
    · intro n hn
      cases hn
      apply encodable_small
      split <;> decide
    · intro n hn
      simp only [receiptEdge] at hn
      split at hn
      · cases hn
        exact encodable_small (by decide)
      · split at hn
        · cases hn
          exact encodable_small (by decide)
        · cases hn

theorem attestationEdge_encodable (attestation : AttestationV1) :
    Encodable (attestationEdge E input attestation hash).toJs := by
  apply (encodable_edge ?_).mpr
  · constructor <;> simp [attestationEdge, plainEdge]
  · refine ⟨encodable_small (graphBaseWeightBps_le _ _), ?_, ?_, ?_, ?_⟩
    · intro n hn
      cases hn
      exact encodable_small (issuerQualityBps_le _ _)
    · intro n hn
      cases hn
      exact chosenDecay_whole _ _ _
    · intro n hn
      cases hn
    · intro n hn
      cases hn

theorem attestationV2Edge_whole (attestation : AttestationV2) :
    WholeWeights (attestationV2Edge E input attestation hash) := by
  refine ⟨encodable_small (graphBaseWeightBps_le _ _), ?_, ?_, ?_, ?_⟩
  · intro n hn
    cases hn
    exact encodable_small (issuerQualityBps_le _ _)
  · intro n hn
    cases hn
    exact chosenDecay_whole _ _ _
  · intro n hn
    cases hn
  · intro n hn
    cases hn
    exact encodable_small (appealMultiplier_le _)

end Kinds

/-- No field that the graph reads off the attestation is missing. -/
def CompleteAttestation (attestation : AttestationV2) : Prop :=
  attestation.evidence_commitment ≠ .undefined ∧ attestation.appeal_uri ≠ .undefined ∧
    attestation.appeal_status ≠ .undefined

/-- Every edge of a graph has a canonical text, save for incomplete attestations. -/
theorem encodable_constructed (h : constructGraphFromEvidenceV0 E input = .ok graph) :
    Encodable graph.toJs ↔ ∀ attestation ∈ input.attestations_v2.getD [],
      (∃ edge, AttestationV2Adds E input attestation edge) → CompleteAttestation attestation := by
  obtain ⟨s, hs, hp⟩ := constructGraphFromEvidenceV0_edges h
  obtain ⟨senderOf, hg⟩ := scanEvidence_gathered hs
  -- The text of an edge is not opened while its source is looked for.
  obtain ⟨Whole, hw⟩ : ∃ Whole : GraphEdgeV0 → Prop, ∀ edge, Whole edge ↔ Encodable edge.toJs :=
    ⟨_, fun _ => Iff.rfl⟩
  simp only [encodable_graph, hp.mem_iff, hg.edges, ← hw]
  constructor
  · rintro hall attestation ha ⟨edge, hadds⟩
    obtain ⟨pushed, hpushed⟩ := hg.attestations_v2 attestation ha
    have hedge := hall edge (.inr (.inr (.inr (.inl
      ⟨attestation, ha, pushed, hpushed, (attestationV2Edges_ok hpushed).mpr hadds⟩))))
    obtain ⟨hash, -, -, -, rfl, -⟩ := hadds
    obtain ⟨hc, hu, hst⟩ :=
      (encodable_edge (attestationV2Edge_whole attestation)).mp ((hw _).mp hedge)
    exact ⟨hc, hu, hst⟩
  · rintro hall edge (⟨signed, ⟨event, -, hsigned⟩, he⟩ | ⟨receipt, -, pushed, hpushed, he⟩ |
      ⟨attestation, -, pushed, hpushed, he⟩ | ⟨attestation, ha, pushed, hpushed, he⟩ |
      ⟨policy, -, pushed, hpushed, he⟩)
    · obtain ⟨hash, receiver, rfl⟩ := eventEdges_ok hsigned he
      exact (hw _).mpr ((encodable_edge (plainEdge_whole (graphBaseWeightBps_le _ _)
        (graphDecayBps_le E _ _ _ _))).mpr (plainEdge_complete _ _))
    · obtain ⟨hash, sender, -, -, -, -, rfl, -⟩ := (receiptEdges_ok hpushed).mp he
      exact (hw _).mpr (receiptEdge_encodable receipt sender)
    · obtain ⟨hash, -, -, -, rfl, -⟩ := (attestationEdges_ok hpushed).mp he
      exact (hw _).mpr (attestationEdge_encodable attestation)
    · have hadds := (attestationV2Edges_ok hpushed).mp he
      obtain ⟨hc, hu, hst⟩ := hall attestation ha ⟨edge, hadds⟩
      obtain ⟨hash, -, -, -, rfl, -⟩ := hadds
      exact (hw _).mpr ((encodable_edge (attestationV2Edge_whole attestation)).mpr ⟨hc, hu, hst⟩)
    · obtain ⟨hash, -, -, -, rfl⟩ := (delegationEdges_ok hpushed).mp he
      exact (hw _).mpr ((encodable_edge (plainEdge_whole (graphBaseWeightBps_le _ _)
        (Nat.le_refl _))).mpr (plainEdge_complete _ _))

/-- All that is computed of a graph is defined. -/
structure Computed (E : Engine) (graph : GraphV0) : Prop where
  bytes : Returns (canonicalBytes graph.toJs)
  vector : ∀ request : GraphFeatureInput, request.graph = graph →
    request.graph_profile.bind GraphSettings.manifold_profile = none →
    Returns (computeGraphFeatureVectorV0 E request)
  sybil : ∀ request : SybilInput, request.graph = graph →
    Returns (computeSybilAssessmentV0 E request)

theorem canonicalHash_returns (N : Noble) (h : Encodable value) : Returns (canonicalHash N value) :=
  canonicalHash_total h

theorem computeGraphFeatureVectorV0_returns (E : Engine) (request : GraphFeatureInput)
    (hm : request.graph_profile.bind GraphSettings.manifold_profile = none)
    (h : Encodable request.graph.toJs) : Returns (computeGraphFeatureVectorV0 E request) := by
  apply Returns.bind
  · rw [manifoldDistances, hm]
    exact Returns.pure _
  · intro manifold _
    apply Returns.bind (canonicalHash_returns _ h)
    intro graph_hash _
    apply Returns.bind (canonicalHash_returns _ (encodable_textList _))
    intro trusted _
    apply Returns.bind (canonicalHash_returns _ (encodable_textList _))
    intro adversarial _
    apply Returns.bind (canonicalHash_returns _ (by simp [Encodable, EncodableFields]))
    intro commitment _
    exact Returns.pure _

theorem computeSybilAssessmentV0_returns (E : Engine) (request : SybilInput)
    (h : Encodable request.graph.toJs) : Returns (computeSybilAssessmentV0 E request) := by
  apply Returns.bind
  · apply canonicalHash_returns
    exact ⟨encodable_textList _, encodable_textList _, True.intro, True.intro⟩
  · intro seed_set_commitment _
    apply Returns.bind
    · rw [sybilEvidenceCommitment]
      split
      · exact Returns.pure _
      · apply Returns.bind (canonicalHash_returns _ h)
        intro graph_hash _
        exact canonicalHash_returns _ (by simp [Encodable, EncodableFields])
    · intro evidence_commitment _
      apply Returns.bind (canonicalHash_returns _ (by simp [Encodable, EncodableFields]))
      intro cluster_id_commitment _
      exact Returns.pure _

theorem computed_iff (E : Engine) : Computed E graph ↔ Encodable graph.toJs := by
  constructor
  · intro h
    obtain ⟨bytes, hb⟩ := h.bytes
    exact canonicalBytes_encodable hb
  · intro h
    refine ⟨canonicalBytes_total h, ?_, ?_⟩
    · rintro request rfl hm
      exact computeGraphFeatureVectorV0_returns E request hm h
    · rintro request rfl
      exact computeSybilAssessmentV0_returns E request h

/-- A graph has a hash, a feature vector and an assessment exactly when no second version
attestation that it counts lacks a field; `appeal_status` is one that the schema leaves open. -/
theorem constructed_computed (h : constructGraphFromEvidenceV0 E input = .ok graph) :
    Computed E graph ↔ ∀ attestation ∈ input.attestations_v2.getD [],
      (∃ edge, AttestationV2Adds E input attestation edge) → CompleteAttestation attestation := by
  rw [computed_iff]
  exact encodable_constructed h

theorem constructed_computed_sample :
    ∃ graph, constructGraphFromEvidenceV0 (sampleEngine vouchingNoble)
        (vouchingEvidence [firstVouching]) = .ok graph ∧
      Computed (sampleEngine vouchingNoble) graph := by
  have hrun : (fun graph => graph.edges.length) <$> constructGraphFromEvidenceV0
      (sampleEngine vouchingNoble) (vouchingEvidence [firstVouching]) = .ok 1 := by
    decide +kernel
  obtain ⟨graph, hgraph, -⟩ := map_eq_ok.mp hrun
  refine ⟨graph, hgraph, (constructed_computed hgraph).mpr ?_⟩
  intro attestation ha
  cases ha

/-- A second version attestation of alice about bob, without the appeal status that its schema
does not require. -/
def endorsement : AttestationV2 where
  issuer := js "did:tsl:alice"
  signing_key_id := js "#k1"
  subject := js "did:tsl:bob"
  visibility := .«public»
  issued_at := js "2026-05-25T00:00:00Z"
  signature := bytesToHex (
    bigEndian 32 0x80d5b590ac89a9cb03c3409952caf81b979e159cb1fb15a6aa7a7fa6498d2eee ++
    bigEndian 32 0xadc336e482d858e38ff346d6d58acb9769fa7f4c1f17b7f75df762f275a61b0d)
  others :=
    { entries := [(js "type", .str (js "tsl.attestation.v2")),
        (js "attestation_id", .str (hex32
          0x6666666666666666666666666666666666666666666666666666666666666666)),
        (js "claim_class", .str (js "peer")), (js "claim_polarity", .str (js "positive")),
        (js "severity", .str (js "none")),
        (js "claim_commitment", .str (hex32
          0x7777777777777777777777777777777777777777777777777777777777777777)),
        (js "evidence_commitment", .str (hex32
          0x8888888888888888888888888888888888888888888888888888888888888888)),
        (js "evidence_policy", .str (js "public")),
        (js "appeal_uri", .str (js "https://appeals.example/1")),
        (js "valid_after", .str (js "2026-05-25T00:00:00Z")),
        (js "expires_at", .str (js "2026-06-25T00:00:00Z")),
        (js "revocation_pointer", .str (js "none"))]
      nodup := by decide
      fresh := by decide }

def endorsementNoble : Noble :=
  let digest := bigEndian 32 0x7ffe00647f02640437f5f99c935f14b02f3600181400b1be11dbae512248d33b
  recorded [(domainMessage (js "tsl.attestation.v2") (valueBytes (.obj (withoutSignature
      endorsement.toFields))), digest)]
    [(hexBytes endorsement.signature, digest,
      bigEndian 32 0x8a88e3dd7409f195fd52db2d3cba5d72ca6709bf1d94121bf3748801b40f6f5c)] longDigest

/-- The evidence of second version attestations alone. -/
def endorsedEvidence (attestations : List AttestationV2) : GraphEvidence :=
  { vouchingEvidence [] with attestations_v2 := some attestations }

/-- A graph with one edge that has no canonical bytes, so no vector and no assessment. -/
theorem endorsement_not_computed :
    let E := sampleEngine endorsementNoble
    (∃ graph, constructGraphFromEvidenceV0 E (endorsedEvidence [endorsement]) = .ok graph ∧
      graph.edges.length = 1) ∧
    ∀ graph, constructGraphFromEvidenceV0 E (endorsedEvidence [endorsement]) = .ok graph →
      ¬Returns (canonicalBytes graph.toJs) ∧ ¬Computed E graph := by
  intro E
  have hrun : (fun graph => (graph.edges.length, (canonicalBytes graph.toJs).isOk)) <$>
      constructGraphFromEvidenceV0 E (endorsedEvidence [endorsement]) = .ok (1, false) := by
    decide +kernel
  obtain ⟨graph, hgraph, hv⟩ := map_eq_ok.mp hrun
  obtain ⟨hlength, hbytes⟩ := Prod.mk.inj hv
  refine ⟨⟨graph, hgraph, hlength⟩, fun other ho => ?_⟩
  cases hgraph.symm.trans ho
  have hno : ¬Returns (canonicalBytes graph.toJs) := by
    rintro ⟨bytes, hb⟩
    rw [hb] at hbytes
    cases hbytes
  exact ⟨hno, fun hc => hno hc.bytes⟩

end Continuity
