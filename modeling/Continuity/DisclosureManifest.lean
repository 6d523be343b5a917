import Continuity.CanonicalText
import Continuity.Disclosure
import Continuity.KeyOrder
import Continuity.VerifierSound

namespace Continuity
set_option autoImplicit true

section Texts

end Texts

section Flags

/-- The labels whose flag is set. -/
def flagged : List Bool → List JsString → List JsString
  | flag :: flags, label :: labels => (if flag then [label] else []) ++ flagged flags labels
  | _, _ => []

end Flags

/-- The bundle as the only input of the verifier. -/
def bundleOnly (bundle : ProofBundleV1) : VerifyTSLInput where
  toEvidence := .fill fun _ => .absent
  proof_bundle := some bundle
  envelope := .absent
  proof := .absent
  receipt_proofs := none
  checkpoint := .absent
  redaction_manifest := .absent

/-- The bundle as the verifier reads it. -/
def bundleRead (H : Host) (bundle : ProofBundleV1) : ExpandedInput :=
  (expandProofBundleInput H (bundleOnly bundle)).1

def ProofBundleV1.hasRestrictedAttestationsV2 (bundle : ProofBundleV1) : Bool :=
  (bundle.attestations_v2.toOption.getD []).any fun a => a.visibility ≠ .«public»

section Allowed

variable {H : Host} {bundle : ProofBundleV1} {options : ProofBundleDisclosureOptions}
  {can : Disclosable}

/-- What each of the six decisions is. -/
structure Decided (H : Host) (bundle : ProofBundleV1) (options : ProofBundleDisclosureOptions)
    (can : Disclosable) : Prop where
  counterparties : guarded (isOn options.include_receipts)
    (proofBundleAllowsFieldClass H bundle.envelope.sender [js "exact_counterparties"] options) =
      .ok can.counterparties
  restrictedAttestations : guarded (isOn options.include_attestations)
    (proofBundleAllowsFieldClass H bundle.envelope.sender [js "attestations"] options) =
      .ok can.restrictedAttestations
  rawContent : guarded (truthy bundle.rawMessage)
    (proofBundleAllowsFieldClass H bundle.envelope.sender [js "raw_content"] options) =
      .ok can.rawContent
  contentSalt : guarded (truthy bundle.contentSalt)
    (proofBundleAllowsFieldClass H bundle.envelope.sender [js "content_salt"] options) =
      .ok can.contentSalt
  privateGraph : unlessPrivate bundle.hasPrivateGraph
    (proofBundleAllowsFieldClass H bundle.envelope.sender [js "private_graph"] options) =
      .ok can.privateGraph
  privateMetadata : unlessPrivate bundle.hasPrivateMetadata
    (proofBundleAllowsFieldClass H bundle.envelope.sender [js "private_metadata"] options) =
      .ok can.privateMetadata

end Allowed

section Read

variable {H : Host} {bundle : ProofBundleV1} {options : ProofBundleDisclosureOptions}
  {can : Disclosable}

theorem toOption_ofOption (o : Option α) : (JsField.ofOption o).toOption = o := by
  cases o <;> rfl

theorem redacted_rawMessage (can : Disclosable) (bundle : ProofBundleV1) :
    (redacted can bundle).rawMessage = if can.rawContent then bundle.rawMessage else none := by
  cases hr : can.rawContent <;> cases hs : can.contentSalt <;>
    simp [ProofBundleV1.rawMessage, redacted, hr, hs, JsField.toOption]

theorem redacted_contentSalt (can : Disclosable) (bundle : ProofBundleV1) :
    (redacted can bundle).contentSalt = if can.contentSalt then bundle.contentSalt else none := by
  cases hr : can.rawContent <;> cases hs : can.contentSalt <;>
    simp [ProofBundleV1.contentSalt, redacted, hr, hs, JsField.toOption]

theorem redacted_graph (can : Disclosable) (bundle : ProofBundleV1) :
    (redacted can bundle).graph_feature_vector.toOption =
      if can.privateGraph then bundle.graph_feature_vector.toOption else none := by
  simp only [redacted]
  split
  · exact toOption_ofOption _
  · rfl

theorem redacted_metadata (can : Disclosable) (bundle : ProofBundleV1) :
    (redacted can bundle).metadata_fingerprints.toOption =
      if can.privateMetadata then bundle.metadata_fingerprints.toOption else none := by
  simp only [redacted]
  split
  · exact toOption_ofOption _
  · rfl

theorem listed_unless (b : Bool) (xs : List JsString) :
    (if b = true then [] else xs) = if b = false then xs else [] := by
  cases b <;> rfl

/-- What a manifest can list as redacted. -/
def redactionLabels : List JsString :=
  [js "raw_content", js "content_salt", js "exact_counterparties", js "restricted_attestations",
    js "private_graph", js "private_metadata", js "platform", js "ip_address", js "user_agent"]

theorem metadataFieldsRedacted_flagged : metadataFieldsRedacted can bundle =
    flagged [!can.rawContent, !can.contentSalt, !can.counterparties,
      !can.restrictedAttestations && bundle.hasRestrictedAttestations,
      !can.privateGraph && bundle.graph_feature_vector.toOption.isSome,
      !can.privateMetadata && nonEmptyList bundle.metadata_fingerprints.toOption,
      true, true, true] redactionLabels := by
  simp [metadataFieldsRedacted, flagged, redactionLabels, listed_unless]

end Read

section Manifest

variable {H : Host} {bundle : ProofBundleV1} {options : ProofBundleDisclosureOptions}
  {can : Disclosable}

theorem guarded_decides (h : guarded condition x = .ok b) :
    b = true ↔ condition = true ∧ x = .ok true := by
  rw [← guarded_true, h, Except.ok.injEq]

end Manifest

/-- The bundle that a relay builds of an event without receipts, attestations and revocations. -/
def plainBundle : ProofBundleV1 where
  toEvidence := { Evidence.fill fun _ => .absent with
    receipts := .value []
    attestations := .value []
    revocations := .value [] }
  created_at := sampleEnvelope.timestamp
  identity := aliceIdentity
  envelope := sampleEnvelope
  proof := sampleInclusion
  checkpoint := sampleCheckpoint
  redaction_manifest :=
    { raw_content_included := false
      content_salt_included := none
      exact_counterparties_included := false
      metadata_fields_redacted := [js "raw_content", js "content_salt",
        js "exact_counterparties", js "platform", js "ip_address", js "user_agent"] }
  others := [(js "type", .str (js "tsl.proof_bundle.v1")), (js "bundle_id", .str sampleCommitment)]

def zeroHost : Host := sampleHost (recorded [] [] fun _ => List.replicate 32 0)

/-- The bundle with one private part of each kind. -/
def privateBundle : ProofBundleV1 :=
  { plainBundle with
    toEvidence := { plainBundle.toEvidence with
      attestations := .value [{
        issuer := js "did:tsl:bob"
        subject := js "did:tsl:alice"
        attestation_class := js "private_claim"
        claim_commitment := ZERO_HASH
        visibility := .«private»
        issued_at := js "2026-05-25T00:00:00Z"
        expires_at := none
        signature := js "0x00" }]
      graph_feature_vector := .value {
        subject := js "did:tsl:alice"
        computed_at := js "2026-05-25T00:00:00Z"
        community_algorithm_id := none
        privacy_disclosure_level := .pairwise
        signature := js "0x00"
        others := .none _ }
      metadata_fingerprints := .value [{
        subject := js "did:tsl:alice"
        scope_class := .local_only
        expires_at := js "2026-06-25T00:00:00Z"
        signature := js "0x00"
        others := .none _ }] } }

end Continuity
