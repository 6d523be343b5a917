import Continuity.MerkleSound
import Continuity.SparseDigest
import Continuity.VerifierRun

namespace Continuity
open Frames
set_option autoImplicit true

theorem signedBy_true {hash : Js Hex32} : signedBy H key hash signature = .ok true ↔
    ∃ k h, key = some k ∧ k.type = .ed25519 ∧ hash = .ok h ∧
      verifyEd25519 H.noble k.public_key h signature = .ok true := by
  unfold signedBy
  split
  · split
    · next k hk =>
      rw [bind_eq_ok]
      constructor
      · rintro ⟨h, hh, hv⟩
        exact ⟨k, h, rfl, hk, hh, hv⟩
      · rintro ⟨k, h, hk, -, hh, hv⟩
        cases hk
        exact ⟨h, hh, hv⟩
    · next k hk =>
      constructor
      · intro h
        cases h
      · rintro ⟨k', h, he, ht, -⟩
        cases he
        exact (hk ht).elim
  · constructor
    · intro h
      cases h
    · rintro ⟨k, h, hk, -⟩
      cases hk

theorem guarded_true : guarded condition x = .ok true ↔ condition = true ∧ x = .ok true := by
  cases condition with
  | false => simp [guarded, pure, Except.pure]
  | true => simp [guarded]

theorem activeKey_some (h : activeKey H identity timestamp = some key) :
    ∃ document, identity = some document ∧ key ∈ document.verification_methods ∧
      keyActiveAt H key timestamp = true := by
  unfold activeKey at h
  split at h
  · next document =>
    have hactive := List.find?_some h
    exact ⟨document, rfl, List.mem_of_find?_eq_some h, hactive⟩
  · cases h

section Blocks

variable {C : Context} {r r' : Report}

theorem keyBlock_signed {hash : Hex32} (h : keyBlock C identity hash r = .ok r')
    (hs : r'.checks .signature_valid = some true) (ha : r'.checks .key_active = some true)
    (hn : r'.checks .not_revoked = some true) :
    ∃ key, findVerificationMethod identity C.envelope.signing_key_id = some key ∧
      key.type = .ed25519 ∧ keyActiveAt C.host key C.envelope.timestamp = true ∧
      notRevokedAt C.host key C.envelope.timestamp = true ∧
      verifyEd25519 C.noble key.public_key hash C.envelope.signature = .ok true := by
  obtain ⟨signed, hsigned, h⟩ := bind_eq_ok.mp h
  cases h
  simp only [Report.check_same, Option.some.injEq] at hs
  subst hs
  obtain ⟨key, event, hk, ht, hh, hv⟩ := signedBy_true.mp hsigned
  cases hh
  simp [Report.check, hk] at ha hn
  exact ⟨key, hk, ht, ha, hn, hv⟩

theorem chainRevocationBlock_not_revoked (h : chainRevocationBlock C r = .ok r')
    (hn : r'.checks .not_revoked = some true) : r.checks .not_revoked = some true := by
  unfold chainRevocationBlock at h
  split at h
  · split at h
    · obtain ⟨revoked, -, h⟩ := bind_eq_ok.mp h
      cases h
      cases revoked with
      | false => simpa [Report.check] using hn
      | true => simp [Report.check] at hn
    · cases h
      simpa [Report.check] using hn
  · cases h
    exact hn

theorem revocationsBlock_not_revoked (h : revocationsBlock C r = .ok r')
    (hn : r'.checks .not_revoked = some true) : r.checks .not_revoked = some true := by
  unfold revocationsBlock at h
  split at h
  · obtain ⟨results, -, h⟩ := bind_eq_ok.mp h
    cases h
    simp only [Report.explainIf_checks] at hn
    split at hn
    · simp [Report.check] at hn
    · simpa [Report.record, Report.check] using hn
  · cases h
    exact hn

theorem proofBlock_included (h : proofBlock C r = .ok r')
    (hr : r.checks .included_in_log = some false)
    (hr' : r'.checks .included_in_log = some true) :
    ∃ proof, C.input.proof = some proof ∧ proof.tree_kind = .event ∧
      isEventCommitment C proof.commitment = true ∧
      verifyInclusion C.noble proof = .ok true := by
  unfold proofBlock at h
  split at h
  · cases h
    rw [hr] at hr'
    cases hr'
  · next proof hp =>
    dsimp only at h
    split at h
    · obtain ⟨included, hi, h⟩ := bind_eq_ok.mp h
      have hinc : included = true := by
        split at h
        · cases h
          simpa using hr'
        · next hk =>
          obtain ⟨valid, -, h⟩ := bind_eq_ok.mp h
          cases h
          have hne : CheckName.included_in_log ≠ inclusionName proof.tree_kind := by
            cases hkind : proof.tree_kind <;> simp_all [inclusionName]
          rw [Report.check_other _ _ hne] at hr'
          simpa using hr'
      subst hinc
      obtain ⟨hcond, hv⟩ := guarded_true.mp hi
      simp only [Bool.and_eq_true, decide_eq_true_eq] at hcond
      exact ⟨proof, hp, hcond.1, hcond.2, hv⟩
    · cases h
      rw [Report.push_checks, hr] at hr'
      cases hr'

theorem authorizedRelayBlock_quiet
    (h : (authorizedRelayBlock C checkpoint signed r).errors = []) : r.errors = [] :=
  (authorizedRelayBlock_advances C checkpoint signed (Advances.refl r)
    (List.mem_singleton.mpr rfl)).quiet h

theorem checkpointBlock_signed (h : checkpointBlock C r = .ok r') (hq : r'.errors = [])
    (hc : C.input.checkpoint = some checkpoint) : checkpointSigned C checkpoint = .ok true := by
  unfold checkpointBlock at h
  rw [hc] at h
  dsimp only at h
  split at h
  · cases h
    simp at hq
  · obtain ⟨identityMatches, -, h⟩ := bind_eq_ok.mp h
    obtain ⟨signed, hs, h⟩ := bind_eq_ok.mp h
    cases h
    cases signed with
    | true => exact hs
    | false =>
      have hnil := authorizedRelayBlock_quiet hq
      simp [Report.pushIf] at hnil

theorem checkpointMatchBlock_matches (h : checkpointMatchBlock C r = .ok r')
    (hr : r.checks .checkpoint_matches_proof = some false)
    (hr' : r'.checks .checkpoint_matches_proof = some true) :
    ∃ proof checkpoint, C.input.proof = some proof ∧ C.input.checkpoint = some checkpoint ∧
      proofMatchesCheckpoint C proof checkpoint = .ok true := by
  unfold checkpointMatchBlock at h
  split at h
  · next proof checkpoint hp hc =>
    split at h
    · obtain ⟨sameRoot, hm, h⟩ := bind_eq_ok.mp h
      cases h
      simp only [Report.explainIf_checks, Report.check_same, Option.some.injEq] at hr'
      subst hr'
      exact ⟨proof, checkpoint, hp, hc, hm⟩
    · cases h
      rw [hr] at hr'
      cases hr'
  · cases h
    rw [hr] at hr'
    cases hr'

end Blocks

namespace VerifiedRun

variable {H : Host} {tools : Recomputation} {input : VerifyTSLInput} {resolver : TrustResolver}
  {policy : VerifierPolicy JsField} {backend : Option SettlementBackend}
  (V : VerifiedRun H tools input resolver policy backend)

/-- A check that no block owns is the one of the key. -/
theorem keyed_check (h : name ∉ ownedBy (ownedBlocks V.context)) :
    V.keyed.checks name = V.final.checks name := by
  have hf := V.final_ok
  rw [← ownedBlocks_run] at hf
  exact ((pipeline_frame _ _ _ hf).get name h).symm

/-- The blocks that can withdraw `not_revoked` never grant it. -/
theorem keyed_not_revoked : V.keyed.checks .not_revoked = some true := by
  have hfinal : V.final.checks .not_revoked = some true := V.mandatory (by decide)
  obtain ⟨r₁, hchain, hrest⟩ := pipeline_cons V.final_ok
  obtain ⟨r₂, hexplain, hrest⟩ := pipeline_cons hrest
  obtain ⟨r₃, hrevocations, hrest⟩ := pipeline_cons hrest
  have hr₃ : r₃.checks .not_revoked = some true := by
    rw [← hfinal]
    exact ((pipeline_frame ((ownedBlocks V.context).drop 3) r₃ V.final hrest).get _
      (by simp [ownedBy, ownedBlocks, scoringChecks, graphChecks])).symm
  have hr₂ := revocationsBlock_not_revoked hrevocations hr₃
  have hr₁ : r₁.checks .not_revoked = some true := by
    rw [← hr₂]
    exact ((explainKeyBlock_owns r₁ r₂ hexplain).get _ (by simp)).symm
  exact chainRevocationBlock_not_revoked hchain hr₁

theorem signed : ∃ key, findVerificationMethod V.identity V.envelope.signing_key_id = some key ∧
    key.type = .ed25519 ∧ keyActiveAt H key V.envelope.timestamp = true ∧
    notRevokedAt H key V.envelope.timestamp = true ∧
    verifyEd25519 H.noble key.public_key V.event_hash V.envelope.signature = .ok true := by
  have hs : V.keyed.checks .signature_valid = some true := by
    rw [V.keyed_check (by simp [ownedBy, ownedBlocks, scoringChecks, graphChecks])]
    exact V.mandatory (by decide)
  have ha : V.keyed.checks .key_active = some true := by
    rw [V.keyed_check (by simp [ownedBy, ownedBlocks, scoringChecks, graphChecks])]
    exact V.mandatory (by decide)
  exact keyBlock_signed V.keyed_ok hs ha V.keyed_not_revoked

/-- A check that neither the key nor the blocks before the `n`th own is still the default. -/
theorem default_before (n : Nat)
    (hr : Advances (ownedBy ((ownedBlocks V.context).take n)) V.keyed r)
    (hn : name ∉ ownedBy ((ownedBlocks V.context).take n))
    (hk : name ∉ [.key_found, .key_active, .not_revoked, .signature_valid])
    (hred : name ≠ .redaction_manifest_valid) (hs : name ≠ .schema_valid) :
    r.checks name = defaultChecks name := by
  rw [← V.start_checks name hred hs]
  exact (hr.get name hn).trans ((keyBlock_owns _ _ _ _ _ V.keyed_ok).get name hk)

theorem included (h : isOn policy.require_inclusion = true) :
    ∃ proof, (expandProofBundleInput H input).1.proof = some proof ∧ proof.tree_kind = .event ∧
      isEventCommitment V.context proof.commitment = true ∧
      verifyInclusion H.noble proof = .ok true := by
  obtain ⟨r, r', hr, hb, hr'⟩ := V.block 4 (by decide)
  have hbefore : r.checks .included_in_log = some false :=
    V.default_before 4 hr (by simp [ownedBy, ownedBlocks]) (by simp) (by simp) (by simp)
  have hfinal : V.final.checks .included_in_log = some true :=
    V.required (by simp [requiredChecks, VerifierPolicy.withDefaults, h])
  have hafter : r'.checks .included_in_log = some true := by
    rw [← hfinal]
    exact (hr'.get _ (by simp [ownedBy, ownedBlocks, scoringChecks, graphChecks])).symm
  exact proofBlock_included hb hbefore hafter

theorem matched (h : isOn policy.require_checkpoint = true) :
    ∃ proof checkpoint, (expandProofBundleInput H input).1.proof = some proof ∧
      (expandProofBundleInput H input).1.checkpoint = some checkpoint ∧
      proofMatchesCheckpoint V.context proof checkpoint = .ok true := by
  obtain ⟨r, r', hr, hb, hr'⟩ := V.block 21 (by decide)
  have hbefore : r.checks .checkpoint_matches_proof = some false :=
    V.default_before 21 hr (by simp [ownedBy, ownedBlocks, scoringChecks, graphChecks]) (by simp)
      (by simp) (by simp)
  have hfinal : V.final.checks .checkpoint_matches_proof = some true :=
    V.required (by simp [requiredChecks, VerifierPolicy.withDefaults, h])
  have hafter : r'.checks .checkpoint_matches_proof = some true := by
    rw [← hfinal]
    exact (hr'.get _ (by simp [ownedBy, ownedBlocks])).symm
  exact checkpointMatchBlock_matches hb hbefore hafter

theorem checkpoint_signed
    (h : (expandProofBundleInput H input).1.checkpoint = some checkpoint) :
    checkpointSigned V.context checkpoint = .ok true := by
  obtain ⟨r, r', -, hb, hr'⟩ := V.block 20 (by decide)
  exact checkpointBlock_signed hb (hr'.quiet V.quiet) h

end VerifiedRun

theorem proofMatchesCheckpoint_root (h : proofMatchesCheckpoint C proof checkpoint = .ok true) :
    checkpointRootForKind checkpoint proof.tree_kind = proof.root := by
  unfold proofMatchesCheckpoint at h
  split at h
  · obtain ⟨expected, -, h⟩ := bind_eq_ok.mp h
    simp only [pure, Except.pure, Except.ok.injEq, Bool.and_eq_true, beq_iff_eq] at h
    exact h.2
  · cases h

theorem checkpointSigned_key
    (hu : C.host.flag "ALLOW_UNSAFE_CHECKPOINT_SIGNATURE_FIXTURES" = false)
    (hl : C.host.flag "ALLOW_LEGACY_CHECKPOINT_HASH_V0" = false)
    (h : checkpointSigned C checkpoint = .ok true) :
    ∃ document key expected,
      C.resolver checkpoint.relay_id C.envelope.timestamp = .ok (some document) ∧
      key ∈ document.verification_methods ∧ key.type = .ed25519 ∧
      keyActiveAt C.host key C.envelope.timestamp = true ∧
      checkpointHash C.host.noble checkpoint = .ok expected ∧
      verifyEd25519 C.host.noble key.public_key expected checkpoint.relay_signature =
        .ok true := by
  obtain ⟨identity, hi, h⟩ := bind_eq_ok.mp h
  simp only [unsafeFixtureSignatureAllowed, hu, Bool.false_and, Bool.false_eq_true,
    if_false] at h
  obtain ⟨key, expected, hk, ht, hh, hv⟩ := signedBy_true.mp h
  obtain ⟨document, rfl, hm, ha⟩ := activeKey_some hk
  simp only [checkpointHashForPolicy, hl, Bool.false_eq_true, if_false] at hh
  exact ⟨document, key, expected, hi, hm, ht, ha, hh, hv⟩

/-- The commitment of an event in its present or in its legacy form. -/
def CommitsTo (N : Noble) (envelope : EventCommitmentV1) (c : Hex32) : Prop :=
  commitmentHash N envelope = .ok c ∨ legacyCommitmentHash N envelope = .ok c

theorem CommitsTo.hex (h : CommitsTo N envelope c) : ∃ message, c = sha256Hex N message := by
  rcases h with h | h
  · obtain ⟨event, -, h⟩ := bind_eq_ok.mp h
    obtain ⟨a, -, h⟩ := bind_eq_ok.mp h
    obtain ⟨b, -, h⟩ := bind_eq_ok.mp h
    cases h
    exact ⟨_, rfl⟩
  · obtain ⟨event, -, h⟩ := bind_eq_ok.mp h
    obtain ⟨a, -, h⟩ := bind_eq_ok.mp h
    obtain ⟨b, -, h⟩ := bind_eq_ok.mp h
    cases h
    exact ⟨_, rfl⟩

theorem IsHex32.eq_of_bytes (h : IsHex32 c) (he : hexToBytes c = hexToBytes (sha256Hex N m)) :
    c = sha256Hex N m := by
  obtain ⟨bytes, -, rfl⟩ := h
  rw [sha256Hex, hexToBytes_bytesToHex, hexToBytes_bytesToHex, Except.ok.injEq] at he
  rw [he, sha256Hex]

/-- The leaf of the log at the index of the proof is the commitment of the envelope. -/
theorem logLeaf_commitsTo {N : Noble} (hd : Digest32 N)
    (hc : CollisionFree N (treeInputs N commitments ++ proofInputs N proof))
    (hz : commitments = [] → NeverZero N) (ht : buildMerkleTree N commitments = .ok tree)
    (hr : proof.root = tree.root) (hv : verifyInclusion N proof = .ok true)
    (he : CommitsTo N envelope proof.commitment) :
    ∃ i : Nat, proof.leaf_index.toInt? = some (i : Int) ∧ ∃ hi : i < commitments.length,
      ∃ c, CommitsTo N envelope c ∧ hexToBytes commitments[i] = hexToBytes c ∧
        (IsHex32 commitments[i] → commitments[i] = c) := by
  have hne : commitments ≠ [] := by
    rintro rfl
    exact verifyInclusion_ne_zero (hz rfl) hv (hr.trans (buildMerkleTree_nil ht))
  obtain ⟨i, hindex, hi, hbytes⟩ := verifyInclusion_at hd hne hc ht hr hv
  obtain ⟨message, hm⟩ := he.hex
  refine ⟨i, hindex, hi, proof.commitment, he, hbytes, ?_⟩
  intro hhex
  rw [hm] at hbytes ⊢
  exact hhex.eq_of_bytes hbytes

/-- What a verified event means: every log under the root of the checkpoint holds the
commitment of the envelope at the index of the proof, the envelope is signed by a key of the
sender that is active and not revoked, and the checkpoint by an active key of the relay. -/
theorem verifyTSL_sound (hi : isOn policy.require_inclusion = true)
    (hp : isOn policy.require_checkpoint = true)
    (hl : H.flag "ALLOW_LEGACY_CHECKPOINT_HASH_V0" = false)
    (hu : H.flag "ALLOW_UNSAFE_CHECKPOINT_SIGNATURE_FIXTURES" = false)
    (h : verifyTSL H tools input resolver policy backend = .ok result)
    (hv : result.verified = true) :
    ∃ envelope proof checkpoint,
      (expandProofBundleInput H input).1.envelope = some envelope ∧
      (expandProofBundleInput H input).1.proof = some proof ∧
      (expandProofBundleInput H input).1.checkpoint = some checkpoint ∧
      (∀ commitments tree, Digest32 H.noble →
        CollisionFree H.noble (treeInputs H.noble commitments ++ proofInputs H.noble proof) →
        (commitments = [] → NeverZero H.noble) →
        buildMerkleTree H.noble commitments = .ok tree → tree.root = checkpoint.event_root →
        ∃ i : Nat, proof.leaf_index.toInt? = some (i : Int) ∧ ∃ hi : i < commitments.length,
          ∃ c, CommitsTo H.noble envelope c ∧ hexToBytes commitments[i] = hexToBytes c ∧
            (IsHex32 commitments[i] → commitments[i] = c)) ∧
      (∃ document key event, resolver envelope.sender envelope.timestamp = .ok (some document) ∧
        findVerificationMethod document envelope.signing_key_id = some key ∧
        key.type = .ed25519 ∧ keyActiveAt H key envelope.timestamp = true ∧
        notRevokedAt H key envelope.timestamp = true ∧
        eventHash H.noble envelope = .ok event ∧
        verifyEd25519 H.noble key.public_key event envelope.signature = .ok true) ∧
      (∃ document key expected,
        resolver checkpoint.relay_id envelope.timestamp = .ok (some document) ∧
        key ∈ document.verification_methods ∧ key.type = .ed25519 ∧
        keyActiveAt H key envelope.timestamp = true ∧
        checkpointHash H.noble checkpoint = .ok expected ∧
        verifyEd25519 H.noble key.public_key expected checkpoint.relay_signature = .ok true) := by
  obtain ⟨V⟩ := verifyTSL_run h hv
  obtain ⟨proof, hproof, hkind, hcommit, hinc⟩ := V.included hi
  obtain ⟨proof', checkpoint, hproof', hcheck, hmatch⟩ := V.matched hp
  cases hproof.symm.trans hproof'
  have hroot : proof.root = checkpoint.event_root := by
    have hk := proofMatchesCheckpoint_root hmatch
    rw [hkind] at hk
    exact hk.symm
  have hcommits : CommitsTo H.noble V.envelope proof.commitment := by
    simp only [isEventCommitment, Bool.or_eq_true, beq_iff_eq] at hcommit
    rcases hcommit with hc | hc
    · rw [hc]
      exact .inl V.commitment_ok
    · rw [hc]
      exact .inr V.legacy_ok
  obtain ⟨key, hkey, htype, hactive, hlive, hsig⟩ := V.signed
  refine ⟨V.envelope, proof, checkpoint, V.envelope_eq, hproof, hcheck, ?_,
    ⟨V.identity, key, V.event_hash, V.resolved, hkey, htype, hactive, hlive, V.event_hash_ok,
      hsig⟩,
    checkpointSigned_key (C := V.context) hu hl (V.checkpoint_signed hcheck)⟩
  intro commitments tree hd hc hz ht hr
  exact logLeaf_commitsTo hd hc hz ht (hroot.trans hr.symm) hinc hcommits

/-- A key that is active from the start of 2026. -/
def sampleKey (id : JsString) (public_key : Nat) : VerificationMethodV1 where
  id
  type := .ed25519
  public_key := hex32 public_key
  status := .active
  created_at := js "2026-01-01T00:00:00Z"
  expires_at := none
  revoked_at := none

def sampleIdentity (id : TrustID) (key : VerificationMethodV1) : IdentityDocumentV1 where
  id
  controller := id
  created_at := js "2026-01-01T00:00:00Z"
  verification_methods := [key]
  recovery := none
  privacy_policy_commitment := none

def aliceIdentity : IdentityDocumentV1 :=
  sampleIdentity (js "did:tsl:alice") (sampleKey (js "#k1")
    0x8a88e3dd7409f195fd52db2d3cba5d72ca6709bf1d94121bf3748801b40f6f5c)

def relayIdentity : IdentityDocumentV1 :=
  sampleIdentity (js "did:tsl:relay:dev") (sampleKey (js "#relay-checkpoint")
    0x8139770ea87d175f56a35466c34c7ecccb8d8a91b4ee37a25df60f5b8fc9b394)

def sampleResolver : MemoryTrustResolver :=
  (MemoryTrustResolver.mk .empty).upsertIdentity aliceIdentity |>.upsertIdentity relayIdentity

def sampleEnvelope : EventCommitmentV1 where
  event_class := .message
  sender := js "did:tsl:alice"
  signing_key_id := js "#k1"
  receiver_commitment := none
  content_commitment := hex32 0x1111111111111111111111111111111111111111111111111111111111111111
  metadata_commitment := none
  previous_event_commitment := none
  timestamp := js "2026-05-25T00:00:00Z"
  nonce := hex32 0x3333333333333333333333333333333333333333333333333333333333333333
  disclosure_policy := .commitment_only
  signature := bytesToHex (
    bigEndian 32 0xfb198017921851b2ce80221dde226402cf26765f5858f28e712ecba59d67a0a8 ++
    bigEndian 32 0xead551ae609f50ab41774d7bf2899dd40d675a1fb00cdcb31dfcbcdc4b0c9a09)

def sampleCommitment : Hex32 :=
  hex32 0xe7b9125a9700878f34b929fb26748f1c5cc8925ee19104d5aea33e45a031cf66

def sampleEventRoot : Hex32 :=
  hex32 0x44e465f802312d2c14603f5020059e615a0478194944dae31a10b9f677f245c5

/-- The root of a sparse tree of depth 1 over one value. -/
def sampleRevocationRoot : Hex32 :=
  hex32 0x02e2e59f30dbf63b633a478c479961f34c0fd2b198a76a382543364db5b77983

def sampleCheckpointHash : Hex32 :=
  hex32 0xcb2f105c816cdf151a354e43846f4f68e1b585447556ac7b5f35c3b1679af49d

/-- The checkpoint of a segment with the sample event alone. -/
def sampleCheckpoint : BatchCheckpointV1 where
  epoch_start_ms := .ofNat 1779667200000
  epoch_duration_ms := .ofNat 300000
  shard := js "0daa"
  event_root := sampleEventRoot
  receipt_root := ZERO_HASH
  attestation_root := ZERO_HASH
  revocation_root := sampleRevocationRoot
  event_count := .ofNat 1
  receipt_count := .ofNat 0
  previous_checkpoint := ZERO_HASH
  checkpoint_identity_hash := some sampleCheckpointHash
  settlement_backend := none
  settlement_tx := none
  relay_id := js "did:tsl:relay:dev"
  relay_signature := bytesToHex (
    bigEndian 32 0xa71182a0f5a76a26ae415c6734652beabb3067a8ced4d9c724ac4dfba0108ef7 ++
    bigEndian 32 0xade59f3655a3dfebcb862c826d48589f067f99af3e3532a5bb9856e363ec0408)

def sampleInclusion : InclusionProofV1 where
  tree_kind := .event
  commitment := sampleCommitment
  leaf_index := .ofNat 0
  leaf_hash := sampleEventRoot
  root := sampleEventRoot
  epoch_start_ms := .ofNat 1779667200000
  epoch_duration_ms := .ofNat 300000
  shard := js "0daa"
  path := []
  checkpoint_hash := sampleCheckpointHash

def signedInput : VerifyTSLInput where
  toEvidence := .fill fun _ => .absent
  proof_bundle := none
  envelope := .value sampleEnvelope
  proof := .value sampleInclusion
  receipt_proofs := none
  checkpoint := .value sampleCheckpoint
  redaction_manifest := .absent

def samplePolicy : VerifierPolicy JsField :=
  { emptyPolicy with require_inclusion := some true, require_checkpoint := some true }

/-- The digests of the sample event, of its log and of the checkpoint. -/
def signedDigests : List (Bytes × Bytes) :=
  let event := bigEndian 32 0x724723488a08f1ec7419529ad3d1a773286c81e51f477feaa0789b2783a6ecf1
  let signed := event ++ hexBytes sampleEnvelope.signature
  [(domainMessage DOMAIN_TAGS.EVENT_V1 (valueBytes (.obj (withoutSignature
      sampleEnvelope.toFields))), event),
    (domainMessage DOMAIN_TAGS.COMMITMENT_V1 signed, hexBytes sampleCommitment),
    (signed, bigEndian 32 0x2ab66b10ee379293269378687fa1b5d850690d80027f5b83bb7e6c7e13f7acfb),
    (leafMessage 0 (hexBytes sampleCommitment), hexBytes sampleEventRoot),
    (domainMessage DOMAIN_TAGS.CHECKPOINT_V1 (valueBytes (checkpointPayload
      sampleCheckpoint.toFields
      [js "relay_signature", js "settlement_tx", js "checkpoint_identity_hash"])),
      hexBytes sampleCheckpointHash)]

/-- The signatures of the sender and of the relay. -/
def sampleSignatures : List (Bytes × Bytes × Bytes) :=
  [(hexBytes sampleEnvelope.signature,
      bigEndian 32 0x724723488a08f1ec7419529ad3d1a773286c81e51f477feaa0789b2783a6ecf1,
      bigEndian 32 0x8a88e3dd7409f195fd52db2d3cba5d72ca6709bf1d94121bf3748801b40f6f5c),
    (hexBytes sampleCheckpoint.relay_signature, hexBytes sampleCheckpointHash,
      bigEndian 32 0x8139770ea87d175f56a35466c34c7ecccb8d8a91b4ee37a25df60f5b8fc9b394)]

/-- A host at the time of the sample event, without any variable in its environment. -/
def sampleHost (N : Noble) : Host where
  noble := N
  ajv _ _ := none
  dateHeuristics _ := none
  numberText q := intText q.num
  lowerUnicode s := s
  env _ := none
  now := 1779667200000
  nowText := js "2026-05-25T00:00:00Z"

/-- Tools for inputs without anything to compute again. -/
def sampleTools : Recomputation where
  GraphV0 := Unit
  constructGraphFromEvidenceV0 _ := return ()
  computeGraphFeatureVectorV0 vector _ _ _ _ := return vector
  computeSybilAssessmentV0 assessment _ _ _ _ _ := return assessment
  computeDriftReportV0 report _ _ := return report
  verifyDelegatedAgentActionV0 _ _ _ _ := return { ok := false, error_code := none }
  verifyThresholdProofAsync _ _ := return false
  contractCheckpointFieldsHashForCheckpoint _ := return ZERO_HASH
  verifyOfflineSettlementEvidence _ := return { ok := false, error_code := none }

def signedNoble : Noble := recorded signedDigests sampleSignatures fun _ => List.replicate 32 255

theorem signedNoble_digest32 : Digest32 signedNoble :=
  recorded_digest32 (by decide) fun _ => rfl

theorem signedSample_verified :
    ∃ result, verifyTSL (sampleHost signedNoble) sampleTools signedInput
        sampleResolver.resolveTrustID samplePolicy none = .ok result ∧ result.verified = true := by
  apply map_eq_ok.mp
  decide +kernel

theorem signedSample_tree : ∃ tree, buildMerkleTree signedNoble [sampleCommitment] = .ok tree ∧
    tree.root = sampleEventRoot := by
  apply map_eq_ok.mp
  decide

theorem verifyTSL_sound_sample :
    ∃ i : Nat, sampleInclusion.leaf_index.toInt? = some (i : Int) ∧
      ∃ hi : i < [sampleCommitment].length, ∃ c, CommitsTo signedNoble sampleEnvelope c ∧
        hexToBytes [sampleCommitment][i] = hexToBytes c ∧
        (IsHex32 [sampleCommitment][i] → [sampleCommitment][i] = c) := by
  obtain ⟨result, hrun, hv⟩ := signedSample_verified
  obtain ⟨envelope, proof, checkpoint, he, hp, hc, hlog, -, -⟩ :=
    verifyTSL_sound rfl rfl rfl rfl hrun hv
  obtain rfl : sampleEnvelope = envelope := Option.some.inj he
  obtain rfl : sampleInclusion = proof := Option.some.inj hp
  obtain rfl : sampleCheckpoint = checkpoint := Option.some.inj hc
  obtain ⟨tree, ht, hr⟩ := signedSample_tree
  refine hlog [sampleCommitment] tree signedNoble_digest32 ?_ (fun h => by cases h) ht hr
  decide

end Continuity
