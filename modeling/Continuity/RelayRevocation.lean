import Continuity.RelayLog
import Continuity.RevocationGate

namespace Continuity
open Collections Frames
set_option autoImplicit true

/-- A root of the log tree. -/
def DenseRoot (N : Noble) (root : Hex32) : Prop :=
  ∃ commitments tree, buildMerkleTree N commitments = .ok tree ∧ tree.root = root

/-- The backend settles a checkpoint under its own revocation root. -/
def KeepsRevocationRoot (R : Relay) : Prop :=
  ∀ backend, R.options.settlement_backend = some backend → ∀ checkpoint settled,
    backend.submitCheckpoint checkpoint = .ok settled →
      settled.revocation_root = checkpoint.revocation_root

/-- Every settled checkpoint, and every one on its way, has a root of the log tree. -/
structure DenseSettlement (N : Noble) (s : RelaySystem) : Prop where
  settled : ∀ key checkpoint, s.store.settledCheckpoints.get? key = some checkpoint →
    DenseRoot N checkpoint.revocation_root
  submitting : ∀ call ∈ s.submitting, ∀ checkpoint, call.settled = .ok checkpoint →
    DenseRoot N checkpoint.revocation_root

section Checkpoints

variable {R : Relay} {S : InMemoryRelayStore} {s t : RelaySystem}

theorem DenseSettlement.checkpointFor (hd : DenseSettlement R.noble s)
    (h : s.store.checkpointFor R epoch shard = .ok checkpoint) :
    DenseRoot R.noble checkpoint.revocation_root := by
  rcases checkpointFor_ok h with hs | ⟨-, unsigned, hu, hs⟩
  · exact hd.settled _ _ hs
  · obtain ⟨_, _, _, tree, _, -, -, -, ht, -, -, -, hr, -, -⟩ := unsignedCheckpoint_ok hu
    obtain ⟨signature, rfl⟩ := signCheckpoint_ok hs
    exact ⟨_, tree, ht, hr.symm⟩

/-- One step of any run. -/
theorem DenseSettlement.transition (hd : DenseSettlement R.noble s) (hk : KeepsRevocationRoot R)
    (h : Transition R s action t) : DenseSettlement R.noble t := by
  cases h with
  | unchanged => exact hd
  | resolved resolver => exact ⟨hd.settled, hd.submitting⟩
  | begun h => exact ⟨hd.settled, hd.submitting⟩
  | refused => exact ⟨hd.settled, hd.submitting⟩
  | logged hc h =>
    obtain ⟨verification, -, -, -, -, -, -, -, -, rfl⟩ := finishAcceptEvent_ok h
    exact ⟨hd.settled, hd.submitting⟩
  | receipt h =>
    obtain ⟨_, -, -, rfl⟩ := acceptReceipt_ok h
    exact ⟨hd.settled, hd.submitting⟩
  | attestation h =>
    obtain ⟨_, -, -, rfl⟩ := acceptAttestation_ok h
    exact ⟨hd.settled, hd.submitting⟩
  | revocation h =>
    obtain ⟨_, -, -, rfl⟩ := acceptRevocation_ok h
    exact ⟨hd.settled, hd.submitting⟩
  | submitted h =>
    obtain ⟨backend, checkpoint, hb, hc, rfl⟩ := beginSubmitCheckpoint_ok h
    refine ⟨hd.settled, ?_⟩
    intro call hm settled hs
    rcases List.mem_append.mp hm with hm | hm
    · exact hd.submitting call hm settled hs
    · rw [List.mem_singleton.mp hm] at hs
      rw [hk backend hb checkpoint settled hs]
      exact hd.checkpointFor hc
  | unsettled =>
    refine ⟨hd.settled, ?_⟩
    intro call hm
    exact hd.submitting call (List.mem_of_mem_eraseIdx hm)
  | settled hc h =>
    obtain ⟨hs, rfl⟩ := finishSubmitCheckpoint_ok h
    have hroot := hd.submitting _ (List.mem_of_getElem? hc) _ hs
    refine ⟨?_, ?_⟩
    · intro key checkpoint hget
      simp only [OrderedMap.get?_set] at hget
      split at hget
      · cases hget
        exact hroot
      · exact hd.settled key checkpoint hget
    · intro call hm
      exact hd.submitting call (List.mem_of_mem_eraseIdx hm)

theorem RelayReachable.denseSettlement (h : RelayReachable R s) (hk : KeepsRevocationRoot R) :
    DenseSettlement R.noble s := by
  refine h.invariant ?_ ?_
  · intro store hs
    obtain ⟨resolver, rfl⟩ := create_ok hs
    refine ⟨?_, ?_⟩
    · intro key checkpoint hget
      cases hget
    · intro call hm
      cases hm
  · intro s entry hd
    have ht := act_transition (R.at entry.1) s entry.2
    exact hd.transition (R := R.at entry.1) hk ht

end Checkpoints

/-- A root of the log tree is never the root of a sparse tree. -/
theorem DenseRoot.ne_sparse (hi : Function.Injective N.sha256) (hz : NeverZero N)
    (hd : DenseRoot N root) (hb : Built N values profile tree depth) : tree.root ≠ root := by
  obtain ⟨data, hr⟩ := hb.root_tagged
  obtain ⟨commitments, dense, hdense, rfl⟩ := hd
  rw [hr]
  intro he
  by_cases hne : commitments = []
  · subst hne
    exact hz _ _ (he.trans (buildMerkleTree_nil hdense))
  · obtain ⟨data', ht | ht⟩ := buildMerkleTree_tagged hne hdense
    · have h := (hashDomain_injective hi (by decide) (by decide) (he.trans ht)).1
      exact absurd h (by decide)
    · have h := (hashDomain_injective hi (by decide) (by decide) (he.trans ht)).1
      exact absurd h (by decide)

/-- The checkpoint of a segment without any entry. -/
def emptyCheckpoint : BatchCheckpointV1 where
  epoch_start_ms := .ofNat 1779667200000
  epoch_duration_ms := .ofNat 300000
  shard := js "0daa"
  event_root := ZERO_HASH
  receipt_root := ZERO_HASH
  attestation_root := ZERO_HASH
  revocation_root := ZERO_HASH
  event_count := .ofNat 0
  receipt_count := .ofNat 0
  previous_checkpoint := ZERO_HASH
  checkpoint_identity_hash := none
  settlement_backend := none
  settlement_tx := none
  relay_id := js "did:tsl:relay:dev"
  relay_signature := js "0x00"

/-- The digests of that checkpoint, of its pseudo signature and of a proof from the empty tree. -/
def emptyDigests : List (Bytes × Bytes) :=
  let payload := hex32 0x30f4b43f06c369cd97e5f20ac88886fa25c5391522f975ec7ce6a62561cf1668
  let event := bigEndian 32 0x33944423891cada638c5f5a792c730ba2e30dfd52dff5ac030dac8c046bae38f
  let root := hex32 0xb1d3c544aca2004f7f4b569a682fc4bf48ed56120c5b7e6a6b0653d0f4341fa5
  [(domainMessage DOMAIN_TAGS.CHECKPOINT_V1 (valueBytes (checkpointPayload
      emptyCheckpoint.toFields
      [js "relay_signature", js "settlement_tx", js "checkpoint_identity_hash"])),
      bigEndian 32 0x0f01760eca0342c6062c76190e787c238cb62291980c67ec3b44c8dfada983af),
    (domainMessage (js "tsl.relay.signature.payload.v1") (valueBytes (signaturePayload
      emptyCheckpoint.epoch_start_ms emptyCheckpoint.shard ZERO_HASH)), hexBytes payload),
    (domainMessage DOMAIN_TAGS.EVENT_V1 (valueBytes (.obj (withoutSignature
      (pseudoEvent payload).toFields))), event),
    (domainMessage DOMAIN_TAGS.COMMITMENT_V1 (event ++ [0]),
      bigEndian 32 0xfee257bf90a851437d65b05ac8fd53e049da862f1317926719fecf38708a5aca),
    (zeroMessage, hexBytes sparseZero),
    (valueMessage otherValue,
      bigEndian 32 0xdc0b8098f5dd5fea2f3aacb555bae1f047028414657efd6958dac68c1b3fe4a2),
    (sparseMessage (js "node") (nodeValue sparseZero sparseZero), hexBytes root),
    (sparseMessage (js "leaf-index") (indexValue sampleProfile.tree_id 1),
      bigEndian 32 0x2b71f2537dd1fc5d215daff504bc535067547b9e8143d65058196a49744d8588),
    (sparseMessage nonMembershipLabel (proofValue root otherValue 1 1
      [{ side := .left, hash := sparseZero }]),
      bigEndian 32 0xeec8e51fbb0db3be5f9cfc7433d9638a54c72defa916393d556c9d5c115ae0d9)]

def emptyNoble : Noble := recorded emptyDigests [] longDigest

/-- A verifier that has the checkpoint and requires a proof under its revocation root. -/
def gateContext (N : Noble) (checkpoint : BatchCheckpointV1) : Context where
  host := sampleHost N
  tools := sampleTools
  resolver := sampleResolver.resolveTrustID
  policy := gatePolicy.withDefaults
  backend := none
  input := (expandProofBundleInput (sampleHost N)
    { eventInput sampleEnvelope with checkpoint := .value checkpoint }).1
  envelope := sampleEnvelope
  commitmentHash := sampleCommitment
  legacyCommitmentHash := sampleCommitment

/-- The gate on an honest proof from the tree of an empty segment, under its checkpoint. -/
def emptyGate (store : InMemoryRelayStore) : Js (Hex32 × Bool) := do
  let checkpoint ← store.checkpointFor (sampleRelay emptyNoble) (.ofNat 1779667200000) (js "0daa")
  let hash ← checkpointHash emptyNoble checkpoint
  let tree ← buildSparseMerkleTree emptyNoble (commitmentsOf
    (objectsFor store.revocations (.ofNat 1779667200000) (js "0daa"))) sampleProfile
  let proof ← proveSparseMerkleNonMembership emptyNoble otherValue tree sampleEnvelope.sender
    (js "2026-05-25T00:00:00Z") (some hash)
  let passed ← nonMembershipValid (gateContext emptyNoble checkpoint) proof true
  return (hash, passed)

end Continuity
