import Continuity.VerifierSigners

namespace Continuity
set_option autoImplicit true

/-- The proof passes the consistency gate for a checkpoint with the given hash. -/
structure AcceptedProof (H : Host) (current : Hex32) (proof : ConsistencyProofV1) : Prop where
  schema : (H.validateSchema .consistencyProof proof.toJs).valid = true
  chain : verifyConsistencyProof proof = true
  current : proof.to_checkpoint = current

/-- The last entry of the chain says of the checkpoint before it what the checkpoint says itself. -/
def LinkedTo (checkpoint : BatchCheckpointV1) (proof : ConsistencyProofV1) : Prop :=
  ∃ last, proof.chain.getLast? = some last ∧
    last.previous_checkpoint = checkpoint.previous_checkpoint ∧
    last.epoch_start_ms.strictEq checkpoint.epoch_start_ms = true

/-- The last entry of the chain is the one that is written for the checkpoint. -/
def WrittenFor (H : Host) (checkpoint : BatchCheckpointV1) (proof : ConsistencyProofV1) : Prop :=
  ∃ hash epoch, checkpointHashForPolicy H checkpoint = .ok hash ∧
    epoch.strictEq checkpoint.epoch_start_ms = true ∧
    proof.chain.getLast? = some ⟨hash, checkpoint.previous_checkpoint, epoch⟩

section Gate

variable {C : Context} {r r' : Report}

end Gate

/-- The chain of an accepted proof ends with the hash of the checkpoint. -/
theorem AcceptedProof.last (h : AcceptedProof H c proof) :
    ∃ last, proof.chain.getLast? = some last ∧ last.checkpoint_hash = c := by
  have hv := h.chain
  simp only [verifyConsistencyProof, Bool.and_eq_true, beq_iff_eq] at hv
  obtain ⟨last, hl, he⟩ := Option.map_eq_some_iff.mp hv.1.2
  exact ⟨last, hl, he.trans h.current⟩

/-- A chain of two entries that ends with the sample checkpoint and says that another one came
before it. -/
def chainBehind (previous : Hex32) : ConsistencyProofV1 where
  type := js "tsl.consistency_proof.v1"
  shard := js "0daa"
  from_checkpoint := previous
  to_checkpoint := sampleCheckpointHash
  chain := [⟨previous, ZERO_HASH, .ofNat 1779666900000⟩,
    ⟨sampleCheckpointHash, previous, .ofNat 1779667200000⟩]
  auditor := none
  signature := none

def consistencyInput (previous : Hex32) : VerifyTSLInput :=
  { signedInput with consistency_proofs := .value [chainBehind previous] }

def consistencyPolicy : VerifierPolicy JsField :=
  { samplePolicy with require_consistency_proof := some true }

/-- No checkpoint has this hash. -/
def inventedHash : Hex32 :=
  hex32 0x1111111111111111111111111111111111111111111111111111111111111111

end Continuity
