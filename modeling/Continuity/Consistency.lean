import Continuity.Signing

namespace Continuity
set_option autoImplicit true

def consistencyLink (N : Noble) (checkpoint : BatchCheckpointV1) : Js ConsistencyLink := do
  let checkpoint_hash ← checkpointHash N checkpoint
  return {
    checkpoint_hash
    previous_checkpoint := checkpoint.previous_checkpoint
    epoch_start_ms := checkpoint.epoch_start_ms }

/-- The checkpoints in the order of their epochs, equal ones as they came. -/
def byEpoch (checkpoints : List BatchCheckpointV1) : List BatchCheckpointV1 :=
  checkpoints.insertionSort fun a b => b.epoch_start_ms.lt a.epoch_start_ms = false

def buildConsistencyProof (N : Noble) (checkpoints : List BatchCheckpointV1) :
    Js ConsistencyProofV1 :=
  if checkpoints.length < 2 then throw "TSL_CONSISTENCY_CHAIN_TOO_SHORT"
  else match byEpoch checkpoints with
    | [] => throw "TSL_CONSISTENCY_CHAIN_TOO_SHORT"
    | first :: rest =>
      if !(first :: rest).all (fun checkpoint => checkpoint.shard == first.shard) then
        throw "TSL_CONSISTENCY_SHARD_MISMATCH"
      else do
        let from_checkpoint ← checkpointHash N first
        let to_checkpoint ← checkpointHash N (rest.getLast?.getD first)
        let chain ← (first :: rest).mapM (consistencyLink N)
        return {
          type := js "tsl.consistency_proof.v1"
          shard := first.shard
          from_checkpoint
          to_checkpoint
          chain
          auditor := none
          signature := none }

/-- Each link names the hash of the one before it and starts later. -/
def linksHold : List ConsistencyLink → Bool
  | first :: second :: rest =>
    second.previous_checkpoint == first.checkpoint_hash &&
      !second.epoch_start_ms.le first.epoch_start_ms && linksHold (second :: rest)
  | _ => true

def verifyConsistencyProof (proof : ConsistencyProofV1) : Bool :=
  proof.type == js "tsl.consistency_proof.v1" && 2 ≤ proof.chain.length &&
    (proof.chain.head?.map ConsistencyLink.checkpoint_hash) == some proof.from_checkpoint &&
    (proof.chain.getLast?.map ConsistencyLink.checkpoint_hash) == some proof.to_checkpoint &&
    linksHold proof.chain

end Continuity
