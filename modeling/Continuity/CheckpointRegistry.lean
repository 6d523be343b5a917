import Continuity.RevocationRegistry

namespace Continuity
set_option autoImplicit true

structure CheckpointInput where
  epochStartMs : UInt64
  epochDurationMs : UInt32
  shard : Bytes32
  eventRoot : Bytes32
  receiptRoot : Bytes32
  attestationRoot : Bytes32
  revocationRoot : Bytes32
  eventCount : UInt64
  receiptCount : UInt64
  previousCheckpoint : Bytes32
  checkpointIdentityHash : Bytes32
  relayId : Bytes32
  settlementBackend : Bytes32
  deriving DecidableEq

structure Checkpoint extends CheckpointInput where
  contractCheckpointFieldsHash : Bytes32
  submitter : Address
  submittedAt : UInt64

def Checkpoint.zero : Checkpoint where
  epochStartMs := 0
  epochDurationMs := 0
  shard := 0
  eventRoot := 0
  receiptRoot := 0
  attestationRoot := 0
  revocationRoot := 0
  eventCount := 0
  receiptCount := 0
  previousCheckpoint := 0
  checkpointIdentityHash := 0
  relayId := 0
  settlementBackend := 0
  contractCheckpointFieldsHash := 0
  submitter := 0
  submittedAt := 0

structure CheckpointRegistry where
  owner : Address
  authorizedSubmitters : Address → Bool
  authorizedRelays : Bytes32 → Bool
  relaySigners : Bytes32 → Address
  checkpointsByHash : Bytes32 → Checkpoint
  checkpointHashByEpochShard : Bytes32 → Bytes32
  latestCheckpointByShard : Bytes32 → Bytes32
  latestEpochStartByShard : Bytes32 → UInt64

/-- The events that `submitCheckpoint` emits. -/
inductive CheckpointEvent where
  | submitted (checkpointHash contractCheckpointFieldsHash : Bytes32) (epochStartMs : UInt64)
      (shard eventRoot : Bytes32) (submitter : Address)
  | alreadySubmitted (checkpointHash : Bytes32) (epochStartMs : UInt64) (shard : Bytes32)

def uint64Word (n : UInt64) : Bytes32 := BitVec.ofNat 256 n.toNat

def uint32Word (n : UInt32) : Bytes32 := BitVec.ofNat 256 n.toNat

/-- `abi.encodePacked(epochStartMs, shard)`. -/
def epochShardMessage (epochStartMs : UInt64) (shard : Bytes32) : Bytes :=
  bigEndian 8 epochStartMs.toNat ++ wordBytes shard

def rootsMessage (input : CheckpointInput) : Bytes :=
  abiWords [uint64Word input.epochStartMs, uint32Word input.epochDurationMs, input.shard,
    input.eventRoot, input.receiptRoot, input.attestationRoot, input.revocationRoot]

def countsMessage (input : CheckpointInput) : Bytes :=
  abiWords [uint64Word input.eventCount, uint64Word input.receiptCount]

def fieldsMessage (rootsHash countsHash : Bytes32) (input : CheckpointInput) : Bytes :=
  abiWords [rootsHash, countsHash, input.previousCheckpoint, input.checkpointIdentityHash,
    input.relayId, input.settlementBackend]

inductive CheckpointCall where
  | setAuthorizedSubmitter (submitter : Address) (authorized : Bool)
  | setAuthorizedRelay (relayId : Bytes32) (authorized : Bool)
  | setRelaySigner (relayId : Bytes32) (signer : Address)
  | submitCheckpoint (input : CheckpointInput) (relaySignature : Bytes)

/-- A transaction to the registry of checkpoints. -/
structure CheckpointTransaction where
  sender : Address
  timestamp : UInt64
  call : CheckpointCall

namespace CheckpointRegistry

variable (E : Evm) (S : CheckpointRegistry)

def create (sender : Address) : CheckpointRegistry where
  owner := sender
  authorizedSubmitters := Function.update (fun _ => false) sender true
  authorizedRelays _ := false
  relaySigners _ := 0
  checkpointsByHash _ := .zero
  checkpointHashByEpochShard _ := 0
  latestCheckpointByShard _ := 0
  latestEpochStartByShard _ := 0

def onlyOwner (sender : Address) : Js Unit :=
  if sender ≠ S.owner then throw "NotOwner" else return ()

def setAuthorizedSubmitter (sender submitter : Address) (authorized : Bool) :
    Js CheckpointRegistry := do
  S.onlyOwner sender
  return { S with authorizedSubmitters :=
    Function.update S.authorizedSubmitters submitter authorized }

def setAuthorizedRelay (sender : Address) (relayId : Bytes32) (authorized : Bool) :
    Js CheckpointRegistry := do
  S.onlyOwner sender
  return { S with authorizedRelays := Function.update S.authorizedRelays relayId authorized }

def setRelaySigner (sender : Address) (relayId : Bytes32) (signer : Address) :
    Js CheckpointRegistry := do
  S.onlyOwner sender
  return { S with relaySigners := Function.update S.relaySigners relayId signer }

def epochShardKey (epochStartMs : UInt64) (shard : Bytes32) : Bytes32 :=
  E.keccak256 (epochShardMessage epochStartMs shard)

def checkpointRootsHash (input : CheckpointInput) : Bytes32 := E.keccak256 (rootsMessage input)

def checkpointCountsHash (input : CheckpointInput) : Bytes32 := E.keccak256 (countsMessage input)

def contractCheckpointFieldsHash (input : CheckpointInput) : Bytes32 :=
  E.keccak256 (fieldsMessage (checkpointRootsHash E input) (checkpointCountsHash E input) input)

/-- The relay's message and the recovery of its signer are those of the revocations. -/
def recoverRelaySigner (checkpointHash : Bytes32) (signature : Bytes) : Address :=
  RevocationRegistry.recoverControllerSigner E checkpointHash signature

/-- Why the contract refuses to put a checkpoint at the head of its shard. -/
def chainError (input : CheckpointInput) : Option String :=
  let latestForShard := S.latestCheckpointByShard input.shard
  if latestForShard = 0 then
    if input.previousCheckpoint ≠ 0 then some "PreviousCheckpointMismatch" else none
  else if input.epochStartMs ≤ S.latestEpochStartByShard input.shard then
    some "CheckpointEpochNotMonotonic"
  else if input.previousCheckpoint ≠ latestForShard then some "PreviousCheckpointMismatch"
  else none

/-- The storage after a new checkpoint. -/
def record (sender : Address) (timestamp : UInt64) (input : CheckpointInput) :
    CheckpointRegistry :=
  let checkpointHash := input.checkpointIdentityHash
  let checkpoint : Checkpoint := {
    toCheckpointInput := input
    contractCheckpointFieldsHash := contractCheckpointFieldsHash E input
    submitter := sender
    submittedAt := timestamp }
  { S with
    checkpointsByHash := Function.update S.checkpointsByHash checkpointHash checkpoint
    checkpointHashByEpochShard := Function.update S.checkpointHashByEpochShard
      (epochShardKey E input.epochStartMs input.shard) checkpointHash
    latestCheckpointByShard :=
      Function.update S.latestCheckpointByShard input.shard checkpointHash
    latestEpochStartByShard :=
      Function.update S.latestEpochStartByShard input.shard input.epochStartMs }

def submitCheckpoint (sender : Address) (timestamp : UInt64) (input : CheckpointInput)
    (relaySignature : Bytes) : Js (CheckpointEvent × CheckpointRegistry) :=
  if !S.authorizedSubmitters sender then throw "UnauthorizedSubmitter"
  else if !S.authorizedRelays input.relayId then throw "UnauthorizedRelay"
  else if relaySignature.length = 0 then throw "EmptyRelaySignature"
  else
    let key := epochShardKey E input.epochStartMs input.shard
    let checkpointHash := input.checkpointIdentityHash
    let fieldsHash := contractCheckpointFieldsHash E input
    let recoveredSigner := recoverRelaySigner E checkpointHash relaySignature
    if S.relaySigners input.relayId = 0 ∨ S.relaySigners input.relayId ≠ recoveredSigner then
      throw "InvalidRelaySignature"
    else
      let existing := S.checkpointHashByEpochShard key
      if existing ≠ 0 then
        if existing ≠ checkpointHash then throw "CheckpointConflict"
        else return (.alreadySubmitted checkpointHash input.epochStartMs input.shard, S)
      else
        match S.chainError input with
        | some error => throw error
        | none => return (.submitted checkpointHash fieldsHash input.epochStartMs input.shard
            input.eventRoot sender, S.record E sender timestamp input)

def getCheckpointByEpochShard (epochStartMs : UInt64) (shard : Bytes32) : Checkpoint :=
  S.checkpointsByHash (S.checkpointHashByEpochShard (epochShardKey E epochStartMs shard))

def execute (tx : CheckpointTransaction) : Js CheckpointRegistry :=
  match tx.call with
  | .setAuthorizedSubmitter submitter authorized =>
    S.setAuthorizedSubmitter tx.sender submitter authorized
  | .setAuthorizedRelay relayId authorized => S.setAuthorizedRelay tx.sender relayId authorized
  | .setRelaySigner relayId signer => S.setRelaySigner tx.sender relayId signer
  | .submitCheckpoint input relaySignature =>
    Prod.snd <$> S.submitCheckpoint E tx.sender tx.timestamp input relaySignature

/-- A transaction that reverts changes nothing. -/
def step (tx : CheckpointTransaction) : CheckpointRegistry :=
  match S.execute E tx with
  | .ok S => S
  | .error _ => S

/-- The checkpoint that a transaction submits with success. -/
def submits (tx : CheckpointTransaction) : Option CheckpointInput :=
  match tx.call, S.execute E tx with
  | .submitCheckpoint input _, .ok _ => some input
  | _, _ => none

end CheckpointRegistry

/-- The checkpoints that a run submits with success, in order. -/
def submitted (E : Evm) : CheckpointRegistry → List CheckpointTransaction →
    List CheckpointInput
  | _, [] => []
  | S, tx :: rest => (S.submits E tx).toList ++ submitted E (S.step E tx) rest

end Continuity
