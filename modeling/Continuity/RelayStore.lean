import Mathlib.Data.Finset.Insert
import Mathlib.Data.PNat.Defs
import Continuity.Verifier
import Continuity.Merkle

namespace Continuity
open Collections
set_option autoImplicit true

structure AcceptedLogObject where
  commitment_hash : Hex32
  shard : JsString
  epoch_start_ms : JsNumber
  epoch_duration_ms : JsNumber
  log_index : Nat
  accepted_at : RFC3339

structure AcceptedEvent extends AcceptedLogObject where
  event : EventCommitmentV1
  relay_id : TrustID

/-- The options of a store. A checkpoint with another epoch duration than a positive integer has
no place in its schema. -/
structure RelayStoreOptions where
  relay_id : Option TrustID
  relay_signing_key_id : Option JsString
  relay_signing_seed_hex : Option JsString
  epoch_duration_ms : Option ℕ+
  timestamp_window_ms : Option JsNumber
  settlement_backend : Option SettlementBackend

/-- The part of a store that never changes, and what the store finds around it. -/
structure Relay where
  host : Host
  tools : Recomputation
  options : RelayStoreOptions

/-- A `RelayValidationError`, as its code and its message. -/
def relayError (code message : String) : Js α := throw (code ++ ": " ++ message)

def buildIdentityFromSeed (N : Noble) (trust_id : TrustID) (key_id seed_hex : JsString)
    (created_at : RFC3339) : Js IdentityDocumentV1 := do
  let public_key ← deriveEd25519PublicKey N seed_hex
  let method : VerificationMethodV1 := {
    id := key_id
    type := .ed25519
    public_key
    status := .active
    created_at
    expires_at := none
    revoked_at := none }
  return {
    id := trust_id
    controller := trust_id
    created_at
    verification_methods := [method]
    recovery := none
    privacy_policy_commitment := none }

def shardForTrustID (N : Noble) (trustId : TrustID) : JsString :=
  ((sha256Hex N (textEncode trustId)).drop 2).take 4

/-- `String(value)` of a number. -/
def numberString (H : Host) : JsNumber → JsString
  | .fin q => H.numberText q
  | .negZero => js "0"
  | .nan => js "NaN"
  | .posInf => js "Infinity"
  | .negInf => js "-Infinity"

def checkpointStoreKey (H : Host) (epoch_start_ms : JsNumber) (shard : JsString) : JsString :=
  numberString H epoch_start_ms ++ js ":" ++ shard

def nonceKey (event : EventCommitmentV1) : JsString :=
  event.sender ++ js ":" ++ event.signing_key_id ++ js ":" ++ event.nonce

namespace Relay

variable (R : Relay)

def noble : Noble := R.host.noble

def relay_id : TrustID := R.options.relay_id.getD (js "did:tsl:relay:dev")

def epoch_duration_ms : ℕ+ := R.options.epoch_duration_ms.getD 300000

def timestamp_window_ms : JsNumber := R.options.timestamp_window_ms.getD (.ofNat 600000)

def signingSeed : Option JsString :=
  if truthy R.options.relay_signing_seed_hex then R.options.relay_signing_seed_hex else none

def relay_identity : Js (Option IdentityDocumentV1) :=
  match R.signingSeed with
  | some seed => some <$> buildIdentityFromSeed R.noble R.relay_id
      (R.options.relay_signing_key_id.getD (js "#relay-checkpoint")) seed
      (js "2026-01-01T00:00:00Z")
  | none => return none

/-- The start of the epoch of a time, `NaN` for a text that is no time. -/
def epochStart (time : Option Int) : JsNumber :=
  match time with
  | some time => .ofInt (time / R.epoch_duration_ms * R.epoch_duration_ms)
  | none => .nan

def duration : JsNumber := .ofNat R.epoch_duration_ms

end Relay

/-- The maps and sets of a store. -/
structure InMemoryRelayStore where
  resolver : MemoryTrustResolver
  events : OrderedMap Hex32 AcceptedEvent
  receipts : OrderedMap Hex32 AcceptedLogObject
  attestations : OrderedMap Hex32 AcceptedLogObject
  revocations : OrderedMap Hex32 AcceptedLogObject
  nonces : Finset JsString
  settledCheckpoints : OrderedMap JsString BatchCheckpointV1
  closedSegments : OrderedMap JsString (List Hex32)

/-- A store before any call, with the given identities. -/
def InMemoryRelayStore.blank (resolver : MemoryTrustResolver) : InMemoryRelayStore where
  resolver
  events := .empty
  receipts := .empty
  attestations := .empty
  revocations := .empty
  nonces := ∅
  settledCheckpoints := .empty
  closedSegments := .empty

def inSegment (epoch_start_ms : JsNumber) (shard : JsString) (item : AcceptedLogObject) : Bool :=
  item.epoch_start_ms.strictEq epoch_start_ms && item.shard == shard

/-- The items of a segment in the order of their log indices. -/
def segmentItems (f : α → AcceptedLogObject) (items : OrderedMap Hex32 α)
    (epoch_start_ms : JsNumber) (shard : JsString) : List α :=
  (items.values.filter fun item => inSegment epoch_start_ms shard (f item)).insertionSort
    fun left right => (f left).log_index ≤ (f right).log_index

def objectsFor (items : OrderedMap Hex32 AcceptedLogObject) (epoch_start_ms : JsNumber)
    (shard : JsString) : List AcceptedLogObject :=
  segmentItems id items epoch_start_ms shard

def commitmentsOf (items : List AcceptedLogObject) : List Hex32 :=
  items.map AcceptedLogObject.commitment_hash

/-- An `acceptEvent` call that waits for the verifier. -/
structure PendingEvent where
  event : EventCommitmentV1
  eventTime : Int
  verification : Js VerificationResult

/-- A `submitCheckpoint` call that waits for the settlement backend. -/
structure PendingCheckpoint where
  epoch_start_ms : JsNumber
  shard : JsString
  settled : Js BatchCheckpointV1

def eventInput (event : EventCommitmentV1) : VerifyTSLInput where
  toEvidence := .fill fun _ => .absent
  proof_bundle := none
  envelope := .value event
  proof := .absent
  receipt_proofs := none
  checkpoint := .absent
  redaction_manifest := .absent

def signCheckpointWithSeed (N : Noble) (checkpoint : BatchCheckpointV1) (seedHex : JsString) :
    Js BatchCheckpointV1 := do
  let hash ← checkpointHash N { checkpoint with relay_signature := js "0x00" }
  let relay_signature ← signEd25519 N hash seedHex
  return { checkpoint with relay_signature }

/-- The event whose commitment stands for a signature when the relay has no key. -/
def pseudoEvent (content_commitment : Hex32) : EventCommitmentV1 where
  event_class := .attestation
  sender := js "did:tsl:relay:dev"
  signing_key_id := js "#relay-pseudo"
  receiver_commitment := none
  content_commitment
  metadata_commitment := none
  previous_event_commitment := none
  timestamp := js "2026-05-25T00:00:00Z"
  nonce := ZERO_HASH
  disclosure_policy := .«public»
  signature := js "0x00"

def signaturePayload (epoch_start_ms : JsNumber) (shard : JsString) (event_root : Hex32) :
    JsValue :=
  .obj [(js "epoch_start_ms", .num epoch_start_ms), (js "shard", .str shard),
    (js "event_root", .str event_root)]

def pseudoRelaySignature (N : Noble) (epoch_start_ms : JsNumber) (shard : JsString)
    (event_root : Hex32) : Js HexSig := do
  let payload ← canonicalBytes (signaturePayload epoch_start_ms shard event_root)
  commitmentHash N (pseudoEvent (hashDomain N (js "tsl.relay.signature.payload.v1") payload))

namespace InMemoryRelayStore

variable (R : Relay) (S : InMemoryRelayStore)

def create : Js InMemoryRelayStore := do
  let identity ← R.relay_identity
  let resolver : MemoryTrustResolver := ⟨.empty⟩
  return blank <| match identity with
    | some identity => resolver.upsertIdentity identity
    | none => resolver

def upsertIdentity (identity : IdentityDocumentV1) : Js InMemoryRelayStore :=
  if (R.host.validateSchema .identity identity.toJs).valid then
    return { S with resolver := S.resolver.upsertIdentity identity }
  else relayError "TSL_SCHEMA_INVALID" "Identity failed schema validation"

def eventsFor (epoch_start_ms : JsNumber) (shard : JsString) : List AcceptedEvent :=
  segmentItems AcceptedEvent.toAcceptedLogObject S.events epoch_start_ms shard

def eventCommitments (epoch_start_ms : JsNumber) (shard : JsString) : List Hex32 :=
  commitmentsOf ((S.eventsFor epoch_start_ms shard).map AcceptedEvent.toAcceptedLogObject)

def segmentClosed (epoch_start_ms : JsNumber) (shard : JsString) : Bool :=
  S.closedSegments.has (checkpointStoreKey R.host epoch_start_ms shard)

/-- `acceptEvent` up to the call that it awaits. -/
def beginAcceptEvent (event : EventCommitmentV1) : Js PendingEvent :=
  if !(R.host.validateSchema .event (.obj event.toFields)).valid then
    relayError "TSL_SCHEMA_INVALID" "Event failed schema validation"
  else match R.host.parse event.timestamp with
    | none => relayError "TSL_TIMESTAMP_INVALID" "Event timestamp is not parseable"
    | some eventTime =>
      if R.timestamp_window_ms.lt (.ofNat (R.host.now - eventTime).natAbs) then
        relayError "TSL_TIMESTAMP_OUT_OF_WINDOW" "Event timestamp is outside relay policy"
      else if nonceKey event ∈ S.nonces then
        relayError "TSL_NONCE_REPLAY" "Duplicate sender/key/nonce"
      else return {
        event
        eventTime
        verification := verifyTSL R.host R.tools (eventInput event) S.resolver.resolveTrustID
          emptyPolicy none }

/-- `acceptEvent` from the result of the verifier on. -/
def finishAcceptEvent (call : PendingEvent) : Js (AcceptedEvent × InMemoryRelayStore) := do
  let verification ← call.verification
  if !verification.verified || !truthy verification.commitment_hash then
    relayError "TSL_SIGNATURE_INVALID" "Event did not pass relay verification"
  else
    let commitment_hash := verification.commitment_hash.getD []
    let epoch_start_ms := R.epochStart (some call.eventTime)
    let shard := shardForTrustID R.noble call.event.sender
    if S.segmentClosed R epoch_start_ms shard then
      relayError "TSL_LOG_SEGMENT_CLOSED" "Cannot append to a checkpointed epoch/shard segment"
    else
      let accepted : AcceptedEvent := {
        event := call.event
        commitment_hash
        relay_id := R.relay_id
        shard
        epoch_start_ms
        epoch_duration_ms := R.duration
        log_index := (S.eventsFor epoch_start_ms shard).length
        accepted_at := R.host.nowText }
      return (accepted, { S with
        nonces := insert (nonceKey call.event) S.nonces
        events := S.events.set commitment_hash accepted })

/-- `acceptEvent` when nothing else runs while it waits. -/
def acceptEvent (event : EventCommitmentV1) : Js (AcceptedEvent × InMemoryRelayStore) := do
  let call ← S.beginAcceptEvent R event
  S.finishAcceptEvent R call

def acceptLogObject (items : OrderedMap Hex32 AcceptedLogObject) (commitment_hash : Hex32)
    (epoch_start_ms : JsNumber) (shard : JsString) : Js AcceptedLogObject :=
  if S.segmentClosed R epoch_start_ms shard then
    relayError "TSL_LOG_SEGMENT_CLOSED" "Cannot append to a checkpointed epoch/shard segment"
  else return {
    commitment_hash
    shard
    epoch_start_ms
    epoch_duration_ms := R.duration
    log_index := (objectsFor items epoch_start_ms shard).length
    accepted_at := R.host.nowText }

def acceptReceipt (receipt : ReceiptCommitmentV1) :
    Js (AcceptedLogObject × InMemoryRelayStore) := do
  let commitment ← receiptHash R.noble receipt
  let accepted ← S.acceptLogObject R S.receipts commitment
    (R.epochStart (R.host.parse receipt.timestamp)) (shardForTrustID R.noble receipt.receiver)
  return (accepted, { S with receipts := S.receipts.set commitment accepted })

def acceptAttestation (attestation : AttestationV1) :
    Js (AcceptedLogObject × InMemoryRelayStore) := do
  let commitment ← attestationHash R.noble attestation
  let accepted ← S.acceptLogObject R S.attestations commitment
    (R.epochStart (R.host.parse attestation.issued_at)) (shardForTrustID R.noble attestation.issuer)
  return (accepted, { S with attestations := S.attestations.set commitment accepted })

def acceptRevocation (revocation : RevocationV1) :
    Js (AcceptedLogObject × InMemoryRelayStore) := do
  let commitment ← revocationHash R.noble revocation
  let accepted ← S.acceptLogObject R S.revocations commitment
    (R.epochStart (R.host.parse revocation.effective_at))
    (shardForTrustID R.noble revocation.trust_id)
  return (accepted, { S with revocations := S.revocations.set commitment accepted })

def getAcceptedEvent (commitment : Hex32) : Option AcceptedEvent := S.events.get? commitment

def previousCheckpointHash (epoch_start_ms : JsNumber) (shard : JsString) : Js Hex32 :=
  let earlier := (S.settledCheckpoints.values.filter fun checkpoint =>
    checkpoint.shard == shard && checkpoint.epoch_start_ms.lt epoch_start_ms).insertionSort
      fun left right => right.epoch_start_ms.le left.epoch_start_ms = true
  match earlier with
  | previous :: _ => checkpointHash R.noble previous
  | [] => return ZERO_HASH

/-- The checkpoint of a segment that is not settled yet, before it is signed. -/
def unsignedCheckpoint (epoch_start_ms : JsNumber) (shard : JsString) : Js BatchCheckpointV1 := do
  let commitments := S.eventCommitments epoch_start_ms shard
  let receiptCommitments := commitmentsOf (objectsFor S.receipts epoch_start_ms shard)
  let attestationCommitments := commitmentsOf (objectsFor S.attestations epoch_start_ms shard)
  let revocationCommitments := commitmentsOf (objectsFor S.revocations epoch_start_ms shard)
  let eventTree ← buildMerkleTree R.noble commitments
  let receiptTree ← buildMerkleTree R.noble receiptCommitments
  let attestationTree ← buildMerkleTree R.noble attestationCommitments
  let revocationTree ← buildMerkleTree R.noble revocationCommitments
  let previous_checkpoint ← S.previousCheckpointHash R epoch_start_ms shard
  let backendId := R.options.settlement_backend.bind SettlementBackend.settlementBackendId
  let checkpoint : BatchCheckpointV1 := {
    epoch_start_ms
    epoch_duration_ms := R.duration
    shard
    event_root := eventTree.root
    receipt_root := receiptTree.root
    attestation_root := attestationTree.root
    revocation_root := revocationTree.root
    event_count := .ofNat commitments.length
    receipt_count := .ofNat receiptCommitments.length
    previous_checkpoint
    checkpoint_identity_hash := none
    settlement_backend := if truthy backendId then backendId else none
    settlement_tx := none
    relay_id := R.relay_id
    relay_signature := js "0x00" }
  let hash ← checkpointHash R.noble checkpoint
  return { checkpoint with checkpoint_identity_hash := some hash }

def signCheckpoint (checkpoint : BatchCheckpointV1) : Js BatchCheckpointV1 :=
  match R.signingSeed with
  | some seed => signCheckpointWithSeed R.noble checkpoint seed
  | none => do
    let relay_signature ← pseudoRelaySignature R.noble checkpoint.epoch_start_ms checkpoint.shard
      checkpoint.event_root
    return { checkpoint with relay_signature }

def checkpointFor (epoch_start_ms : JsNumber) (shard : JsString) : Js BatchCheckpointV1 :=
  match S.settledCheckpoints.get? (checkpointStoreKey R.host epoch_start_ms shard) with
  | some settled => return settled
  | none => do
    let checkpoint ← S.unsignedCheckpoint R epoch_start_ms shard
    signCheckpoint R checkpoint

def proofFor (commitment : Hex32) : Js (Option (InclusionProofV1 × BatchCheckpointV1)) :=
  match S.events.get? commitment with
  | none => return none
  | some accepted => do
    let commitments := (S.closedSegments.get?
      (checkpointStoreKey R.host accepted.epoch_start_ms accepted.shard)).getD
        (S.eventCommitments accepted.epoch_start_ms accepted.shard)
    let checkpoint ← S.checkpointFor R accepted.epoch_start_ms accepted.shard
    let hash ← checkpointHash R.noble checkpoint
    let proof ← buildInclusionProof R.noble {
      commitments
      leaf_index := .ofNat accepted.log_index
      tree_kind := .event
      epoch_start_ms := accepted.epoch_start_ms
      epoch_duration_ms := accepted.epoch_duration_ms
      shard := accepted.shard
      checkpoint_hash := some hash }
    return some (proof, checkpoint)

/-- `submitCheckpoint` up to the call that it awaits. -/
def beginSubmitCheckpoint (epoch_start_ms : JsNumber) (shard : JsString) : Js PendingCheckpoint :=
  match R.options.settlement_backend with
  | none => relayError "TSL_SETTLEMENT_BACKEND_MISSING" "No settlement backend is configured"
  | some backend => do
    let checkpoint ← S.checkpointFor R epoch_start_ms shard
    return { epoch_start_ms, shard, settled := backend.submitCheckpoint checkpoint }

def conflictsWith (settled existing : BatchCheckpointV1) : Js Bool := do
  let old ← checkpointHash R.noble existing
  let new ← checkpointHash R.noble settled
  return old != new

/-- Whether another checkpoint is already settled for the segment. -/
def settlesAnother (key : JsString) (settled : BatchCheckpointV1) : Js Bool :=
  match S.settledCheckpoints.get? key with
  | some existing => conflictsWith R settled existing
  | none => return false

/-- `submitCheckpoint` from the answer of the backend on. -/
def finishSubmitCheckpoint (call : PendingCheckpoint) :
    Js (BatchCheckpointV1 × InMemoryRelayStore) := do
  let settled ← call.settled
  let key := checkpointStoreKey R.host call.epoch_start_ms call.shard
  let conflict ← S.settlesAnother R key settled
  if conflict then
    relayError "TSL_CHECKPOINT_CONFLICT" "Conflicting checkpoint for closed epoch/shard segment"
  else return (settled, { S with
    closedSegments := S.closedSegments.set key (S.eventCommitments call.epoch_start_ms call.shard)
    settledCheckpoints := S.settledCheckpoints.set key settled })

def submitCheckpoint (epoch_start_ms : JsNumber) (shard : JsString) :
    Js (BatchCheckpointV1 × InMemoryRelayStore) := do
  let call ← S.beginSubmitCheckpoint R epoch_start_ms shard
  S.finishSubmitCheckpoint R call

end InMemoryRelayStore

end Continuity
