import Mathlib
import Continuity.DurableLogs
import Continuity.RelayRevocation
import Continuity.RevokedVerdict
import Continuity.VerifierSigners

namespace Continuity
open Frames Statements Program
set_option autoImplicit true

section Hashes

variable {N : Noble}

end Hashes

section Served

variable {P : PostgresRepository} {db : Database}

end Served

section Verifier

variable {C : Context}

end Verifier

/-- Where the policy asks for the inclusion of receipts. -/
def InclusionRequired (policy : VerifierPolicy JsField) : Prop :=
  isOn policy.withDefaults.require_receipt_inclusion_for_disclosed_receipts = true ∨
    policy.withDefaults.require_disclosure_consent_for_private_fields ≠ some false

/-- Alice acknowledges her own sample event. -/
def sampleReceipt : ReceiptCommitmentV1 where
  event_commitment := sampleCommitment
  receiver := js "did:tsl:alice"
  signing_key_id := js "#k1"
  receipt_class := .received
  timestamp := js "2026-05-25T00:00:00Z"
  metadata_commitment := none
  signature := bytesToHex (
    bigEndian 32 0xc2b3b0e4019e046f26e5a7b66984ee9c631e2253625d54173334f83492b0f9c9 ++
    bigEndian 32 0x0b57d4621b86a255af1d5855c1af96bd90c8d23561b139533763a90e129d220f)

def sampleReceiptCommitment : Hex32 :=
  hex32 0xffca5c8915ef52115807dda1e77de22688197b32bb2f09a828a37f66dab59eaf

def sampleReceiptRoot : Hex32 :=
  hex32 0xbcac709001d477f043ac51573389ea82dbe617b1db9fc2337c01ae6d023e60b5

def receiptCheckpoint : BatchCheckpointV1 :=
  { sampleCheckpoint with
    event_root := ZERO_HASH
    receipt_root := sampleReceiptRoot
    revocation_root := ZERO_HASH
    event_count := .ofNat 0
    receipt_count := .ofNat 1 }

/-- The digests of the receipt, of its log and of the checkpoint. -/
def receiptProofDigests : List (Bytes × Bytes) :=
  let hash := bigEndian 32 0x4fe6bb1dea0ae1bb8a79b810d4be22c887153bcfed32aee9998ab5882d650cdd
  [(textEncode (js "did:tsl:alice"),
      bigEndian 32 0x0daa9b8b453fb97ed5ea2d40497ddbf4837fc6d8faa09125149ec00bb164e59d),
    (domainMessage DOMAIN_TAGS.RECEIPT_V1 (valueBytes (.obj (withoutSignature
      sampleReceipt.toFields))), hash),
    (domainMessage DOMAIN_TAGS.COMMITMENT_V1 (hash ++ hexBytes sampleReceipt.signature),
      hexBytes sampleReceiptCommitment),
    (leafMessage 0 (hexBytes sampleReceiptCommitment), hexBytes sampleReceiptRoot),
    (domainMessage DOMAIN_TAGS.CHECKPOINT_V1 (valueBytes (checkpointPayload
      receiptCheckpoint.toFields
      [js "relay_signature", js "settlement_tx", js "checkpoint_identity_hash"])),
      bigEndian 32 0xbe6ec7a37ccaf7474edc5c72e5f1eea1f930c73a5615d3553b5996641a74913e)]

def receiptNoble : Noble := recorded receiptProofDigests [] longDigest

/-- The receipt is stored as the relay stores it, its segment is closed, and its proof is asked
for. -/
def receiptServed : Sql (Option (InclusionProofV1 × BatchCheckpointV1)) := do
  let P := samplePostgres receiptNoble
  let stored ← lift (receiptCommitmentHash receiptNoble sampleReceipt)
  P.insertReceipt sampleReceipt stored (js "did:tsl:relay:dev")
    (epochStartOf (Nat.toPNat' 300000) (P.host.parse sampleReceipt.timestamp))
  let _ ← P.closeEpoch (.ofNat 1779667200000) (js "0daa") (.ofNat 300000)
    (js "did:tsl:relay:dev") (js "0x01") none
  P.buildInclusionProofFor .receipt stored

/-- The verifier on the sample event with the receipt, the served proof and its checkpoint. -/
def receiptContext (proof : InclusionProofV1) (checkpoint : BatchCheckpointV1) : Context :=
  { gateContext receiptNoble checkpoint with
    input := { (gateContext receiptNoble checkpoint).input with receipt_proofs := some [proof] } }

def receiptGate : Js (Bool × Bool × Bool) :=
  match (receiptServed.run emptyDatabase).1 with
  | .ok (some (proof, checkpoint)) => do
    let included ← verifyInclusion receiptNoble proof
    let passed ← receiptProofValid (receiptContext proof checkpoint) sampleReceipt
    return (included, proof.root == checkpoint.receipt_root, passed)
  | _ => throw "no proof"

end Continuity
