import Continuity.VerifierContext

namespace Continuity
set_option autoImplicit true

/-- What `decode` of the RLP package returns. -/
inductive RlpValue where
  | bytes (b : Bytes)
  | list (items : List RlpValue)

/-- The arguments of the event `CheckpointSubmitted`. -/
structure CheckpointSubmitted where
  checkpointHash : JsString
  contractCheckpointFieldsHash : JsString
  epochStartMs : Nat
  shard : JsString
  eventRoot : JsString
  submitter : JsString

/-- The RLP, trie and ethers packages. -/
structure ChainLibrary where
  decode : Bytes → Js RlpValue
  encode : JsNumber → Js Bytes
  /-- `verifyProof` of a trie without key hashing: the value at a key, `none` for no value. -/
  verifyProof : Bytes → Bytes → List Bytes → Js (Option Bytes)
  keccak256 : JsString → Js JsString
  id : JsString → JsString
  zeroPadValue : JsString → Nat → Js JsString
  decodeEventLog : JsString → List JsString → Js CheckpointSubmitted

/-- `Number(n)` of a bigint: the nearest number with 53 bits, ties to even. -/
def numberOfBigInt (n : Nat) : JsNumber :=
  let unit := 2 ^ (Nat.log2 n - 52)
  let half := 2 * (n % unit)
  let up := unit < half || (half = unit && n / unit % 2 = 1)
  .ofNat ((n / unit + if up then 1 else 0) * unit)

example : numberOfBigInt (2 ^ 53 - 1) = .ofNat (2 ^ 53 - 1) := by decide +kernel

example : numberOfBigInt (2 ^ 53 + 1) = .ofNat (2 ^ 53) := by decide +kernel

example : numberOfBigInt (2 ^ 53 + 3) = .ofNat (2 ^ 53 + 4) := by decide +kernel

/-- Conditions one after the other; the first that fails gives its error code. -/
def firstFailure : List (Js Bool × String) → Js Outcome
  | [] => return { ok := true, error_code := none }
  | (condition, error_code) :: rest => do
    if ← condition then firstFailure rest else return { ok := false, error_code }

/-- `try { return x } catch { return fallback }`. -/
def caught (x : Js α) (fallback : α) : α :=
  match x with
  | .ok a => a
  | .error _ => fallback

namespace SettlementProof

def asList : RlpValue → Js (List RlpValue)
  | .list items => return items
  | .bytes _ => throw "RLP_EXPECTED_LIST"

def asBytes : RlpValue → Js Bytes
  | .bytes b => return b
  | .list _ => throw "RLP_EXPECTED_BYTES"

/-- An element of a list; code that reads a missing one throws on the value it gets. -/
def element (items : List RlpValue) (index : Nat) : Js RlpValue :=
  match items[index]? with
  | some item => return item
  | none => throw "RLP_EXPECTED_LIST"

/-- `items[index]`, a position that need not be an integer. -/
def elementAt (items : List RlpValue) (index : JsNumber) : Js RlpValue :=
  match index.toInt? with
  | some (.ofNat index) => element items index
  | _ => throw "RLP_EXPECTED_LIST"

section Header

variable (H : Host) (L : ChainLibrary)

def toHex (bytes : Bytes) : JsString := H.toLowerCase (bytesToHex bytes)

def hexEq (left right : Option JsString) : Bool :=
  truthy left && truthy right && left.map H.toLowerCase == right.map H.toLowerCase

def rlpToNumber (value : RlpValue) : Js JsNumber := do
  let bytes ← asBytes value
  let n := bytes.foldl (fun n b => n * 256 + b.toNat) 0
  if 2 ^ 53 - 1 < n then throw "RLP_NUMBER_UNSAFE" else return .ofNat n

def blockHeaderFields (blockHeaderRlp : JsString) : Js (List RlpValue) := do
  let header ← hexToBytes blockHeaderRlp
  let fields ← asList (← L.decode header)
  if fields.length < 9 then throw "BLOCK_HEADER_INVALID" else return fields

def receiptRootFromHeader (blockHeaderRlp : JsString) : Js Hex32 := do
  let fields ← blockHeaderFields L blockHeaderRlp
  let root ← asBytes (← element fields 5)
  return toHex H root

def blockNumberFromHeader (blockHeaderRlp : JsString) : Js JsNumber := do
  let fields ← blockHeaderFields L blockHeaderRlp
  rlpToNumber (← element fields 8)

def decodeReceiptPayload (receiptBytes : Bytes) : Js (List RlpValue) := do
  let payload := match receiptBytes with
    | first :: rest => if first < 0xc0 then rest else first :: rest
    | [] => []
  asList (← L.decode payload)

def receiptLogs (receiptBytes : Bytes) : Js (List RlpValue) := do
  let payload ← decodeReceiptPayload L receiptBytes
  asList (← element payload 3)

end Header

section Evidence

variable (H : Host) (L : ChainLibrary) (evidence : SettlementEvidenceV1)

def finalitySourceCommitment : Js (Option Hex32) :=
  match evidence.finality_proof with
  | none => return none
  | some finality => do
    let hash ← canonicalHash H.noble (.obj ([(js "type", .str finality.type.text),
      (js "chain_id", .num evidence.chain_id)] ++
      optField (js "block_hash") .str evidence.block_hash ++
      optField (js "block_number") .num evidence.block_number ++
      optField (js "finalized_block_hash") .str finality.finalized_block_hash ++
      optField (js "confirmations") .num finality.confirmations))
    return some hash

def receiptProofSourceCommitment : Js (Option Hex32) :=
  match evidence.receipt_proof_nodes, evidence.transaction_index with
  | some nodes, some index =>
    if truthy evidence.block_header_rlp && truthy evidence.receipt_rlp then do
      let hash ← canonicalHash H.noble (.obj (
        optField (js "block_header_rlp") .str evidence.block_header_rlp ++
        optField (js "receipt_rlp") .str evidence.receipt_rlp ++
        [(js "receipt_proof_nodes", textList nodes)] ++
        optField (js "receipt_root") .str evidence.receipt_root ++
        [(js "transaction_index", .num index)] ++
        optField (js "log_index") .num evidence.log_index ++
        optField (js "finality_proof") FinalityProof.toJs evidence.finality_proof))
      return some hash
    else return none
  | _, _ => return none

def chainProofCommitment : Js Hex32 :=
  canonicalHash H.noble (.obj [
    (js "settlement_event_hash", optional .str evidence.settlement_event_hash),
    (js "receipt_proof_source_commitment",
      optional .str evidence.receipt_proof_source_commitment),
    (js "finality_source_commitment", optional .str evidence.finality_source_commitment)])

def offlineSettlementEventHash : Js (Option Hex32) :=
  if nonEmptyList evidence.event_topics && truthy evidence.event_data then do
    let hash ← canonicalHash H.noble (.obj [(js "chain_id", .num evidence.chain_id),
      (js "contract_address", .str (H.toLowerCase evidence.contract_address)),
      (js "settlement_tx", .str (H.toLowerCase evidence.settlement_tx)),
      (js "transaction_receipt_hash", optional .str evidence.transaction_receipt_hash),
      (js "block_hash", optional .str evidence.block_hash),
      (js "log_index", optional .num evidence.log_index),
      (js "event_topics", textList ((evidence.event_topics.getD []).map H.toLowerCase)),
      (js "event_data", .str (H.toLowerCase (evidence.event_data.getD [])))])
    return some hash
  else return none

def verifyReceiptTrieProof : Js Bool :=
  match evidence.transaction_index, evidence.receipt_rlp, evidence.receipt_proof_nodes with
  | some index, some receipt, some (node :: nodes) =>
    if truthy evidence.receipt_root && (js "0x").isPrefixOf receipt then do
      let root ← hexToBytes (evidence.receipt_root.getD [])
      let key ← L.encode index
      let proof ← (node :: nodes).mapM hexToBytes
      match ← L.verifyProof root key proof with
      | some value => return toHex H value == H.toLowerCase receipt
      | none => return false
    else return false
  | _, _, _ => return false

/-- `/^0x[0-9a-fA-F]{1,64}$/`. -/
def isShortHex (s : JsString) : Bool :=
  (js "0x").isPrefixOf s && 3 ≤ s.length && s.length ≤ 66 &&
    (s.drop 2).all fun u =>
      (48 ≤ u && u ≤ 57) || (97 ≤ u && u ≤ 102) || (65 ≤ u && u ≤ 70)

def checkpointShardEventValue (shard : JsString) : Js JsString :=
  let normalized := if (js "0x").isPrefixOf shard then shard else js "0x" ++ shard
  if isShortHex normalized then L.zeroPadValue normalized 32 else return L.id shard

def CHECKPOINT_TOPIC : JsString :=
  H.toLowerCase (L.id (js "CheckpointSubmitted(bytes32,bytes32,uint64,bytes32,bytes32,address)"))

/-- The log of the receipt decodes to the submission of the checkpoint. -/
def logMatchesCheckpoint (checkpoint : BatchCheckpointV1) (data : JsString)
    (topics : List JsString) : Js Bool := do
  let decoded ← L.decodeEventLog data topics
  let same (left right : JsString) : Bool := H.toLowerCase left == H.toLowerCase right
  if same decoded.checkpointHash evidence.checkpoint_identity_hash &&
    same decoded.contractCheckpointFieldsHash evidence.contract_checkpoint_fields_hash &&
    (numberOfBigInt decoded.epochStartMs).strictEq checkpoint.epoch_start_ms then
    let shard ← checkpointShardEventValue L checkpoint.shard
    return same decoded.shard shard && same decoded.eventRoot checkpoint.event_root &&
      same decoded.submitter evidence.submitter
  else return false

def verifyReceiptLog (checkpoint : BatchCheckpointV1) : Js Bool :=
  match evidence.log_index, evidence.event_topics with
  | some index, some (topic :: rest) =>
    if truthy evidence.receipt_rlp && truthy evidence.event_data &&
      truthy evidence.event_topic_hash then do
      let receipt ← hexToBytes (evidence.receipt_rlp.getD [])
      let logs ← receiptLogs L receipt
      let log ← asList (← elementAt logs index)
      let address ← asBytes (← element log 0)
      let topics ← (← asList (← element log 1)).mapM asBytes
      let topics := topics.map (toHex H)
      let data := toHex H (← asBytes (← element log 2))
      if !hexEq H (some (toHex H address)) (some evidence.contract_address) then return false
      if data ≠ H.toLowerCase (evidence.event_data.getD []) then return false
      if jsonStringify H (textList (topics.map H.toLowerCase)) ≠
        jsonStringify H (textList ((topic :: rest).map H.toLowerCase)) then return false
      if topics.head? ≠ some (CHECKPOINT_TOPIC H L) ||
        H.toLowerCase (evidence.event_topic_hash.getD []) ≠ CHECKPOINT_TOPIC H L then
        return false
      logMatchesCheckpoint H L evidence checkpoint data topics
    else return false
  | _, _ => return false

end Evidence

def RECEIPT_PROOF_INVALID : String := "TSL_SETTLEMENT_RECEIPT_PROOF_INVALID"

def LOG_PROOF_INVALID : String := "TSL_SETTLEMENT_LOG_PROOF_INVALID"

def MISMATCH : String := "TSL_SETTLEMENT_MISMATCH"

def FINALITY_INVALID : String := "TSL_SETTLEMENT_FINALITY_INVALID"

section Verify

variable (H : Host) (L : ChainLibrary) (input : OfflineEvidenceInput)

/-- The receipt is in a block whose header has the stated hash, root and number. -/
def receiptConditions (header receipt : JsString) : List (Js Bool × String) :=
  let e := input.evidence
  [(do return hexEq H (some (H.toLowerCase (← L.keccak256 header))) e.block_hash,
      RECEIPT_PROOF_INVALID),
    (do return hexEq H (some (← receiptRootFromHeader H L header)) e.receipt_root,
      RECEIPT_PROOF_INVALID),
    (do
      let number ← blockNumberFromHeader L header
      return e.block_number.any number.strictEq, RECEIPT_PROOF_INVALID),
    (do return hexEq H (some (← L.keccak256 receipt)) e.transaction_receipt_hash,
      RECEIPT_PROOF_INVALID),
    (verifyReceiptTrieProof H L e, RECEIPT_PROOF_INVALID)]

/-- The log of the receipt is the event that settles the checkpoint. -/
def logConditions : List (Js Bool × String) :=
  let e := input.evidence
  [(return caught (verifyReceiptLog H L e input.checkpoint) false, LOG_PROOF_INVALID),
    (do return e.settlement_event_hash == (← offlineSettlementEventHash H e), LOG_PROOF_INVALID),
    (return e.receipt_status == some .success && e.status == .settled, RECEIPT_PROOF_INVALID),
    (return hexEq H (some e.checkpoint_hash) (some input.checkpoint_hash) &&
      hexEq H (some e.checkpoint_identity_hash) (some input.checkpoint_hash), MISMATCH),
    (return hexEq H (some e.contract_checkpoint_fields_hash)
      (some input.contract_checkpoint_fields_hash), MISMATCH),
    (return !truthy input.checkpoint.settlement_backend ||
      input.checkpoint.settlement_backend == some e.settlement_backend, MISMATCH)]

def finalityConditions (finality : FinalityProof) : List (Js Bool × String) :=
  let e := input.evidence
  [(do return e.receipt_proof_source_commitment == (← receiptProofSourceCommitment H e),
      RECEIPT_PROOF_INVALID),
    (do return e.finality_source_commitment == (← finalitySourceCommitment H e),
      FINALITY_INVALID),
    (return e.finality_source_commitment == some finality.source_commitment, FINALITY_INVALID),
    (return finality.type ≠ .finalized_block ||
      hexEq H finality.finalized_block_hash e.block_hash, FINALITY_INVALID),
    (return finality.type ≠ .confirmations || !(finality.confirmations.getD (.ofNat 0)).lt
      (input.policy.min_settlement_confirmations.getD (.ofNat 12)), FINALITY_INVALID),
    (do return e.chain_proof_commitment == some (← chainProofCommitment H e),
      RECEIPT_PROOF_INVALID)]

def offlineConditions : List (Js Bool × String) :=
  match input.evidence.block_header_rlp, input.evidence.receipt_rlp,
    input.evidence.finality_proof with
  | some header, some receipt, some finality =>
    (return !header.isEmpty && !receipt.isEmpty &&
      nonEmptyList input.evidence.receipt_proof_nodes, RECEIPT_PROOF_INVALID) ::
      receiptConditions H L input header receipt ++ logConditions H L input ++
      finalityConditions H input finality
  | _, _, _ => [(return false, RECEIPT_PROOF_INVALID)]

end Verify

end SettlementProof

open SettlementProof

/-- The policy turns away evidence that only an RPC node attests. -/
def rejectsRpc (policy : VerifierPolicy Option) : Bool :=
  isOn policy.reject_rpc_attested_settlement_for_mainnet ||
    isOn policy.require_offline_settlement_proof

def verifyOfflineSettlementEvidence (H : Host) (L : ChainLibrary) (input : OfflineEvidenceInput) :
    Js Outcome :=
  match input.evidence.evidence_kind with
  | .rpc_attested_receipt =>
    return if rejectsRpc input.policy then
        { ok := false, error_code := some "TSL_SETTLEMENT_OFFLINE_PROOF_REQUIRED" }
      else { ok := true, error_code := none }
  | .offline_receipt_log_proof =>
    return caught (firstFailure (offlineConditions H L input))
      { ok := false, error_code := some RECEIPT_PROOF_INVALID }

end Continuity
