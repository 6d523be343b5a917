import Continuity.Abi
import Continuity.SettlementProof
import Continuity.VerifierSound

namespace Continuity
open SettlementProof
set_option autoImplicit true

/-- The bytes of a number, the highest first and none of them a leading zero. -/
def minimalBytes (n : Nat) : Bytes := bigEndian (if n = 0 then 0 else Nat.log2 n / 8 + 1) n

def rlpHead (base : Nat) (length : Nat) : Bytes :=
  if length < 56 then [.ofNat (base + length)]
  else .ofNat (base + 55 + (minimalBytes length).length) :: minimalBytes length

mutual
/-- The encoding that the RLP package decodes. -/
def rlpEncode : RlpValue → Bytes
  | .bytes [b] => if b < 128 then [b] else [129, b]
  | .bytes b => rlpHead 128 b.length ++ b
  | .list items => rlpHead 192 (rlpItems items).length ++ rlpItems items

def rlpItems : List RlpValue → Bytes
  | [] => []
  | item :: items => rlpEncode item ++ rlpItems items
end

/-- What is assumed of the packages: lists are decoded from their encoding, a proof that is
verified shows a value of the trie, and texts are hashed as the bytes they stand for. -/
structure ChainLibrary.Sound (L : ChainLibrary) (keccak : Bytes → Bytes)
    (InTrie : Bytes → Bytes → Bytes → Prop) : Prop where
  decode : ∀ bytes items, L.decode bytes = .ok (.list items) → rlpEncode (.list items) = bytes
  verifyProof : ∀ root key proof value, L.verifyProof root key proof = .ok (some value) →
    InTrie root key value
  keccak256 : ∀ text hash, L.keccak256 text = .ok hash →
    ∃ bytes, hexToBytes text = .ok bytes ∧ hash = bytesToHex (keccak bytes)

section LowerCase

variable (H : Host)

theorem hexDigit_lower (h : isHexDigit u = true) :
    u < 128 ∧ (if 65 ≤ u && u ≤ 90 then u + 32 else u) = toLowerHex u := by
  have hall : ∀ n : Fin 128, isHexDigit (UInt16.ofNat n) = true →
      (if 65 ≤ UInt16.ofNat n && UInt16.ofNat n ≤ 90 then UInt16.ofNat n + 32
        else UInt16.ofNat n) = toLowerHex (UInt16.ofNat n) := by decide
  have hlt : u.toNat < 128 := by
    simp only [isHexDigit, Bool.or_eq_true, Bool.and_eq_true, decide_eq_true_eq,
      UInt16.le_iff_toNat_le] at h
    rcases h with (h | h) | h
    · exact Nat.lt_of_le_of_lt h.2 (by decide)
    · exact Nat.lt_of_le_of_lt h.2 (by decide)
    · exact Nat.lt_of_le_of_lt h.2 (by decide)
  have hu := hall ⟨u.toNat, hlt⟩
  rw [UInt16.ofNat_toNat] at hu
  exact ⟨UInt16.lt_iff_toNat_lt.mpr hlt, hu h⟩

theorem toLowerCase_hexDigits {digits : JsString} (h : digits.all isHexDigit = true) :
    H.toLowerCase digits = digits.map toLowerHex ∧
      H.toLowerCase (48 :: 120 :: digits) = 48 :: 120 :: digits.map toLowerHex := by
  have hdigits := List.all_eq_true.mp h
  have hascii : digits.all (· < 128) = true :=
    List.all_eq_true.mpr fun u hu => decide_eq_true (hexDigit_lower (hdigits u hu)).1
  have hmap : (digits.map fun u => if 65 ≤ u && u ≤ 90 then u + 32 else u) =
      digits.map toLowerHex :=
    List.map_congr_left fun u hu => (hexDigit_lower (hdigits u hu)).2
  have hascii' : (48 :: 120 :: digits).all (· < 128) = true := by
    rw [List.all_cons, List.all_cons, hascii]
    rfl
  rw [Host.toLowerCase, if_pos hascii, hmap, Host.toLowerCase, if_pos hascii', List.map_cons,
    List.map_cons, hmap]
  exact ⟨rfl, rfl⟩

theorem toLowerCase_bytesToHex (bytes : Bytes) :
    H.toLowerCase (bytesToHex bytes) = bytesToHex bytes := by
  rw [bytesToHex, (toLowerCase_hexDigits H (hexDigits_all bytes)).2, hexDigits_lower]

end LowerCase

structure BlockHeader where
  bytes : Bytes
  fields : List RlpValue
  receiptRoot : Bytes
  number : Bytes

structure ReceiptLog where
  receiptFields : List RlpValue
  logs : List RlpValue
  fields : List RlpValue
  address : Bytes
  topics : List Bytes
  data : Bytes
  event : CheckpointSubmitted

/-- A receipt without the byte of its type. -/
def receiptPayload (receipt : Bytes) : Bytes :=
  match receipt with
  | first :: rest => if first < 0xc0 then rest else first :: rest
  | [] => []

/-- The value of bytes, the highest first. -/
def bytesValue (bytes : Bytes) : Nat := bytes.foldl (fun n b => n * 256 + b.toNat) 0

/-- The event in the log that evidence names. -/
def loggedEvent (L : ChainLibrary) (evidence : SettlementEvidenceV1) : Js CheckpointSubmitted :=
  match evidence.log_index with
  | none => throw "TSL_SETTLEMENT_LOG_PROOF_INVALID"
  | some index => do
    let receipt ← hexToBytes (evidence.receipt_rlp.getD [])
    let logs ← receiptLogs L receipt
    let log ← asList (← elementAt logs index)
    let topics ← (← asList (← element log 1)).mapM asBytes
    let data ← asBytes (← element log 2)
    L.decodeEventLog (bytesToHex data) (topics.map bytesToHex)

/-- Texts that are the same but for the case of their letters. -/
def SameText (H : Host) (a b : JsString) : Prop := H.toLowerCase a = H.toLowerCase b

section Facts

variable (H : Host) (L : ChainLibrary) (keccak : Bytes → Bytes)
  (InTrie : Bytes → Bytes → Bytes → Prop) (input : OfflineEvidenceInput)

/-- The header hashes to the block hash and carries the receipt root and the block number. -/
structure HeaderProved (header : BlockHeader) : Prop where
  bytes : ∃ text ∈ input.evidence.block_header_rlp, hexToBytes text = .ok header.bytes
  block_hash : ∃ text ∈ input.evidence.block_hash,
    H.toLowerCase text = bytesToHex (keccak header.bytes)
  fields : rlpEncode (.list header.fields) = header.bytes
  root_field : header.fields[5]? = some (.bytes header.receiptRoot)
  receipt_root : ∃ text ∈ input.evidence.receipt_root,
    H.toLowerCase text = bytesToHex header.receiptRoot
  number_field : header.fields[8]? = some (.bytes header.number)
  block_number : ∃ n ∈ input.evidence.block_number,
    n.toInt? = some (bytesValue header.number : Int)

/-- The receipt stands in the trie under the index of its transaction. -/
structure ReceiptProved (header : BlockHeader) (receipt : Bytes) : Prop where
  bytes : ∃ text ∈ input.evidence.receipt_rlp, hexToBytes text = .ok receipt
  in_trie : ∃ index ∈ input.evidence.transaction_index, ∃ key, L.encode index = .ok key ∧
    InTrie header.receiptRoot key receipt

/-- The log of the receipt is an event of the contract. -/
structure LogProved (receipt : Bytes) (log : ReceiptLog) : Prop where
  payload : rlpEncode (.list log.receiptFields) = receiptPayload receipt
  logs : log.receiptFields[3]? = some (.list log.logs)
  fields : ∃ index ∈ input.evidence.log_index, ∃ k : Nat, index.toInt? = some (k : Int) ∧
    log.logs[k]? = some (.list log.fields)
  address_field : log.fields[0]? = some (.bytes log.address)
  contract_address : H.toLowerCase input.evidence.contract_address = bytesToHex log.address
  topics_field : log.fields[1]? = some (.list (log.topics.map .bytes))
  topic : (log.topics.map bytesToHex).head? = some (CHECKPOINT_TOPIC H L)
  data_field : log.fields[2]? = some (.bytes log.data)
  event : L.decodeEventLog (bytesToHex log.data) (log.topics.map bytesToHex) = .ok log.event

/-- The event names the checkpoint, but for the time its epoch starts at. -/
structure EventProved (event : CheckpointSubmitted) : Prop where
  checkpoint_hash : SameText H event.checkpointHash input.checkpoint_hash
  fields_hash : SameText H event.contractCheckpointFieldsHash input.contract_checkpoint_fields_hash
  shard : ∃ text, checkpointShardEventValue L input.checkpoint.shard = .ok text ∧
    SameText H event.shard text
  event_root : SameText H event.eventRoot input.checkpoint.event_root

end Facts

section Conditions

theorem asBytes_ok (h : asBytes value = .ok bytes) : value = .bytes bytes := by
  cases value with
  | bytes b =>
    cases h
    rfl
  | list items => cases h

theorem mapM_asBytes_ok : ∀ {items : List RlpValue} {topics : List Bytes},
    items.mapM asBytes = .ok topics → items = topics.map .bytes
  | [], _, h => by
    cases h
    rfl
  | item :: items, topics, h => by
    rw [List.mapM_cons] at h
    obtain ⟨topic, ht, h⟩ := bind_eq_ok.mp h
    obtain ⟨rest, hr, h⟩ := bind_eq_ok.mp h
    cases h
    rw [asBytes_ok ht, mapM_asBytes_ok hr]
    rfl

variable {H : Host}

end Conditions

section Proved

variable {H : Host} {L : ChainLibrary} {keccak : Bytes → Bytes}
  {InTrie : Bytes → Bytes → Bytes → Prop} {input : OfflineEvidenceInput}

theorem SameText.hex {bytes : Bytes} (h : SameText H (bytesToHex bytes) text) :
    H.toLowerCase text = bytesToHex bytes := by
  rw [← h, toLowerCase_bytesToHex]

theorem strictEq_value {n : Nat} {m : JsNumber} (h : (JsNumber.ofNat n).strictEq m = true) :
    m.toInt? = some (n : Int) := by
  cases m with
  | fin q =>
    simp only [JsNumber.strictEq, JsNumber.ofNat, JsNumber.value?, Option.isSome_some,
      Bool.true_and, decide_eq_true_eq, Option.some.injEq] at h
    rw [← h]
    exact JsNumber.toInt?_ofNat n
  | negZero =>
    simp only [JsNumber.strictEq, JsNumber.ofNat, JsNumber.value?, Option.isSome_some,
      Bool.true_and, decide_eq_true_eq, Option.some.injEq, Nat.cast_eq_zero] at h
    rw [h]
    rfl
  | nan => simp [JsNumber.strictEq, JsNumber.ofNat, JsNumber.value?] at h
  | posInf => simp [JsNumber.strictEq, JsNumber.ofNat, JsNumber.value?] at h
  | negInf => simp [JsNumber.strictEq, JsNumber.ofNat, JsNumber.value?] at h

theorem rlpToNumber_ok (h : rlpToNumber value = .ok number) :
    ∃ bytes, value = .bytes bytes ∧ number = .ofNat (bytesValue bytes) := by
  obtain ⟨bytes, hb, h⟩ := bind_eq_ok.mp h
  dsimp only at h
  split at h
  · cases h
  · cases h
    exact ⟨bytes, asBytes_ok hb, rfl⟩

/-- All conditions of a list hold. -/
def allHold (conditions : List (Js Bool × String)) : Bool :=
  conditions.all fun condition => condition.1.toOption == some true

variable (H L keccak InTrie input) in
/-- The evidence shows, up to the time of the epoch, what it is taken to show. -/
def EntryShown (header : BlockHeader) (receipt : Bytes) (log : ReceiptLog) : Prop :=
  HeaderProved H keccak input header ∧ ReceiptProved L InTrie input header receipt ∧
    LogProved H L input receipt log ∧ EventProved H L input log.event

end Proved

section Sample

/-- A block with one transaction, whose receipt has one log. -/
structure ChainSample where
  contract : Bytes
  checkpointHash : Bytes32
  fieldsHash : Bytes32
  epochStartMs : Nat
  eventRoot : Bytes32
  number : UInt8
  receiptRoot : Bytes32
  blockHash : Bytes32
  receiptHash : Bytes32

def CHECKPOINT_SUBMITTED : Bytes32 :=
  0x6721eeac5be4402fc88b36eec8fa3b9448c2fb0cebc78afaac8e521d6d15cda4

/-- The address of the account that submits, as the ethers package writes it. -/
def submitterText : JsString := js "0xf39Fd6e51aad88F6F4ce6aB8827279cfffFb92266"

namespace ChainSample

variable (c : ChainSample)

def topics : List Bytes :=
  [CHECKPOINT_SUBMITTED, c.checkpointHash, BitVec.ofNat 256 c.epochStartMs, 0x0daa].map wordBytes

def data : Bytes :=
  wordBytes c.fieldsHash ++ wordBytes c.eventRoot ++
    wordBytes 0xf39fd6e51aad88f6f4ce6ab8827279cfffb92266

def receiptFields : List RlpValue :=
  [.bytes [1], .bytes [], .bytes [],
    .list [.list [.bytes c.contract, .list (c.topics.map .bytes), .bytes c.data]]]

def receipt : Bytes := 2 :: rlpEncode (.list c.receiptFields)

/-- The only node of the trie of receipts. -/
def node : Bytes := rlpEncode (.list [.bytes [32, 128], .bytes c.receipt])

def headerFields : List RlpValue :=
  [.bytes [], .bytes [], .bytes [], .bytes [], .bytes [], .bytes (wordBytes c.receiptRoot),
    .bytes [], .bytes [], .bytes [c.number]]

def header : Bytes := rlpEncode (.list c.headerFields)

def event : CheckpointSubmitted where
  checkpointHash := wordText c.checkpointHash
  contractCheckpointFieldsHash := wordText c.fieldsHash
  epochStartMs := c.epochStartMs
  shard := wordText 0x0daa
  eventRoot := wordText c.eventRoot
  submitter := submitterText

def evidence (settlement_event_hash receipt_proof finality chain_proof : Bytes32) :
    SettlementEvidenceV1 where
  checkpoint_hash := wordText c.checkpointHash
  checkpoint_identity_hash := wordText c.checkpointHash
  settlement_backend := js "eip155:31337"
  chain_id := .ofNat 31337
  contract_address := bytesToHex c.contract
  contract_checkpoint_hash := none
  contract_checkpoint_fields_hash := wordText c.fieldsHash
  settlement_tx := js "0x01"
  evidence_kind := .offline_receipt_log_proof
  block_header_rlp := some (bytesToHex c.header)
  receipt_rlp := some (bytesToHex c.receipt)
  receipt_proof_nodes := some [bytesToHex c.node]
  finality_proof := some {
    type := .finalized_block
    finalized_block_hash := some (wordText c.blockHash)
    confirmations := none
    source_commitment := wordText finality }
  transaction_receipt_hash := some (wordText c.receiptHash)
  block_hash := some (wordText c.blockHash)
  block_number := some (.ofNat c.number.toNat)
  receipt_root := some (wordText c.receiptRoot)
  transaction_index := some (.ofNat 0)
  receipt_status := some .success
  chain_proof_commitment := some (wordText chain_proof)
  settlement_event_hash := some (wordText settlement_event_hash)
  settlement_event_index := none
  event_topic_hash := some (wordText CHECKPOINT_SUBMITTED)
  event_topics := some (c.topics.map bytesToHex)
  event_data := some (bytesToHex c.data)
  log_index := some (.ofNat 0)
  receipt_proof_source_commitment := some (wordText receipt_proof)
  finality_source_commitment := some (wordText finality)
  submitter := submitterText
  submitted_at := js "2026-05-25T00:00:00Z"
  status := .settled

end ChainSample

/-- The hashes of the texts of some blocks. -/
def sampleKeccak (chain : List ChainSample) (bytes : Bytes) : Bytes :=
  wordBytes <| ((chain.flatMap fun c =>
    [(c.node, c.receiptRoot), (c.header, c.blockHash), (c.receipt, c.receiptHash)]).lookup
      bytes).getD 0

/-- The packages on some blocks. -/
def chainSampleLibrary (chain : List ChainSample) : ChainLibrary where
  decode bytes :=
    match (chain.flatMap fun c => [c.headerFields, c.receiptFields]).find? fun fields =>
      rlpEncode (.list fields) == bytes with
    | some fields => .ok (.list fields)
    | none => .error "invalid RLP"
  encode n := if n = .ofNat 0 then .ok [128] else .error "unrecorded number"
  verifyProof root key proof :=
    match chain.find? fun c =>
      wordBytes c.receiptRoot == root && key == [128] && proof == [c.node] with
    | some c => .ok (some c.receipt)
    | none => .error "Invalid proof nodes given"
  keccak256 text := do
    let bytes ← hexToBytes text
    return bytesToHex (sampleKeccak chain bytes)
  id _ := wordText CHECKPOINT_SUBMITTED
  zeroPadValue := Abi.zeroPadValue
  decodeEventLog data topics :=
    match chain.find? fun c => bytesToHex c.data == data && c.topics.map bytesToHex == topics with
    | some c => .ok c.event
    | none => .error "unrecorded log"

def InSampleTrie (chain : List ChainSample) (root key value : Bytes) : Prop :=
  ∃ c ∈ chain, wordBytes c.receiptRoot = root ∧ key = [128] ∧ value = c.receipt

theorem chainSampleLibrary_sound (chain : List ChainSample) :
    (chainSampleLibrary chain).Sound (sampleKeccak chain) (InSampleTrie chain) where
  decode bytes items h := by
    simp only [chainSampleLibrary] at h
    split at h
    · next fields hfind =>
      cases h
      simpa using List.find?_some hfind
    · cases h
  verifyProof root key proof value h := by
    simp only [chainSampleLibrary] at h
    split at h
    · next c hfind =>
      cases h
      have hc := List.find?_some hfind
      simp only [Bool.and_eq_true, beq_iff_eq] at hc
      exact ⟨c, List.mem_of_find?_eq_some hfind, hc.1.1, hc.1.2, rfl⟩
    · cases h
  keccak256 text hash h := by
    obtain ⟨bytes, hb, h⟩ := bind_eq_ok.mp h
    cases h
    exact ⟨bytes, hb, rfl⟩

section Accepted

variable {H : Host} {chain : List ChainSample} {c : ChainSample} {input : OfflineEvidenceInput}
  {eventHash receiptSource finalitySource chainProof : Bytes32}

/-- The packages read the texts of a block as its own. -/
structure ChainSample.Read (chain : List ChainSample) (c : ChainSample) : Prop where
  header : (chainSampleLibrary chain).decode c.header = .ok (.list c.headerFields)
  payload : (chainSampleLibrary chain).decode (rlpEncode (.list c.receiptFields)) =
    .ok (.list c.receiptFields)
  proof : (chainSampleLibrary chain).verifyProof (wordBytes c.receiptRoot) [128] [c.node] =
    .ok (some c.receipt)
  event : (chainSampleLibrary chain).decodeEventLog (bytesToHex c.data)
    (c.topics.map bytesToHex) = .ok c.event
  header_hash : sampleKeccak chain c.header = wordBytes c.blockHash
  receipt_hash : sampleKeccak chain c.receipt = wordBytes c.receiptHash

theorem mapM_asBytes : ∀ topics : List Bytes, (topics.map RlpValue.bytes).mapM asBytes = .ok topics
  | [] => rfl
  | topic :: topics => by
    rw [List.map_cons, List.mapM_cons, mapM_asBytes topics]
    rfl

/-- The hashes that evidence carries are those of its parts. -/
structure Committed (H : Host) (e : SettlementEvidenceV1) : Prop where
  event : SettlementProof.offlineSettlementEventHash H e = .ok e.settlement_event_hash
  receipt : SettlementProof.receiptProofSourceCommitment H e =
    .ok e.receipt_proof_source_commitment
  finality : finalitySourceCommitment H e = .ok e.finality_source_commitment
  chain : some <$> chainProofCommitment H e = .ok e.chain_proof_commitment

end Accepted

/-- A number by which the texts of the samples differ. -/
def checksum (bytes : Bytes) : Nat := bytes.foldl (fun n b => (n * 257 + b.toNat) % 1000003) 0

/-- The log names a time that no number has. -/
def roundedBlock : ChainSample where
  contract := bigEndian 20 0x5fbdb2315678afecb367f032d93f642f64180aa3
  checkpointHash := 0x1111111111111111111111111111111111111111111111111111111111111111
  fieldsHash := 0x2222222222222222222222222222222222222222222222222222222222222222
  epochStartMs := 2 ^ 53 + 1
  eventRoot := 0
  number := 12
  receiptRoot := 0xc86aeae7d7ec9bd427d691dfd50c5c0ca55f72ee4959de2475f3a03971a60dec
  blockHash := 0x5f8ef940073e0402abef1f8d4d98735d7dc0299cb79d63ffc05629c39ef089fb
  receiptHash := 0xb49665ea6f50aa1f426d9deff488fc67ad93516b994ea56c0aae647b1d12f1b9

def roundedInput : OfflineEvidenceInput where
  evidence := roundedBlock.evidence
    0xe885b3a3763ab11304ce18726cff9e075700089a0496e06525a43a792a6020a0
    0x21acab3df12de399a06cba1efbad214b8ba350c416be5640314c8680d52a9418
    0x5c9c456bfeed1ed8bc9402efab728026aef5aa5970ad3c3d562918820deb6eb3
    0xe57888d0f57b2b5c4798e33fc6e835bae0ba480ab681a95481cefe1eda49aba0
  checkpoint := {
    epoch_start_ms := .ofNat (2 ^ 53)
    epoch_duration_ms := .ofNat 60000
    shard := js "0daa"
    event_root := ZERO_HASH
    receipt_root := ZERO_HASH
    attestation_root := ZERO_HASH
    revocation_root := ZERO_HASH
    event_count := .ofNat 0
    receipt_count := .ofNat 0
    previous_checkpoint := ZERO_HASH
    checkpoint_identity_hash := none
    settlement_backend := some (js "eip155:31337")
    settlement_tx := none
    relay_id := js "did:tsl:relay"
    relay_signature := js "0x00" }
  checkpoint_hash := wordText roundedBlock.checkpointHash
  contract_checkpoint_fields_hash := wordText roundedBlock.fieldsHash
  policy := emptyPolicy.withDefaults

def roundedNoble : Noble :=
  recorded [] [] fun message =>
    wordBytes <| ([(797569, 0xe885b3a3763ab11304ce18726cff9e075700089a0496e06525a43a792a6020a0),
      (588885, 0x5c9c456bfeed1ed8bc9402efab728026aef5aa5970ad3c3d562918820deb6eb3),
      (979403, 0x21acab3df12de399a06cba1efbad214b8ba350c416be5640314c8680d52a9418),
      (789694, (0xe57888d0f57b2b5c4798e33fc6e835bae0ba480ab681a95481cefe1eda49aba0 : Bytes32))].lookup
        (checksum message)).getD 0

end Sample

end Continuity
