import Continuity.Abi
import Continuity.CheckpointIdentity
import Continuity.CheckpointRegistry
import Continuity.MerkleDigest
import Continuity.RegistryChain
import Continuity.RelayProofs
import Continuity.SettlementProof
import Continuity.ZkProof

namespace Continuity
open CheckpointRegistry
set_option autoImplicit true

/-- What `toContractCheckpointInput` hands to the contract. -/
structure ContractInput where
  epochStartMs : Int
  epochDurationMs : JsNumber
  shard : JsString
  eventRoot : JsString
  receiptRoot : JsString
  attestationRoot : JsString
  revocationRoot : JsString
  eventCount : Int
  receiptCount : Int
  previousCheckpoint : JsString
  checkpointIdentityHash : JsString
  relayId : JsString
  settlementBackend : JsString

def shardToBytes32 (shard : JsString) : Js JsString :=
  let normalized := if (js "0x").isPrefixOf shard then shard else js "0x" ++ shard
  if !SettlementProof.isShortHex normalized then throw "Invalid shard hex"
  else Abi.zeroPadValue normalized 32

/-- The call data of an input. -/
def ContractInput.encode (input : ContractInput) : Js CheckpointInput := do
  let epochStartMs ← Abi.uint64 input.epochStartMs
  let epochDurationMs ← Abi.uint32 input.epochDurationMs
  let shard ← Abi.bytes32 input.shard
  let eventRoot ← Abi.bytes32 input.eventRoot
  let receiptRoot ← Abi.bytes32 input.receiptRoot
  let attestationRoot ← Abi.bytes32 input.attestationRoot
  let revocationRoot ← Abi.bytes32 input.revocationRoot
  let eventCount ← Abi.uint64 input.eventCount
  let receiptCount ← Abi.uint64 input.receiptCount
  let previousCheckpoint ← Abi.bytes32 input.previousCheckpoint
  let checkpointIdentityHash ← Abi.bytes32 input.checkpointIdentityHash
  let relayId ← Abi.bytes32 input.relayId
  let settlementBackend ← Abi.bytes32 input.settlementBackend
  return {
    epochStartMs
    epochDurationMs
    shard
    eventRoot
    receiptRoot
    attestationRoot
    revocationRoot
    eventCount
    receiptCount
    previousCheckpoint
    checkpointIdentityHash
    relayId
    settlementBackend }

namespace LocalEvmSettlementBackend

variable (B : LocalEvmSettlementBackend) (N : Noble)

def relayIdToBytes32 (relayId : JsString) : Js JsString :=
  if isWordText relayId then return relayId else wordText <$> B.ethers.id relayId

def backendToBytes32 (settlement_backend : Option JsString) : Js JsString :=
  if truthy settlement_backend then wordText <$> B.ethers.id (settlement_backend.getD [])
  else return ZERO_HASH

def toContractCheckpointInput (checkpoint : BatchCheckpointV1) : Js ContractInput := do
  let epochStartMs ← bigInt checkpoint.epoch_start_ms
  let shard ← shardToBytes32 checkpoint.shard
  let eventCount ← bigInt checkpoint.event_count
  let receiptCount ← bigInt checkpoint.receipt_count
  let checkpointIdentityHash ← checkpointHash N checkpoint
  let relayId ← B.relayIdToBytes32 checkpoint.relay_id
  let settlementBackend ← B.backendToBytes32 checkpoint.settlement_backend
  return {
    epochStartMs
    epochDurationMs := checkpoint.epoch_duration_ms
    shard
    eventRoot := checkpoint.event_root
    receiptRoot := checkpoint.receipt_root
    attestationRoot := checkpoint.attestation_root
    revocationRoot := checkpoint.revocation_root
    eventCount
    receiptCount
    previousCheckpoint := checkpoint.previous_checkpoint
    checkpointIdentityHash
    relayId
    settlementBackend }

def contractCheckpointFieldsHashForCheckpoint (checkpoint : BatchCheckpointV1) : Js Hex32 := do
  let input ← B.toContractCheckpointInput N checkpoint
  let epochStartMs ← Abi.uint64 input.epochStartMs
  let epochDurationMs ← Abi.uint32 input.epochDurationMs
  let shard ← Abi.bytes32 input.shard
  let eventRoot ← Abi.bytes32 input.eventRoot
  let receiptRoot ← Abi.bytes32 input.receiptRoot
  let attestationRoot ← Abi.bytes32 input.attestationRoot
  let revocationRoot ← Abi.bytes32 input.revocationRoot
  let rootsHash := wordText (B.evm.keccak256 (abiWords [uint64Word epochStartMs,
    uint32Word epochDurationMs, shard, eventRoot, receiptRoot, attestationRoot, revocationRoot]))
  let eventCount ← Abi.uint64 input.eventCount
  let receiptCount ← Abi.uint64 input.receiptCount
  let countsHash := wordText
    (B.evm.keccak256 (abiWords [uint64Word eventCount, uint64Word receiptCount]))
  let roots ← Abi.bytes32 rootsHash
  let counts ← Abi.bytes32 countsHash
  let previousCheckpoint ← Abi.bytes32 input.previousCheckpoint
  let checkpointIdentityHash ← Abi.bytes32 input.checkpointIdentityHash
  let relayId ← Abi.bytes32 input.relayId
  let settlementBackend ← Abi.bytes32 input.settlementBackend
  return wordText (B.evm.keccak256 (abiWords [roots, counts, previousCheckpoint,
    checkpointIdentityHash, relayId, settlementBackend]))

/-- What the contract gets for a checkpoint. -/
def contractInput (checkpoint : BatchCheckpointV1) : Js CheckpointInput := do
  let input ← B.toContractCheckpointInput N checkpoint
  input.encode

end LocalEvmSettlementBackend

def isSchemaInteger (minimum : Int) (n : JsNumber) : Bool :=
  match n.toInt? with
  | some z => minimum ≤ z
  | none => false

/-- The schema of checkpoints. -/
def checkpointSchema (c : BatchCheckpointV1) : Bool :=
  isSchemaInteger 0 c.epoch_start_ms && isSchemaInteger 1 c.epoch_duration_ms &&
    (4 ≤ c.shard.length && c.shard.length ≤ 16 && c.shard.all isLowerHexDigit) &&
    isHexDigest c.event_root && isHexDigest c.receipt_root && isHexDigest c.attestation_root &&
    isHexDigest c.revocation_root && isSchemaInteger 0 c.event_count &&
    isSchemaInteger 0 c.receipt_count && isHexDigest c.previous_checkpoint &&
    c.checkpoint_identity_hash.all isHexDigest && (js "did:tsl:").isPrefixOf c.relay_id &&
    ((js "0x").isPrefixOf c.relay_signature && 3 ≤ c.relay_signature.length &&
      (c.relay_signature.drop 2).all isLowerHexDigit)

/-- What the encoding asks of a checkpoint beyond the schema. -/
structure Fits (checkpoint : BatchCheckpointV1) : Prop where
  epoch : Encodable (.num checkpoint.epoch_start_ms)
  duration : ∀ z, checkpoint.epoch_duration_ms.toInt? = some z → z < 2 ^ 32
  shard : checkpoint.shard.length % 2 = 0
  events : Encodable (.num checkpoint.event_count)
  receipts : Encodable (.num checkpoint.receipt_count)
  relay : WellFormed checkpoint.relay_id
  backend : ∀ text ∈ checkpoint.settlement_backend, WellFormed text

/-- `id` hashes the UTF-8 bytes of a text, and throws on a lone surrogate. -/
def Ethers.HashesUtf8 (E : Ethers) : Prop := ∀ text, (∃ word, E.id text = .ok word) ↔ WellFormed text

section Shards

theorem shard_not_marked (h : shard.all isLowerHexDigit = true) :
    (js "0x").isPrefixOf shard = false := by
  cases hp : (js "0x").isPrefixOf shard with
  | false => rfl
  | true =>
    obtain ⟨rest, rfl⟩ := List.isPrefixOf_iff_prefix.mp hp
    exact absurd (List.all_eq_true.mp h 120 (List.mem_append_left rest (by decide)))
      (by decide)

theorem lowerHexDigit_hex (h : isLowerHexDigit u = true) : isHexDigit u = true := by
  obtain ⟨n, rfl⟩ := lowerHexDigit_char h
  exact (hexChar_lower n).2.1

theorem all_lower_hex {digits : JsString} (h : digits.all isLowerHexDigit = true) : digits.all isHexDigit = true :=
  List.all_eq_true.mpr fun u hu => lowerHexDigit_hex (List.all_eq_true.mp h u hu)

theorem zeros_hexDigits (n : Nat) :
    (List.replicate n (0 : UInt8)).flatMap hexDigits = List.replicate (2 * n) 48 := by
  induction n with
  | zero => rfl
  | succ n ih =>
    rw [List.replicate_succ, List.flatMap_cons, ih]
    rfl

/-- The bytes of a shard, filled up to a word. -/
def shardBytes (shard : JsString) : Bytes := padFront 0 32 (nobleHexToBytes shard)

theorem shardBytes_length (hu : shard.length ≤ 64) : (shardBytes shard).length = 32 := by
  rw [shardBytes, padFront, List.length_append, List.length_replicate, nobleHexToBytes_length]
  omega

theorem shardBytes_hex (h : LowerHex shard) :
    bytesToHex (shardBytes shard) = 48 :: 120 :: padFront 48 64 shard := by
  have hfill : 2 * (32 - (nobleHexToBytes shard).length) = 64 - shard.length := by
    have heven := h.2
    rw [nobleHexToBytes_length]
    omega
  rw [bytesToHex, shardBytes, padFront, padFront, List.flatMap_append, zeros_hexDigits,
    hexDigits_nobleHexToBytes shard h, hfill]

/-- A shard is encoded if it has an even number of digits. -/
theorem shardToBytes32_ok (hl : 1 ≤ shard.length) (hu : shard.length ≤ 64)
    (h : shard.all isLowerHexDigit = true) :
    (shardToBytes32 shard = .ok text) ↔
      shard.length % 2 = 0 ∧ text = bytesToHex (shardBytes shard) := by
  have hp : (js "0x").isPrefixOf (js "0x" ++ shard) = true :=
    List.isPrefixOf_iff_prefix.mpr (List.prefix_append _ _)
  have hlen : (js "0x" ++ shard).length = 2 + shard.length := by
    rw [List.length_append]
    rfl
  have hd : (js "0x" ++ shard).drop 2 = shard := rfl
  have hshort : SettlementProof.isShortHex (js "0x" ++ shard) = true := by
    rw [SettlementProof.isShortHex, hp, hlen, hd]
    simp only [Bool.true_and, Bool.and_eq_true, decide_eq_true_eq]
    exact ⟨⟨by omega, by omega⟩, all_lower_hex h⟩
  simp only [shardToBytes32, shard_not_marked h, Bool.false_eq_true, if_false, hshort,
    Bool.not_true]
  rw [Abi.zeroPadValue, Abi.bytesLike, hp, hlen, hd, all_lower_hex h]
  by_cases heven : shard.length % 2 = 0
  · have hcond : (true && (2 + shard.length) % 2 == 0 && true) = true := by
      rw [Nat.add_mod_left, heven]
      rfl
    have hbytes : hexBytes (js "0x" ++ shard) = nobleHexToBytes shard :=
      hexBytes_ok (hexToBytes_lower ⟨h, heven⟩)
    have hfit : ¬32 < (nobleHexToBytes shard).length := by
      rw [nobleHexToBytes_length]
      omega
    rw [if_pos hcond, hbytes, bind_eq_ok]
    constructor
    · rintro ⟨bytes, hb, htext⟩
      cases hb
      rw [if_neg hfit] at htext
      cases htext
      exact ⟨heven, rfl⟩
    · rintro ⟨-, rfl⟩
      refine ⟨_, rfl, ?_⟩
      rw [if_neg hfit]
      rfl
  · have hcond : ¬(true && (2 + shard.length) % 2 == 0 && true) = true := by
      rw [Nat.add_mod_left]
      simpa using heven
    rw [if_neg hcond]
    constructor
    · intro htext
      cases htext
    · exact fun hboth => absurd hboth.1 heven

/-- Shards with one word are the same shard up to zeros in front. -/
theorem shardBytes_eq_iff (ha : LowerHex a) (hb : LowerHex b) (hla : a.length ≤ 64)
    (hlb : b.length ≤ 64) :
    shardBytes a = shardBytes b ↔ a.dropWhile (· == 48) = b.dropWhile (· == 48) := by
  rw [← padFront_eq_iff 48 hla hlb]
  constructor
  · intro h
    have hhex := congrArg bytesToHex h
    rw [shardBytes_hex ha, shardBytes_hex hb] at hhex
    exact (List.cons.inj (List.cons.inj hhex).2).2
  · intro h
    apply bytesToHex_injective
    rw [shardBytes_hex ha, shardBytes_hex hb, h]

end Shards

section Identity

variable {checkpoint : BatchCheckpointV1}

theorem checkpointHash_word (hN : Digest32 N) {hash : Hex32}
    (h : checkpointHash N checkpoint = .ok hash) : ∃ word, hash = wordText word := by
  obtain ⟨bytes, -, rfl⟩ := checkpointObjectHash_ok (checkpointHash_eq N checkpoint ▸ h)
  exact ⟨wordOfBytes _, by rw [wordText, wordBytes_wordOfBytes (hN _)]; rfl⟩

theorem isHexDigest_word (h : isHexDigest text = true) : ∃ word, text = wordText word := by
  simp only [isHexDigest, Bool.and_eq_true, beq_iff_eq] at h
  obtain ⟨⟨hp, hl⟩, hd⟩ := h
  obtain ⟨digits, rfl⟩ := List.isPrefixOf_iff_prefix.mp hp
  have hlen : digits.length = 64 := by
    have hmark : (js "0x").length = 2 := rfl
    rw [List.length_append, hmark] at hl
    omega
  have hlower : LowerHex digits := ⟨hd, by rw [hlen]⟩
  refine ⟨wordOfBytes (nobleHexToBytes digits), ?_⟩
  rw [wordText, wordBytes_wordOfBytes (by rw [nobleHexToBytes_length, hlen]),
    bytesToHex_lower hlower]
  rfl

theorem isWordText_identifier (h : (js "did:tsl:").isPrefixOf text = true) :
    isWordText text = false := by
  obtain ⟨rest, rfl⟩ := List.isPrefixOf_iff_prefix.mp h
  rfl

end Identity

section Schema

variable {checkpoint : BatchCheckpointV1}

/-- What the schema says of the fields that reach the contract. -/
structure SchemaFields (checkpoint : BatchCheckpointV1) : Prop where
  epoch : isSchemaInteger 0 checkpoint.epoch_start_ms = true
  duration : isSchemaInteger 1 checkpoint.epoch_duration_ms = true
  shard_least : 4 ≤ checkpoint.shard.length
  shard_most : checkpoint.shard.length ≤ 16
  shard_digits : checkpoint.shard.all isLowerHexDigit = true
  event_root : isHexDigest checkpoint.event_root = true
  receipt_root : isHexDigest checkpoint.receipt_root = true
  attestation_root : isHexDigest checkpoint.attestation_root = true
  revocation_root : isHexDigest checkpoint.revocation_root = true
  event_count : isSchemaInteger 0 checkpoint.event_count = true
  receipt_count : isSchemaInteger 0 checkpoint.receipt_count = true
  previous_checkpoint : isHexDigest checkpoint.previous_checkpoint = true
  relay_id : (js "did:tsl:").isPrefixOf checkpoint.relay_id = true

theorem checkpointSchema_fields (h : checkpointSchema checkpoint = true) :
    SchemaFields checkpoint := by
  simp only [checkpointSchema, Bool.and_eq_true, decide_eq_true_eq] at h
  obtain ⟨⟨⟨⟨⟨⟨⟨⟨⟨⟨⟨⟨he, hd⟩, ⟨⟨hl, hu⟩, hs⟩⟩, h1⟩, h2⟩, h3⟩, h4⟩, hc⟩, hr⟩, hp⟩, -⟩, hi⟩, -⟩ := h
  exact ⟨he, hd, hl, hu, hs, h1, h2, h3, h4, hc, hr, hp, hi⟩

theorem SchemaFields.shard_encoded (hs : SchemaFields checkpoint) :
    shardToBytes32 checkpoint.shard = .ok text ↔
      checkpoint.shard.length % 2 = 0 ∧ text = bytesToHex (shardBytes checkpoint.shard) :=
  shardToBytes32_ok ((by decide : 1 ≤ 4).trans hs.shard_least)
    (hs.shard_most.trans (by decide)) hs.shard_digits

theorem isSchemaInteger_toInt {minimum : Int} (h : isSchemaInteger minimum n = true) :
    ∃ z, n.toInt? = some z ∧ minimum ≤ z := by
  unfold isSchemaInteger at h
  split at h
  · next z hz => exact ⟨z, hz, of_decide_eq_true h⟩
  · cases h

theorem ofInt_natCast (k : Nat) : JsNumber.ofInt k = .ofNat k := by
  simp [JsNumber.ofInt, JsNumber.ofNat]

/-- A number of the schema that has a canonical text. -/
theorem isSchemaInteger_encodable (h : isSchemaInteger 0 n = true) (he : Encodable (.num n)) :
    ∃ k : Nat, n = .ofNat k ∧ k < 2 ^ 53 := by
  obtain ⟨z, rfl⟩ := JsNumber.eq_ofInt he.1 he.2
  obtain ⟨z', hz, hle⟩ := isSchemaInteger_toInt h
  have hsafe := he.1
  rw [JsNumber.toInt?_ofInt, Option.some.injEq] at hz
  subst hz
  obtain ⟨k, rfl⟩ := Int.eq_ofNat_of_zero_le hle
  simp only [JsNumber.isSafeInteger, JsNumber.toInt?_ofInt, decide_eq_true_eq,
    Int.natAbs_natCast] at hsafe
  exact ⟨k, ofInt_natCast k, hsafe⟩

theorem uint64_ofNat (h : k < 2 ^ 53) : Abi.uint64 (k : Nat) = .ok (.ofNat k) := by
  have hfit : ¬((k : Int) < 0 ∨ 2 ^ 64 ≤ (k : Int)) := by
    omega
  rw [Abi.uint64, if_neg hfit, Int.toNat_natCast]
  rfl

/-- A duration is encoded if it is below 2^32. -/
theorem uint32_ok_iff (h : isSchemaInteger 1 n = true) :
    (∃ word, Abi.uint32 n = .ok word) ↔ ∀ z, n.toInt? = some z → z < 2 ^ 32 := by
  obtain ⟨z, hz, hle⟩ := isSchemaInteger_toInt h
  constructor
  · rintro ⟨word, hw⟩ z' hz'
    obtain ⟨value, hv, -⟩ := bind_eq_ok.mp hw
    simp only [encodeUint, hz'] at hv
    split at hv
    · cases hv
    · split at hv
      · cases hv
      · next hfit => omega
  · intro hlt
    have hz' := hlt z hz
    have hsafe : n.isSafeInteger = true := by
      simp only [JsNumber.isSafeInteger, hz, decide_eq_true_eq]
      omega
    have hfit : ¬(z < 0 ∨ 2 ^ 32 ≤ z) := by omega
    refine ⟨.ofNat z.toNat, bind_eq_ok.mpr ⟨z.toNat, ?_, rfl⟩⟩
    simp only [encodeUint, hz, hsafe, Bool.not_true, Bool.false_eq_true, if_false, if_neg hfit]
    rfl

theorem duration_encodable (h : isSchemaInteger 1 n = true)
    (hlt : ∀ z, n.toInt? = some z → z < 2 ^ 32) : Encodable (.num n) := by
  obtain ⟨z, hz, hle⟩ := isSchemaInteger_toInt h
  have hz' := hlt z hz
  refine ⟨?_, ?_⟩
  · simp only [JsNumber.isSafeInteger, hz, decide_eq_true_eq]
    omega
  · rintro rfl
    cases hz
    omega

theorem isHexDigest_encoded (h : isHexDigest text = true) (hb : Abi.bytes32 text = .ok word) :
    text = wordText word := by
  obtain ⟨word', rfl⟩ := isHexDigest_word h
  rw [Abi.bytes32_wordText] at hb
  rw [Except.ok.inj hb]

theorem isSchemaInteger_encoded (h : isSchemaInteger 0 n = true) (he : Encodable (.num n))
    (hz : bigInt n = .ok z) (hu : Abi.uint64 z = .ok word) : n = .ofNat word.toNat := by
  obtain ⟨k, rfl, hlt⟩ := isSchemaInteger_encodable h he
  rw [bigInt_ok, JsNumber.toInt?_ofNat, Option.some.injEq] at hz
  rw [← hz, uint64_ofNat hlt] at hu
  rw [← Except.ok.inj hu, UInt64.toNat_ofNat', Nat.mod_eq_of_lt (by omega)]

theorem duration_encoded (h : isSchemaInteger 1 n = true) (hu : Abi.uint32 n = .ok word) :
    n = .ofNat word.toNat := by
  have hlt := (uint32_ok_iff h).mp ⟨word, hu⟩
  obtain ⟨z, hz, hle⟩ := isSchemaInteger_toInt h
  have he := duration_encodable h hlt
  obtain ⟨z', rfl⟩ := JsNumber.eq_ofInt he.1 he.2
  rw [JsNumber.toInt?_ofInt, Option.some.injEq] at hz
  subst hz
  obtain ⟨k, rfl⟩ := Int.eq_ofNat_of_zero_le (Int.le_trans (by decide) hle)
  rw [ofInt_natCast] at *
  have hz := JsNumber.toInt?_ofNat k
  have hk := hlt k hz
  obtain ⟨value, hv, hw⟩ := bind_eq_ok.mp hu
  have hsafe : (JsNumber.ofNat k).isSafeInteger = true := by
    simp only [JsNumber.isSafeInteger, hz, decide_eq_true_eq]
    omega
  have hfit : ¬((k : Int) < 0 ∨ 2 ^ 32 ≤ (k : Int)) := by omega
  simp only [encodeUint, hz, hsafe, Bool.not_true, Bool.false_eq_true, if_false, if_neg hfit,
    Int.toNat_natCast] at hv
  cases hv
  cases hw
  rw [UInt32.toNat_ofNat', Nat.mod_eq_of_lt (by omega)]

theorem uint64_toNat (word : UInt64) : Abi.uint64 (word.toNat : Nat) = .ok word := by
  have hlt := word.toNat_lt
  have hfit : ¬((word.toNat : Int) < 0 ∨ 2 ^ 64 ≤ (word.toNat : Int)) := by omega
  rw [Abi.uint64, if_neg hfit, Int.toNat_natCast, UInt64.ofNat_toNat]
  rfl

theorem uint32_toNat (word : UInt32) : Abi.uint32 (.ofNat word.toNat) = .ok word := by
  have hlt := word.toNat_lt
  have hsafe : (JsNumber.ofNat word.toNat).isSafeInteger = true := by
    simp only [JsNumber.isSafeInteger, JsNumber.toInt?_ofNat, decide_eq_true_eq]
    omega
  have hfit : ¬((word.toNat : Int) < 0 ∨ 2 ^ 32 ≤ (word.toNat : Int)) := by omega
  rw [Abi.uint32, encodeUint, JsNumber.toInt?_ofNat]
  simp only [hsafe, Bool.not_true, Bool.false_eq_true, if_false, if_neg hfit, Int.toNat_natCast]
  change (.ok (UInt32.ofNat word.toNat) : Js UInt32) = _
  rw [UInt32.ofNat_toNat]

end Schema

/-- Call data as the texts and numbers it is encoded from. -/
def CheckpointInput.texts (call : CheckpointInput) : ContractInput where
  epochStartMs := call.epochStartMs.toNat
  epochDurationMs := .ofNat call.epochDurationMs.toNat
  shard := wordText call.shard
  eventRoot := wordText call.eventRoot
  receiptRoot := wordText call.receiptRoot
  attestationRoot := wordText call.attestationRoot
  revocationRoot := wordText call.revocationRoot
  eventCount := call.eventCount.toNat
  receiptCount := call.receiptCount.toNat
  previousCheckpoint := wordText call.previousCheckpoint
  checkpointIdentityHash := wordText call.checkpointIdentityHash
  relayId := wordText call.relayId
  settlementBackend := wordText call.settlementBackend

theorem texts_encode (call : CheckpointInput) : call.texts.encode = .ok call := by
  simp only [CheckpointInput.texts, ContractInput.encode, uint64_toNat, uint32_toNat,
    Abi.bytes32_wordText, ok_bind]
  rfl

section Agreement

namespace LocalEvmSettlementBackend

variable {B : LocalEvmSettlementBackend} {N : Noble} {checkpoint : BatchCheckpointV1}

/-- Whatever the checkpoint, the hash is the one that the contract computes from its call data. -/
theorem contractCheckpointFieldsHashForCheckpoint_eq (B : LocalEvmSettlementBackend) (N : Noble)
    (checkpoint : BatchCheckpointV1) :
    B.contractCheckpointFieldsHashForCheckpoint N checkpoint = (do
      let input ← B.toContractCheckpointInput N checkpoint
      let call ← input.encode
      return wordText (contractCheckpointFieldsHash B.evm call)) := by
  simp only [contractCheckpointFieldsHashForCheckpoint, ContractInput.encode, bind_assoc,
    Abi.bytes32_wordText, pure_bind]
  rfl

theorem relayIdToBytes32_defined_iff (hid : B.ethers.HashesUtf8)
    (h : (js "did:tsl:").isPrefixOf relayId = true) :
    (∃ text, B.relayIdToBytes32 relayId = .ok text) ↔ WellFormed relayId := by
  rw [← hid relayId, relayIdToBytes32, isWordText_identifier h]
  constructor
  · rintro ⟨text, ht⟩
    obtain ⟨word, hw, -⟩ := map_eq_ok.mp ht
    exact ⟨word, hw⟩
  · rintro ⟨word, hw⟩
    exact ⟨wordText word, map_eq_ok.mpr ⟨word, hw, rfl⟩⟩

theorem relayIdToBytes32_word (h : (js "did:tsl:").isPrefixOf relayId = true)
    (ht : B.relayIdToBytes32 relayId = .ok text) : ∃ word, text = wordText word := by
  rw [relayIdToBytes32, isWordText_identifier h] at ht
  obtain ⟨word, -, ht⟩ := map_eq_ok.mp ht
  exact ⟨word, ht.symm⟩

theorem backendToBytes32_defined_iff (hid : B.ethers.HashesUtf8) (backend : Option JsString) :
    (∃ text, B.backendToBytes32 backend = .ok text) ↔ ∀ text ∈ backend, WellFormed text := by
  rw [backendToBytes32]
  cases backend with
  | none =>
    refine ⟨fun _ text ht => ?_, fun _ => ⟨_, rfl⟩⟩
    cases ht
  | some name =>
    simp only [Option.mem_some_iff, forall_eq', ← hid name]
    cases name with
    | nil => exact ⟨fun _ => (hid []).mpr trivial, fun _ => ⟨_, rfl⟩⟩
    | cons u rest =>
      constructor
      · rintro ⟨text, ht⟩
        obtain ⟨word, hw, -⟩ := map_eq_ok.mp ht
        exact ⟨word, hw⟩
      · rintro ⟨word, hw⟩
        exact ⟨wordText word, map_eq_ok.mpr ⟨word, hw, rfl⟩⟩

theorem backendToBytes32_word (ht : B.backendToBytes32 backend = .ok text) :
    ∃ word, text = wordText word := by
  rw [backendToBytes32] at ht
  split at ht
  · obtain ⟨word, -, ht⟩ := map_eq_ok.mp ht
    exact ⟨word, ht.symm⟩
  · cases ht
    exact ⟨0, by decide⟩

variable (B N) in
/-- The words of a checkpoint, field by field. -/
structure CheckpointWords (checkpoint : BatchCheckpointV1) (call : CheckpointInput) : Prop where
  epoch : checkpoint.epoch_start_ms = .ofNat call.epochStartMs.toNat
  duration : checkpoint.epoch_duration_ms = .ofNat call.epochDurationMs.toNat
  shard : shardToBytes32 checkpoint.shard = .ok (wordText call.shard)
  event_root : checkpoint.event_root = wordText call.eventRoot
  receipt_root : checkpoint.receipt_root = wordText call.receiptRoot
  attestation_root : checkpoint.attestation_root = wordText call.attestationRoot
  revocation_root : checkpoint.revocation_root = wordText call.revocationRoot
  event_count : checkpoint.event_count = .ofNat call.eventCount.toNat
  receipt_count : checkpoint.receipt_count = .ofNat call.receiptCount.toNat
  previous_checkpoint : checkpoint.previous_checkpoint = wordText call.previousCheckpoint
  identity : checkpointHash N checkpoint = .ok (wordText call.checkpointIdentityHash)
  relay_id : B.relayIdToBytes32 checkpoint.relay_id = .ok (wordText call.relayId)
  settlement_backend : B.backendToBytes32 checkpoint.settlement_backend =
    .ok (wordText call.settlementBackend)

theorem bigInt_ofNat (n : Nat) : bigInt (.ofNat n) = .ok (n : Int) := by
  rw [bigInt_ok, JsNumber.toInt?_ofNat]

theorem CheckpointWords.input (h : CheckpointWords B N checkpoint call) :
    B.toContractCheckpointInput N checkpoint = .ok call.texts := by
  simp only [toContractCheckpointInput, h.epoch, h.duration, h.shard, h.event_root,
    h.receipt_root, h.attestation_root, h.revocation_root, h.event_count, h.receipt_count,
    h.previous_checkpoint, h.identity, h.relay_id, h.settlement_backend, bigInt_ofNat, ok_bind]
  rfl

theorem CheckpointWords.encoded (h : CheckpointWords B N checkpoint call) :
    B.contractInput N checkpoint = .ok call := by
  rw [contractInput, h.input, ok_bind, texts_encode]

/-- A checkpoint that fits has words. -/
theorem words_of_fits (hid : B.ethers.HashesUtf8) (hN : Digest32 N) (hs : SchemaFields checkpoint)
    (hf : Fits checkpoint) : ∃ call, CheckpointWords B N checkpoint call := by
  obtain ⟨start, hstart, hstart'⟩ := isSchemaInteger_encodable hs.epoch hf.epoch
  obtain ⟨events, hevents, hevents'⟩ := isSchemaInteger_encodable hs.event_count hf.events
  obtain ⟨receipts, hreceipts, hreceipts'⟩ := isSchemaInteger_encodable hs.receipt_count hf.receipts
  obtain ⟨duration, hduration⟩ := (uint32_ok_iff hs.duration).mpr hf.duration
  obtain ⟨hash, hhash⟩ := (checkpointHash_defined_iff N checkpoint).mpr
    ⟨hf.epoch, duration_encodable hs.duration hf.duration, hf.events, hf.receipts⟩
  obtain ⟨relayId, hrelay⟩ := (relayIdToBytes32_defined_iff hid hs.relay_id).mpr hf.relay
  obtain ⟨backend, hbackend⟩ := (backendToBytes32_defined_iff hid _).mpr hf.backend
  obtain ⟨eventRoot, he⟩ := isHexDigest_word hs.event_root
  obtain ⟨receiptRoot, hr⟩ := isHexDigest_word hs.receipt_root
  obtain ⟨attestationRoot, ha⟩ := isHexDigest_word hs.attestation_root
  obtain ⟨revocationRoot, hv⟩ := isHexDigest_word hs.revocation_root
  obtain ⟨previousCheckpoint, hp⟩ := isHexDigest_word hs.previous_checkpoint
  obtain ⟨checkpointIdentityHash, rfl⟩ := checkpointHash_word hN hhash
  obtain ⟨relayId, rfl⟩ := relayIdToBytes32_word hs.relay_id hrelay
  obtain ⟨settlementBackend, rfl⟩ := backendToBytes32_word hbackend
  have hword {k : Nat} (hk : k < 2 ^ 53) : (UInt64.ofNat k).toNat = k := by
    rw [UInt64.toNat_ofNat', Nat.mod_eq_of_lt (by omega)]
  refine ⟨⟨.ofNat start, duration, wordOfBytes (shardBytes checkpoint.shard), eventRoot,
    receiptRoot, attestationRoot, revocationRoot, .ofNat events, .ofNat receipts,
    previousCheckpoint, checkpointIdentityHash, relayId, settlementBackend⟩, ?_, ?_, ?_, he, hr, ha,
    hv, ?_, ?_, hp, hhash, hrelay, hbackend⟩
  · rw [hword hstart', hstart]
  · exact duration_encoded hs.duration hduration
  · rw [hs.shard_encoded]
    refine ⟨hf.shard, ?_⟩
    rw [wordText, wordBytes_wordOfBytes (shardBytes_length (hs.shard_most.trans (by decide)))]
  · rw [hword hevents', hevents]
  · rw [hword hreceipts', hreceipts]

/-- A checkpoint that is encoded has the words of its call data. -/
theorem words_of_encoded (hN : Digest32 N) (hs : SchemaFields checkpoint)
    (h : B.contractInput N checkpoint = .ok call) : CheckpointWords B N checkpoint call := by
  obtain ⟨input, hi, he⟩ := bind_eq_ok.mp h
  simp only [toContractCheckpointInput, bind_eq_ok] at hi
  obtain ⟨start, hstart, shard, hshard, events, hevents, receipts, hreceipts, hash, hhash, relay,
    hrelay, backend, hbackend, hi⟩ := hi
  cases hi
  simp only [ContractInput.encode, bind_eq_ok] at he
  obtain ⟨start', hstart', duration, hduration, shard', hshard', _, her, _, hrr, _, har, _, hvr,
    events', hevents', receipts', hreceipts', _, hp, _, hidentity, _, hrelay', _, hbackend', he⟩ := he
  cases he
  obtain ⟨henc, -, hencevents, hencreceipts⟩ :=
    (checkpointHash_defined_iff N checkpoint).mp ⟨_, hhash⟩
  obtain ⟨-, rfl⟩ := hs.shard_encoded.mp hshard
  obtain ⟨identity, rfl⟩ := checkpointHash_word hN hhash
  obtain ⟨relay, rfl⟩ := relayIdToBytes32_word hs.relay_id hrelay
  obtain ⟨backend, rfl⟩ := backendToBytes32_word hbackend
  rw [Abi.bytes32_wordText] at hidentity hrelay' hbackend'
  cases hidentity
  cases hrelay'
  cases hbackend'
  exact {
    epoch := isSchemaInteger_encoded hs.epoch henc hstart hstart'
    duration := duration_encoded hs.duration hduration
    shard := by rw [hshard, Abi.bytes32_ok hshard']
    event_root := isHexDigest_encoded hs.event_root her
    receipt_root := isHexDigest_encoded hs.receipt_root hrr
    attestation_root := isHexDigest_encoded hs.attestation_root har
    revocation_root := isHexDigest_encoded hs.revocation_root hvr
    event_count := isSchemaInteger_encoded hs.event_count hencevents hevents hevents'
    receipt_count := isSchemaInteger_encoded hs.receipt_count hencreceipts hreceipts hreceipts'
    previous_checkpoint := isHexDigest_encoded hs.previous_checkpoint hp
    identity := hhash
    relay_id := hrelay
    settlement_backend := hbackend }

theorem CheckpointWords.fits (h : CheckpointWords B N checkpoint call)
    (hid : B.ethers.HashesUtf8) (hs : SchemaFields checkpoint) : Fits checkpoint where
  epoch := ((checkpointHash_defined_iff N checkpoint).mp ⟨_, h.identity⟩).1
  duration := by
    intro z hz
    rw [h.duration, JsNumber.toInt?_ofNat, Option.some.injEq] at hz
    have hlt := call.epochDurationMs.toNat_lt
    omega
  shard := (hs.shard_encoded.mp h.shard).1
  events := ((checkpointHash_defined_iff N checkpoint).mp ⟨_, h.identity⟩).2.2.1
  receipts := ((checkpointHash_defined_iff N checkpoint).mp ⟨_, h.identity⟩).2.2.2
  relay := (relayIdToBytes32_defined_iff hid hs.relay_id).mp ⟨_, h.relay_id⟩
  backend := (backendToBytes32_defined_iff hid _).mp ⟨_, h.settlement_backend⟩

/-- Two encoded checkpoints have one slot if they have one start and, up to zeros in front, one
shard. -/
theorem CheckpointWords.slot_iff {a b : BatchCheckpointV1} (ha : CheckpointWords B N a x)
    (hb : CheckpointWords B N b y) (hsa : SchemaFields a) (hsb : SchemaFields b) :
    x.epochStartMs = y.epochStartMs ∧ x.shard = y.shard ↔
      a.epoch_start_ms = b.epoch_start_ms ∧
        a.shard.dropWhile (· == 48) = b.shard.dropWhile (· == 48) := by
  obtain ⟨hxa, hta⟩ := hsa.shard_encoded.mp ha.shard
  obtain ⟨hxb, htb⟩ := hsb.shard_encoded.mp hb.shard
  rw [← shardBytes_eq_iff ⟨hsa.shard_digits, hxa⟩ ⟨hsb.shard_digits, hxb⟩
    (hsa.shard_most.trans (by decide)) (hsb.shard_most.trans (by decide)), ha.epoch, hb.epoch]
  refine and_congr ?_ ?_
  · rw [JsNumber.ofNat, JsNumber.ofNat, JsNumber.fin.injEq, Nat.cast_inj, UInt64.toNat_inj]
  · constructor
    · intro h
      apply bytesToHex_injective
      rw [← hta, ← htb, h]
    · intro h
      apply wordText_injective
      rw [hta, htb, h]

variable (B N)

/-- TypeScript encodes the checkpoint, and the hash it computes is the contract's. -/
def Agrees (checkpoint : BatchCheckpointV1) : Prop :=
  ∃ input call hash, B.toContractCheckpointInput N checkpoint = .ok input ∧
    input.encode = .ok call ∧
    B.contractCheckpointFieldsHashForCheckpoint N checkpoint = .ok hash ∧
    hash = wordText (contractCheckpointFieldsHash B.evm call)

/-- Checkpoints that the contract files under one slot have one start and one shard. -/
def SlotsApart (a b : BatchCheckpointV1) : Prop :=
  ∀ x y, B.contractInput N a = .ok x → B.contractInput N b = .ok y →
    x.epochStartMs = y.epochStartMs → x.shard = y.shard →
    a.epoch_start_ms = b.epoch_start_ms ∧ a.shard = b.shard

variable {B N}

theorem agrees_iff (hid : B.ethers.HashesUtf8) (hN : Digest32 N) (hs : SchemaFields checkpoint) :
    B.Agrees N checkpoint ↔ Fits checkpoint := by
  constructor
  · rintro ⟨input, call, hash, hi, he, -, -⟩
    exact (words_of_encoded hN hs (bind_eq_ok.mpr ⟨input, hi, he⟩)).fits hid hs
  · intro hf
    obtain ⟨call, h⟩ := words_of_fits hid hN hs hf
    refine ⟨call.texts, call, _, h.input, texts_encode call, ?_, rfl⟩
    rw [contractCheckpointFieldsHashForCheckpoint_eq, h.input, ok_bind, texts_encode, ok_bind]
    rfl

/-- TypeScript and the contract agree on two checkpoints of the schema exactly when both fit the
contract's types and their shards, if they start together, differ in more than zeros in front. -/
theorem checkpoints_agree_iff {a b : BatchCheckpointV1} (hid : B.ethers.HashesUtf8)
    (hN : Digest32 N) (ha : checkpointSchema a = true) (hb : checkpointSchema b = true) :
    B.Agrees N a ∧ B.Agrees N b ∧ B.SlotsApart N a b ↔
      Fits a ∧ Fits b ∧ (a.epoch_start_ms = b.epoch_start_ms →
        a.shard.dropWhile (· == 48) = b.shard.dropWhile (· == 48) → a.shard = b.shard) := by
  have hsa := checkpointSchema_fields ha
  have hsb := checkpointSchema_fields hb
  rw [agrees_iff hid hN hsa, agrees_iff hid hN hsb]
  refine and_congr_right fun hfa => and_congr_right fun hfb => ?_
  obtain ⟨x, hx⟩ := words_of_fits hid hN hsa hfa
  obtain ⟨y, hy⟩ := words_of_fits hid hN hsb hfb
  have hslot := hx.slot_iff hy hsa hsb
  constructor
  · intro hapart hstart hshard
    obtain ⟨h1, h2⟩ := hslot.mpr ⟨hstart, hshard⟩
    exact (hapart x y hx.encoded hy.encoded h1 h2).2
  · intro hcond x' y' hx' hy' h1 h2
    cases Except.ok.inj (hx.encoded.symm.trans hx')
    cases Except.ok.inj (hy.encoded.symm.trans hy')
    obtain ⟨hstart, hshard⟩ := hslot.mp ⟨h1, h2⟩
    exact ⟨hstart, hcond hstart hshard⟩

end LocalEvmSettlementBackend

end Agreement

section Sample

/-- Whether a text has UTF-8 bytes. -/
def isWellFormed : JsString → Bool
  | [] => true
  | [u] => !isSurrogate u
  | u :: v :: rest =>
    if isHighSurrogate u && isLowSurrogate v then isWellFormed rest
    else !isSurrogate u && isWellFormed (v :: rest)

theorem isWellFormed_iff (text : JsString) : isWellFormed text = true ↔ WellFormed text := by
  induction text using isWellFormed.induct with
  | case1 => simp [isWellFormed, WellFormed]
  | case2 u => simp [isWellFormed, WellFormed]
  | case3 u v rest hpair ih => simp only [isWellFormed, WellFormed, if_pos hpair, ih]
  | case4 u v rest hpair ih =>
    rw [isWellFormed, WellFormed, if_neg hpair, if_neg hpair, Bool.and_eq_true, ih,
      Bool.not_eq_true']

def encodingEvm : Evm :=
  recordedEvm [(textEncode (js "did:tsl:relay"),
    0xe857768554bb60ecc76ec86ca49a0a515e421b20c4ab2a33691f7b9b1258bbff)] []

def encodingBackend : LocalEvmSettlementBackend where
  evm := encodingEvm
  ethers := ⟨fun text =>
    if isWellFormed text then .ok (encodingEvm.keccak256 (textEncode text))
    else .error "invalid surrogate pair", hexToBytes⟩
  revocationRegistryAddress := none

theorem encodingBackend_utf8 : encodingBackend.ethers.HashesUtf8 := by
  intro text
  rw [← isWellFormed_iff]
  change (∃ word, (if isWellFormed text then .ok (encodingEvm.keccak256 (textEncode text))
    else .error "invalid surrogate pair" : Js Bytes32) = .ok word) ↔ _
  by_cases h : isWellFormed text = true
  · rw [if_pos h]
    exact ⟨fun _ => h, fun _ => ⟨_, rfl⟩⟩
  · rw [if_neg h]
    exact iff_of_false (fun ⟨_, hword⟩ => nomatch hword) h

def encodingNoble : Noble :=
  recorded
    [(domainMessage DOMAIN_TAGS.CHECKPOINT_V1 (checkpointText identityCheckpoint.toFields),
        bigEndian 32 0xb5aa536748a8f2bce890d3318035457f0d9a4df0a7bc3fbc02d42e1eced68ba4),
      (domainMessage DOMAIN_TAGS.CHECKPOINT_V1
          (checkpointText { identityCheckpoint with shard := js "1daa" }.toFields),
        bigEndian 32 0x8f6ff4f34e3b7845213fda0650fbfc7e7db8b60ca08e7b2aca2761c0f330329e)]
    [] fun _ => List.replicate 32 255

theorem encodingNoble_digest32 : Digest32 encodingNoble :=
  recorded_digest32 (by decide) fun _ => rfl

theorem identityCheckpoint_fits (shard : JsString) (h : shard.length % 2 = 0) :
    Fits { identityCheckpoint with shard } where
  epoch := encodable_ofNat (by decide)
  duration z hz := by
    cases hz
    decide
  shard := h
  events := encodable_ofNat (by decide)
  receipts := encodable_ofNat (by decide)
  relay := (isWellFormed_iff identityCheckpoint.relay_id).mp (by decide)
  backend text ht := nomatch ht

namespace LocalEvmSettlementBackend

theorem checkpoints_agree_iff_sample :
    encodingBackend.Agrees encodingNoble identityCheckpoint ∧
      encodingBackend.Agrees encodingNoble { identityCheckpoint with shard := js "1daa" } ∧
      encodingBackend.SlotsApart encodingNoble identityCheckpoint
        { identityCheckpoint with shard := js "1daa" } := by
  refine (checkpoints_agree_iff encodingBackend_utf8 encodingNoble_digest32 (by decide)
    (by decide)).mpr ⟨?_, ?_, ?_⟩
  · exact identityCheckpoint_fits (js "0daa") (by decide)
  · exact identityCheckpoint_fits (js "1daa") (by decide)
  · intro _ hshard
    exact absurd hshard (by decide)

/-- A shard of five digits is not encoded, and two shards with one value share their slot. -/
theorem checkpoints_disagree :
    checkpointSchema { identityCheckpoint with shard := js "abcde" } = true ∧
      (encodingBackend.toContractCheckpointInput encodingNoble
        { identityCheckpoint with shard := js "abcde" }).toOption.isNone = true ∧
      checkpointSchema { identityCheckpoint with shard := js "001234" } = true ∧
      checkpointSchema { identityCheckpoint with shard := js "1234" } = true ∧
      ¬encodingBackend.SlotsApart encodingNoble { identityCheckpoint with shard := js "001234" }
        { identityCheckpoint with shard := js "1234" } := by
  refine ⟨by decide, by decide, by decide, by decide, ?_⟩
  intro hapart
  have hfirst : Fits { identityCheckpoint with shard := js "001234" } :=
    identityCheckpoint_fits _ (by decide)
  have hsecond : Fits { identityCheckpoint with shard := js "1234" } :=
    identityCheckpoint_fits _ (by decide)
  have hs : SchemaFields { identityCheckpoint with shard := js "001234" } :=
    checkpointSchema_fields (by decide)
  have hs' : SchemaFields { identityCheckpoint with shard := js "1234" } :=
    checkpointSchema_fields (by decide)
  obtain ⟨x, hx⟩ := words_of_fits encodingBackend_utf8 encodingNoble_digest32 hs hfirst
  obtain ⟨y, hy⟩ := words_of_fits encodingBackend_utf8 encodingNoble_digest32 hs' hsecond
  obtain ⟨hstart, hshard⟩ := (hx.slot_iff hy hs hs').mpr ⟨rfl, by decide⟩
  exact absurd (hapart x y hx.encoded hy.encoded hstart hshard).2 (by decide)

end LocalEvmSettlementBackend

end Sample

end Continuity
