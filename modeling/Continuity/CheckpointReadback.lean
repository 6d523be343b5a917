import Continuity.CheckpointEncoding
import Continuity.VerifierSound

namespace Continuity
open CheckpointRegistry LocalEvmSettlementBackend
set_option autoImplicit true

/-- A settlement backend for the registry of checkpoints. -/
structure CheckpointBackend extends LocalEvmSettlementBackend where
  host : Host
  chainId : ℚ
  /-- `signMessage` of the wallet that sends the transactions. -/
  signMessage : Bytes → Js Bytes
  /-- Whether the receipt of a settled checkpoint has status 1. -/
  receiptSucceeded : BatchCheckpointV1 → Js Bool

/-- The block that takes up a transaction, and the hash of its receipt. -/
structure Inclusion where
  sender : Address
  timestamp : UInt64
  receiptHash : JsString

/-- A checkpoint as the ethers package decodes it. -/
structure ContractCheckpoint where
  epochStartMs : Nat
  epochDurationMs : Nat
  shard : JsString
  eventRoot : JsString
  receiptRoot : JsString
  attestationRoot : JsString
  revocationRoot : JsString
  eventCount : Nat
  receiptCount : Nat
  previousCheckpoint : JsString
  checkpointIdentityHash : JsString
  contractCheckpointFieldsHash : JsString
  relayId : JsString
  settlementBackend : JsString
  submittedAt : Nat

def Checkpoint.decode (checkpoint : Checkpoint) : ContractCheckpoint where
  epochStartMs := checkpoint.epochStartMs.toNat
  epochDurationMs := checkpoint.epochDurationMs.toNat
  shard := wordText checkpoint.shard
  eventRoot := wordText checkpoint.eventRoot
  receiptRoot := wordText checkpoint.receiptRoot
  attestationRoot := wordText checkpoint.attestationRoot
  revocationRoot := wordText checkpoint.revocationRoot
  eventCount := checkpoint.eventCount.toNat
  receiptCount := checkpoint.receiptCount.toNat
  previousCheckpoint := wordText checkpoint.previousCheckpoint
  checkpointIdentityHash := wordText checkpoint.checkpointIdentityHash
  contractCheckpointFieldsHash := wordText checkpoint.contractCheckpointFieldsHash
  relayId := wordText checkpoint.relayId
  settlementBackend := wordText checkpoint.settlementBackend
  submittedAt := checkpoint.submittedAt.toNat

namespace CheckpointBackend

variable (B : CheckpointBackend) (N : Noble)

def settlementBackendId : JsString := js "eip155:" ++ B.host.numberText B.chainId

/-- What a submission that succeeds returns, and the registry after it. -/
def submitCheckpoint (S : CheckpointRegistry) (block : Inclusion)
    (checkpoint : BatchCheckpointV1) :
    Js (BatchCheckpointV1 × CheckpointEvent × CheckpointRegistry) := do
  if !truthy checkpoint.settlement_backend then
    throw "TSL_CHECKPOINT_SETTLEMENT_BACKEND_REQUIRED"
  else if checkpoint.settlement_backend ≠ some B.settlementBackendId then
    throw "TSL_CHECKPOINT_SETTLEMENT_BACKEND_MISMATCH"
  else
    let identity ← checkpointHash N checkpoint
    let portableCheckpoint := { checkpoint with checkpoint_identity_hash := some identity }
    let input ← B.toContractCheckpointInput N portableCheckpoint
    let message ← B.ethers.getBytes input.checkpointIdentityHash
    let contractRelaySignature ← B.signMessage message
    let call ← input.encode
    let (event, S') ← S.submitCheckpoint B.evm block.sender block.timestamp call
      contractRelaySignature
    if block.receiptHash.isEmpty then
      throw "Checkpoint transaction did not produce a receipt hash"
    else
      let identity ← checkpointHash N portableCheckpoint
      return ({ portableCheckpoint with
        checkpoint_identity_hash := some identity
        settlement_tx := some block.receiptHash }, event, S')

def readStoredCheckpoint (S : CheckpointRegistry) (epochStartMs : JsNumber) (shard : JsString) :
    Js ContractCheckpoint := do
  let text ← shardToBytes32 shard
  let epoch ← encodeUint 64 epochStartMs
  let word ← Abi.bytes32 text
  return (S.getCheckpointByEpochShard B.evm (.ofNat epoch) word).decode

def getCheckpoint (S : CheckpointRegistry) (epochStartMs : JsNumber) (shard : JsString) :
    Js (Option BatchCheckpointV1) := do
  let stored ← B.readStoredCheckpoint S epochStartMs shard
  if stored.submittedAt = 0 then return none
  else
    return some {
      epoch_start_ms := numberOfBigInt stored.epochStartMs
      epoch_duration_ms := numberOfBigInt stored.epochDurationMs
      shard
      event_root := stored.eventRoot
      receipt_root := stored.receiptRoot
      attestation_root := stored.attestationRoot
      revocation_root := stored.revocationRoot
      event_count := numberOfBigInt stored.eventCount
      receipt_count := numberOfBigInt stored.receiptCount
      previous_checkpoint := stored.previousCheckpoint
      checkpoint_identity_hash := none
      settlement_backend := some B.settlementBackendId
      settlement_tx := none
      relay_id := stored.relayId
      relay_signature := js "0x" }

def checkpointMismatches (checkpoint : BatchCheckpointV1) (stored : ContractCheckpoint) :
    Js (List String) := do
  let expected ← B.toContractCheckpointInput N checkpoint
  let differs (a b : JsString) := B.host.toLowerCase a ≠ B.host.toLowerCase b
  let check (differs : Prop) [Decidable differs] (field : String) := if differs then [field] else []
  return check ((stored.epochStartMs : Int) ≠ expected.epochStartMs) "epoch_start_ms" ++
    check (¬(numberOfBigInt stored.epochDurationMs).strictEq expected.epochDurationMs)
      "epoch_duration_ms" ++
    check (differs stored.shard expected.shard) "shard" ++
    check (differs stored.eventRoot expected.eventRoot) "event_root" ++
    check (differs stored.receiptRoot expected.receiptRoot) "receipt_root" ++
    check (differs stored.attestationRoot expected.attestationRoot) "attestation_root" ++
    check (differs stored.revocationRoot expected.revocationRoot) "revocation_root" ++
    check ((stored.eventCount : Int) ≠ expected.eventCount) "event_count" ++
    check ((stored.receiptCount : Int) ≠ expected.receiptCount) "receipt_count" ++
    check (differs stored.previousCheckpoint expected.previousCheckpoint)
      "previous_checkpoint" ++
    check (!stored.settlementBackend.isEmpty ∧
      differs stored.settlementBackend expected.settlementBackend) "settlement_backend" ++
    check (differs stored.relayId expected.relayId) "relay_id"

/-- A settled checkpoint's evidence is left to its receipt. -/
def verifyCheckpointSettlement (S : CheckpointRegistry) (checkpoint : BatchCheckpointV1) :
    SettlementVerificationResult :=
  let verified : Js SettlementVerificationResult := do
    let stored ← B.readStoredCheckpoint S checkpoint.epoch_start_ms checkpoint.shard
    if stored.submittedAt = 0 then return ⟨false, some "TSL_SETTLEMENT_MISSING"⟩
    else
      let comparableCheckpoint := { checkpoint with
        settlement_backend := some (checkpoint.settlement_backend.getD B.settlementBackendId) }
      let mismatches ← B.checkpointMismatches N comparableCheckpoint stored
      let identityHash ← checkpointHash N comparableCheckpoint
      let input ← B.toContractCheckpointInput N comparableCheckpoint
      let call ← input.encode
      let fieldsHash := wordText (contractCheckpointFieldsHash B.evm call)
      let mismatches := if stored.checkpointIdentityHash ≠ identityHash ∨
          stored.contractCheckpointFieldsHash ≠ fieldsHash then
        mismatches ++ ["checkpoint_identity_hash"] else mismatches
      if mismatches.length > 0 then
        return ⟨false, some ("TSL_SETTLEMENT_MISMATCH:" ++ ",".intercalate mismatches)⟩
      else
        let settled ← B.receiptSucceeded checkpoint
        return ⟨settled, none⟩
  match verified with
  | .ok result => result
  | .error message => ⟨false, some message⟩

end CheckpointBackend

theorem numberOfBigInt_small (h : n < 2 ^ 53) : numberOfBigInt n = .ofNat n := by
  have hunit : 2 ^ (Nat.log2 n - 52) = 1 := by
    have hlog : Nat.log2 n ≤ 52 := by
      by_cases hn : n = 0
      · rw [hn]
        decide
      · exact Nat.le_of_lt_succ ((Nat.log2_lt hn).mpr h)
    rw [Nat.sub_eq_zero_of_le hlog, Nat.pow_zero]
  rw [numberOfBigInt, hunit]
  simp [Nat.mod_one]

theorem isWordText_bytesToHex {bytes : Bytes} (h : bytes.length = 32) :
    isWordText (bytesToHex bytes) = true := by
  have hlen : (bytesToHex bytes).length = 66 := by
    rw [bytesToHex, List.length_cons, List.length_cons, hexDigits_length, h]
  have hp : (js "0x").isPrefixOf (bytesToHex bytes) = true := by
    rw [bytesToHex]
    rfl
  have hd : ((bytesToHex bytes).drop 2).all isHexDigit = true := hexDigits_all bytes
  rw [isWordText, hlen, hp, hd]
  rfl

theorem isWordText_wordText (word : Bytes32) : isWordText (wordText word) = true :=
  isWordText_bytesToHex (wordBytes_length word)

section Readback

namespace CheckpointBackend

variable {B : CheckpointBackend} {N : Noble} {c : BatchCheckpointV1}

/-- What the registry answers names the relay by its word. -/
theorem getCheckpoint_relay_id (h : B.getCheckpoint S epochStartMs shard = .ok (some readback)) :
    ∃ word, readback.relay_id = wordText word := by
  obtain ⟨stored, hs, h⟩ := bind_eq_ok.mp h
  simp only [readStoredCheckpoint, bind_eq_ok] at hs
  obtain ⟨_, -, epoch, -, word, -, hs⟩ := hs
  cases hs
  split at h
  · cases h
  · cases h
    exact ⟨_, rfl⟩

theorem wordText_not_identifier (word : Bytes32) :
    (js "did:tsl:").isPrefixOf (wordText word) = false := by
  rw [wordText, bytesToHex]
  rfl

theorem definedField_relay_id (c : BatchCheckpointV1) :
    definedField c.toFields (js "relay_id") = some (.str c.relay_id) := by
  rw [definedField_some (toFields_checkpointObject c).keys]
  exact ⟨by simp [BatchCheckpointV1.toFields], rfl⟩

/-- No checkpoint of the schema has the identity of one that is read back. -/
theorem checkpointHash_readback_ne (hs : SchemaFields c)
    (hget : B.getCheckpoint S epochStartMs shard = .ok (some readback))
    (hi : Set.InjOn (hashDomain N DOMAIN_TAGS.CHECKPOINT_V1)
      (CheckpointTexts c.toFields readback.toFields))
    {identity : Hex32} (hc : checkpointHash N c = .ok identity) :
    checkpointHash N readback ≠ .ok identity := by
  intro hread
  obtain ⟨word, hword⟩ := getCheckpoint_relay_id hget
  have hcovered : js "relay_id" ∉ UNCOVERED_FIELDS := by decide
  have hfield := checkpointObjectHash_binds hi (toFields_checkpointObject c)
    (toFields_checkpointObject readback) hc hread hcovered
  rw [definedField_relay_id c, definedField_relay_id readback, Option.some.injEq,
    JsValue.str.injEq] at hfield
  have hprefix := hs.relay_id
  rw [hfield, hword, wordText_not_identifier] at hprefix
  cases hprefix

/-- What a submission that succeeds has sent to the registry. -/
theorem submitCheckpoint_sent (hs : SchemaFields c) (hN : Digest32 N)
    (h : B.submitCheckpoint N S block c = .ok (settled, event, S')) :
    c.settlement_backend = some B.settlementBackendId ∧
      ∃ call signature, CheckpointWords B.toLocalEvmSettlementBackend N c call ∧
        S.submitCheckpoint B.evm block.sender block.timestamp call signature =
          .ok (event, S') := by
  rw [submitCheckpoint] at h
  split at h
  · cases h
  · split at h
    · cases h
    · next hbackend =>
      simp only [bind_eq_ok] at h
      obtain ⟨identity, -, input, hi, message, -, signature, -, call, he, ⟨event', T⟩, hsub, h⟩ := h
      have hsent : (event', T) = (event, S') := by
        dsimp only at h
        split at h
        · cases h
        · obtain ⟨_, -, h⟩ := bind_eq_ok.mp h
          cases h
          rfl
      cases hsent
      have hportable : SchemaFields { c with checkpoint_identity_hash := some identity } := { hs with }
      have hwords := words_of_encoded hN hportable (bind_eq_ok.mpr ⟨input, hi, he⟩)
      have hidentity := checkpointHash_rewritten N c c.relay_signature c.settlement_tx (some identity)
      refine ⟨Decidable.not_not.mp hbackend, call, signature, { hwords with identity := ?_ }, hsub⟩
      rw [← hidentity]
      exact hwords.identity

theorem record_answer (E : Evm) (S : CheckpointRegistry) (sender : Address) (timestamp : UInt64)
    (call : CheckpointInput) :
    (S.record E sender timestamp call).getCheckpointByEpochShard E call.epochStartMs call.shard =
      { toCheckpointInput := call
        contractCheckpointFieldsHash := contractCheckpointFieldsHash E call
        submitter := sender
        submittedAt := timestamp } := by
  simp only [getCheckpointByEpochShard, CheckpointRegistry.record, Function.update_self]

/-- The numbers of a checkpoint with words are exact in both languages. -/
theorem words_small (h : CheckpointWords B.toLocalEvmSettlementBackend N c call) :
    call.epochStartMs.toNat < 2 ^ 53 ∧ call.eventCount.toNat < 2 ^ 53 ∧
      call.receiptCount.toNat < 2 ^ 53 := by
  obtain ⟨he, -, hc, hr⟩ := (checkpointHash_defined_iff N c).mp ⟨_, h.identity⟩
  rw [h.epoch] at he
  rw [h.event_count] at hc
  rw [h.receipt_count] at hr
  have hsmall {n : Nat} (hn : Encodable (.num (.ofNat n))) : n < 2 ^ 53 := by
    have hsafe := hn.1
    simpa [JsNumber.isSafeInteger] using hsafe
  exact ⟨hsmall he, hsmall hc, hsmall hr⟩

theorem encodeUint_toNat {word : UInt64} (h : word.toNat < 2 ^ 53) :
    encodeUint 64 (.ofNat word.toNat) = .ok word.toNat := by
  have hsafe : (JsNumber.ofNat word.toNat).isSafeInteger = true := by
    simpa [JsNumber.isSafeInteger] using h
  have hfit : ¬((word.toNat : Int) < 0 ∨ 2 ^ 64 ≤ (word.toNat : Int)) := by omega
  simp only [encodeUint, JsNumber.toInt?_ofNat, hsafe, Bool.not_true, Bool.false_eq_true, if_false,
    if_neg hfit, Int.toNat_natCast]
  rfl

/-- The slot of a checkpoint with words is read as the registry answers. -/
theorem readStoredCheckpoint_words (h : CheckpointWords B.toLocalEvmSettlementBackend N c call)
    (S : CheckpointRegistry) :
    B.readStoredCheckpoint S c.epoch_start_ms c.shard =
      .ok (S.getCheckpointByEpochShard B.evm call.epochStartMs call.shard).decode := by
  rw [readStoredCheckpoint, h.shard, h.epoch, encodeUint_toNat (words_small h).1]
  simp only [ok_bind, Abi.bytes32_wordText, UInt64.ofNat_toNat]
  rfl

/-- A checkpoint as the registry gives it back: the relay by its word, and unsigned. -/
def readback (c : BatchCheckpointV1) (relayId : Bytes32) : BatchCheckpointV1 :=
  { c with
    relay_id := wordText relayId
    relay_signature := js "0x"
    checkpoint_identity_hash := none
    settlement_tx := none }

/-- A record of a checkpoint's words reads back as the checkpoint, but for its relay. -/
theorem getCheckpoint_record (h : CheckpointWords B.toLocalEvmSettlementBackend N c call)
    (hb : c.settlement_backend = some B.settlementBackendId)
    (hstored : S.getCheckpointByEpochShard B.evm call.epochStartMs call.shard = stored)
    (hcall : stored.toCheckpointInput = call) (htime : stored.submittedAt ≠ 0) :
    B.getCheckpoint S c.epoch_start_ms c.shard = .ok (some (readback c call.relayId)) := by
  obtain ⟨hstart, hevents, hreceipts⟩ := words_small h
  have hduration : call.epochDurationMs.toNat < 2 ^ 53 :=
    call.epochDurationMs.toNat_lt.trans (by decide)
  have htime' : ¬stored.decode.submittedAt = 0 := fun h0 => htime (UInt64.toNat_inj.mp h0)
  rw [getCheckpoint, readStoredCheckpoint_words h, hstored, ok_bind, if_neg htime']
  subst hcall
  simp only [Checkpoint.decode, numberOfBigInt_small hstart, numberOfBigInt_small hevents,
    numberOfBigInt_small hreceipts, numberOfBigInt_small hduration, ← h.epoch, ← h.duration,
    ← h.event_count, ← h.receipt_count, ← h.event_root, ← h.receipt_root, ← h.attestation_root,
    ← h.revocation_root, ← h.previous_checkpoint, ← hb, readback]
  rfl

/-- What is read back has the words it was read from, but for its own identity. -/
theorem readback_words (h : CheckpointWords B.toLocalEvmSettlementBackend N c call)
    (hN : Digest32 N) :
    ∃ identity, checkpointHash N (readback c call.relayId) = .ok (wordText identity) ∧
      CheckpointWords B.toLocalEvmSettlementBackend N (readback c call.relayId)
        { call with checkpointIdentityHash := identity } := by
  have hencodable := (checkpointHash_defined_iff N c).mp ⟨_, h.identity⟩
  obtain ⟨hash, hhash⟩ := (checkpointHash_defined_iff N (readback c call.relayId)).mpr hencodable
  obtain ⟨identity, rfl⟩ := checkpointHash_word hN hhash
  refine ⟨identity, hhash, { h with identity := hhash, relay_id := ?_ }⟩
  rw [readback, relayIdToBytes32, if_pos (isWordText_wordText call.relayId)]
  rfl

theorem checkpointMismatches_nil {stored : Checkpoint}
    (h : CheckpointWords B.toLocalEvmSettlementBackend N c call)
    (hstored : stored.toCheckpointInput = { call with checkpointIdentityHash := identity }) :
    B.checkpointMismatches N c stored.decode = .ok [] := by
  have hduration : call.epochDurationMs.toNat < 2 ^ 53 :=
    call.epochDurationMs.toNat_lt.trans (by decide)
  obtain ⟨input, fieldsHash, submitter, submittedAt⟩ := stored
  cases hstored
  rw [checkpointMismatches, h.input, ok_bind]
  simp [Checkpoint.decode, CheckpointInput.texts, numberOfBigInt_small hduration, pure,
    Except.pure]

/-- The backend does not take the checkpoint that it gives back for the one it has stored. -/
theorem verifyCheckpointSettlement_readback {stored : Checkpoint}
    (h : CheckpointWords B.toLocalEvmSettlementBackend N c call) (hN : Digest32 N)
    (hb : c.settlement_backend = some B.settlementBackendId)
    (hstored : S.getCheckpointByEpochShard B.evm call.epochStartMs call.shard = stored)
    (hcall : stored.toCheckpointInput = call) (htime : stored.submittedAt ≠ 0)
    (hne : checkpointHash N (readback c call.relayId) ≠ checkpointHash N c) :
    B.verifyCheckpointSettlement N S (readback c call.relayId) =
      ⟨false, some "TSL_SETTLEMENT_MISMATCH:checkpoint_identity_hash"⟩ := by
  obtain ⟨identity, hidentity, hwords⟩ := readback_words h hN
  have hread := readStoredCheckpoint_words hwords S
  rw [hstored] at hread
  have htime' : ¬stored.decode.submittedAt = 0 := fun h0 => htime (UInt64.toNat_inj.mp h0)
  have hbackend : some ((readback c call.relayId).settlement_backend.getD B.settlementBackendId) =
      (readback c call.relayId).settlement_backend := by
    simp only [readback, hb, Option.getD_some]
  have hmismatches := checkpointMismatches_nil hwords
    (show stored.toCheckpointInput =
      { call with checkpointIdentityHash := call.checkpointIdentityHash } from hcall)
  have hdiffers : stored.decode.checkpointIdentityHash ≠ wordText identity := by
    intro heq
    rw [h.identity, hidentity] at hne
    rw [Checkpoint.decode, hcall] at heq
    exact hne (congrArg Except.ok heq.symm)
  unfold verifyCheckpointSettlement
  simp only [hread, ok_bind, if_neg htime', hbackend, hmismatches, hidentity, hwords.input,
    texts_encode, if_pos (Or.inl hdiffers)]
  rfl

/-- Whatever is submitted, no state of the registry gives it back with its identity; right after
its first submission the backend finds that what it gives back is not what it has stored. -/
theorem getCheckpoint_never_itself (hN : Digest32 N) (hs : checkpointSchema c = true)
    (hsubmit : B.submitCheckpoint N S block c = .ok (settled, event, S')) :
    (∀ after answer,
      B.getCheckpoint (Frames.run (CheckpointRegistry.step B.evm) S' after) c.epoch_start_ms c.shard =
        .ok (some answer) →
      Set.InjOn (hashDomain N DOMAIN_TAGS.CHECKPOINT_V1)
        (CheckpointTexts c.toFields answer.toFields) →
      checkpointHash N answer ≠ checkpointHash N c) ∧
    ((∀ a b d, event ≠ .alreadySubmitted a b d) → block.timestamp ≠ 0 →
      ∃ answer, B.getCheckpoint S' c.epoch_start_ms c.shard = .ok (some answer) ∧
        (Set.InjOn (hashDomain N DOMAIN_TAGS.CHECKPOINT_V1)
            (CheckpointTexts c.toFields answer.toFields) →
          B.verifyCheckpointSettlement N S' answer =
            ⟨false, some "TSL_SETTLEMENT_MISMATCH:checkpoint_identity_hash"⟩)) := by
  have hfields := checkpointSchema_fields hs
  obtain ⟨hb, call, signature, hwords, hsub⟩ := submitCheckpoint_sent hfields hN hsubmit
  refine ⟨?_, ?_⟩
  · intro after answer hget hi
    rw [hwords.identity]
    exact checkpointHash_readback_ne hfields hget hi hwords.identity
  · intro hfirst htime
    rcases submitCheckpoint_ok hsub with ⟨he, -⟩ | ⟨-, -, -, rfl⟩
    · exact absurd he (hfirst _ _ _)
    · have hanswer := record_answer B.evm S block.sender block.timestamp call
      have hget := getCheckpoint_record hwords hb hanswer rfl htime
      refine ⟨_, hget, fun hi => ?_⟩
      refine verifyCheckpointSettlement_readback hwords hN hb hanswer rfl htime ?_
      rw [hwords.identity]
      exact checkpointHash_readback_ne hfields hget hi hwords.identity

end CheckpointBackend

end Readback

section Sample

def settledCheckpoint : BatchCheckpointV1 :=
  { identityCheckpoint with settlement_backend := some (js "eip155:31337") }

def relayWord : Bytes32 := 0xe857768554bb60ecc76ec86ca49a0a515e421b20c4ab2a33691f7b9b1258bbff

def settledIdentity : Bytes32 := 0x4c4e19f435c81ba3b7c281030492d4cb27c33e20cde79bf2710d7b7ca642375f

def settledCall : CheckpointInput where
  epochStartMs := 1779667200000
  epochDurationMs := 60000
  shard := 0x0daa
  eventRoot := 0
  receiptRoot := 0
  attestationRoot := 0
  revocationRoot := 0
  eventCount := 0
  receiptCount := 0
  previousCheckpoint := 0
  checkpointIdentityHash := settledIdentity
  relayId := relayWord
  settlementBackend := 0x318e51c37247d03bad135571413b06a083591bcc680967d80bf587ac928cf369

def settledHashes : List (Bytes × Bytes32) :=
  let roots : Bytes32 := 0x146d80b5c9346e343612ecd25479e69b4f80ff089d42b296f2bc47be29c994eb
  let counts : Bytes32 := 0xad3228b676f7d3cd4284a5443f17f1962b36e491b30a40b2405849e597ba5fb5
  [(textEncode (js "did:tsl:relay"), relayWord),
    (textEncode (js "eip155:31337"), settledCall.settlementBackend),
    (epochShardMessage settledCall.epochStartMs settledCall.shard,
      0xcbc7c2c65ba2fc62c4a265c3c09bf9e2014955e210b8d58533e24570aa9b434a),
    (signedMessage settledIdentity,
      0xc5a02ef4ca04f9411da4562cfb30db55e7579f231d902d074bd2b72f2a61f597),
    (rootsMessage settledCall, roots), (countsMessage settledCall, counts),
    (fieldsMessage roots counts settledCall,
      0x080705278f97076a84bf41c663f6b57cdefdc94f599c279df80ddcc1756504d8),
    (fieldsMessage roots counts { settledCall with checkpointIdentityHash :=
        0x580238b45d07bde43efdfc7ab91fdffc8dd5a298cb029d02e650192f9a385fd8 },
      0xe0329ec301c5e34683467127442920ee6b10e1c3c193e8bdc43620acb9eb5764)]

/-- What the wallet of the relay signs for the settled checkpoint. -/
def walletSignature : Bytes32 × Bytes32 :=
  (0xce033b30b6ec8a10621bca95c05ccbcac84cb31ae01ab7366312f6ae72004df1,
    0x5a87419d857dc4daa032a53db3c7c9f6cba7bd7fe8df50bc9336df075020db76)

def settledEvm : Evm :=
  recordedEvm settledHashes
    [((0xc5a02ef4ca04f9411da4562cfb30db55e7579f231d902d074bd2b72f2a61f597, 27, walletSignature.1,
      walletSignature.2), sampleSigner)]

def settledNoble : Noble :=
  recorded
    [(domainMessage DOMAIN_TAGS.CHECKPOINT_V1 (checkpointText settledCheckpoint.toFields),
        wordBytes settledIdentity),
      (domainMessage DOMAIN_TAGS.CHECKPOINT_V1
          (checkpointText (CheckpointBackend.readback settledCheckpoint relayWord).toFields),
        bigEndian 32 0x580238b45d07bde43efdfc7ab91fdffc8dd5a298cb029d02e650192f9a385fd8)]
    [] fun _ => List.replicate 32 255

def settledBackend : CheckpointBackend where
  evm := settledEvm
  ethers := ⟨fun text => .ok (settledEvm.keccak256 (textEncode text)), hexToBytes⟩
  revocationRegistryAddress := none
  host := sampleHost settledNoble
  chainId := 31337
  signMessage message :=
    if message = wordBytes settledIdentity then
      .ok (wordBytes walletSignature.1 ++ wordBytes walletSignature.2 ++ [27])
    else .error "unrecorded message"
  receiptSucceeded _ := .ok true

/-- The owner has set up the relay. -/
def settledRegistry : CheckpointRegistry :=
  Frames.run (CheckpointRegistry.step settledEvm) (.create 1)
    [⟨1, 10, .setAuthorizedRelay relayWord true⟩, ⟨1, 11, .setRelaySigner relayWord sampleSigner⟩]

def settlement : Js (BatchCheckpointV1 × CheckpointEvent × CheckpointRegistry) :=
  settledBackend.submitCheckpoint settledNoble settledRegistry ⟨1, 12, js "0x01"⟩ settledCheckpoint

namespace CheckpointBackend

/-- A settled checkpoint reads back with another identity, and the backend rejects it. -/
theorem getCheckpoint_another :
    checkpointSchema settledCheckpoint = true ∧
      (checkpointHash settledNoble settledCheckpoint).toOption = some (wordText settledIdentity) ∧
      (do
        let (_, _, S') ← settlement
        let answer ← settledBackend.getCheckpoint S' settledCheckpoint.epoch_start_ms (js "0daa")
        return answer.map fun answer =>
          ((checkpointHash settledNoble answer).toOption,
            (settledBackend.verifyCheckpointSettlement settledNoble S' answer).error) :
          Js (Option (Option Hex32 × Option String))).toOption =
        some (some
          (some (js "0x580238b45d07bde43efdfc7ab91fdffc8dd5a298cb029d02e650192f9a385fd8"),
            some "TSL_SETTLEMENT_MISMATCH:checkpoint_identity_hash")) := by
  decide +kernel

/-- Only the text of the settled checkpoint has its hash. -/
theorem settledNoble_text {bytes : Bytes}
    (h : hashDomain settledNoble DOMAIN_TAGS.CHECKPOINT_V1 bytes =
      hashDomain settledNoble DOMAIN_TAGS.CHECKPOINT_V1
        (checkpointText settledCheckpoint.toFields)) :
    bytes = checkpointText settledCheckpoint.toFields := by
  have hsha := sha256Hex_injective h
  have hown : settledNoble.sha256 (domainMessage DOMAIN_TAGS.CHECKPOINT_V1
      (checkpointText settledCheckpoint.toFields)) = wordBytes settledIdentity := by
    decide +kernel
  rw [hown] at hsha
  rcases recorded_sha256 _ _ _ (domainMessage DOMAIN_TAGS.CHECKPOINT_V1 bytes) with hm | hm
  · rw [settledNoble, hm] at hsha
    exact absurd hsha (by decide +kernel)
  · rw [← settledNoble, hsha, List.mem_cons, List.mem_singleton] at hm
    rcases hm with hm | hm
    · exact domainMessage_injective (by decide +kernel) (Prod.mk.inj hm).1
    · exact absurd (Prod.mk.inj hm).2 (by decide +kernel)

theorem settledNoble_injOn (answer : BatchCheckpointV1) :
    Set.InjOn (hashDomain settledNoble DOMAIN_TAGS.CHECKPOINT_V1)
      (CheckpointTexts settledCheckpoint.toFields answer.toFields) := by
  rintro x (hx | hx) y (hy | hy) he
  · rw [checkpointText_of_ok hx, checkpointText_of_ok hy]
  · rw [checkpointText_of_ok hx] at he ⊢
    exact (settledNoble_text he.symm).symm
  · rw [checkpointText_of_ok hy] at he ⊢
    exact settledNoble_text he
  · rw [checkpointText_of_ok hx, checkpointText_of_ok hy]

theorem getCheckpoint_never_itself_sample :
    ∃ settled event S' answer, settlement = .ok (settled, event, S') ∧
      settledBackend.getCheckpoint S' settledCheckpoint.epoch_start_ms (js "0daa") =
        .ok (some answer) ∧
      checkpointHash settledNoble answer ≠ checkpointHash settledNoble settledCheckpoint ∧
      settledBackend.verifyCheckpointSettlement settledNoble S' answer =
        ⟨false, some "TSL_SETTLEMENT_MISMATCH:checkpoint_identity_hash"⟩ := by
  have hfirst : (settlement.toOption.map fun result =>
      match result.2.1 with
      | .submitted .. => true
      | .alreadySubmitted .. => false) = some true := by decide +kernel
  cases hrun : settlement with
  | error e =>
    rw [hrun] at hfirst
    cases hfirst
  | ok result =>
    obtain ⟨settled, event, S'⟩ := result
    rw [hrun] at hfirst
    have hevent : ∀ a b d, event ≠ .alreadySubmitted a b d := by
      rintro a b d rfl
      cases hfirst
    have hN : Digest32 settledNoble := recorded_digest32 (by decide +kernel) fun _ => rfl
    obtain ⟨hnever, hmismatch⟩ := getCheckpoint_never_itself hN (by decide +kernel) hrun
    obtain ⟨answer, hget, hverify⟩ := hmismatch hevent (by decide)
    exact ⟨settled, event, S', answer, rfl, hget, hnever [] answer hget (settledNoble_injOn answer),
      hverify (settledNoble_injOn answer)⟩

end CheckpointBackend

end Sample

end Continuity
