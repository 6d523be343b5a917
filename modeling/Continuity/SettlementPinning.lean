import Continuity.PolicyMonotone
import Continuity.SettlementLog
import Continuity.VerifierReturns

namespace Continuity
open Frames SettlementProof
set_option autoImplicit true

/-- A run of the verifier finds the checkpoint settled by one piece of evidence. -/
def SettledBy (H : Host) (tools : Recomputation) (resolver : TrustResolver)
    (policy : VerifierPolicy JsField) (backend : Option SettlementBackend)
    (checkpoint : BatchCheckpointV1) (evidence : SettlementEvidenceV1) : Prop :=
  ∃ input result, verifyTSL H tools input resolver policy backend = .ok result ∧
    (expandProofBundleInput H input).1.checkpoint = some checkpoint ∧
    (expandProofBundleInput H input).1.settlement_evidence = some [evidence] ∧
    result.checks .settlement_evidence_valid = some true

/-- What evidence that settles a checkpoint has in common with it. -/
structure NamesCheckpoint (H : Host) (tools : Recomputation) (policy : VerifierPolicy Option)
    (checkpoint : BatchCheckpointV1) (evidence : SettlementEvidenceV1) : Prop where
  identity : checkpointHashForPolicy H checkpoint = .ok evidence.checkpoint_identity_hash
  hash : evidence.checkpoint_hash = evidence.checkpoint_identity_hash
  fields : tools.contractCheckpointFieldsHashForCheckpoint checkpoint =
    .ok evidence.contract_checkpoint_fields_hash
  backend : truthy checkpoint.settlement_backend = true →
    checkpoint.settlement_backend = some evidence.settlement_backend
  offline : ∃ outcome, tools.verifyOfflineSettlementEvidence {
    evidence
    checkpoint
    checkpoint_hash := evidence.checkpoint_hash
    contract_checkpoint_fields_hash := evidence.contract_checkpoint_fields_hash
    policy } = .ok outcome ∧ outcome.ok = true

section Runs

theorem settlementEvidenceError_none {C : Context} {hash fieldsHash : Hex32}
    (h : settlementEvidenceError C checkpoint hash fieldsHash evidence = .ok none) :
    evidence.checkpoint_hash = hash ∧ evidence.checkpoint_identity_hash = hash ∧
      evidence.contract_checkpoint_fields_hash = fieldsHash ∧
      (truthy checkpoint.settlement_backend = true →
        checkpoint.settlement_backend = some evidence.settlement_backend) ∧
      ∃ outcome, C.tools.verifyOfflineSettlementEvidence
        ⟨evidence, checkpoint, hash, fieldsHash, C.policy⟩ = .ok outcome ∧ outcome.ok = true := by
  unfold settlementEvidenceError at h
  split at h
  · cases h
  · obtain ⟨outcome, houtcome, h⟩ := bind_eq_ok.mp h
    dsimp only at h
    split at h
    · cases h
    · next hok =>
      obtain ⟨eventHash, -, h⟩ := bind_eq_ok.mp h
      obtain ⟨commitment, -, h⟩ := bind_eq_ok.mp h
      obtain ⟨offline, -, h⟩ := bind_eq_ok.mp h
      split at h
      · next hall =>
        simp only [Bool.and_eq_true, beq_iff_eq] at hall
        obtain ⟨⟨⟨⟨⟨⟨⟨⟨hhash, hidentity⟩, ⟨hfields, -⟩⟩, hbackend⟩, -⟩, -⟩, -⟩, -⟩, -⟩ := hall
        refine ⟨hhash, hidentity, hfields, fun ht => ?_, outcome, houtcome, by simpa using hok⟩
        simpa [ht] using hbackend
      · cases h

theorem firstSettlement_ok {check : SettlementEvidenceV1 → Js (Option String)}
    (h : firstSettlement check lastError items = .ok outcome) (hok : outcome.ok = true) :
    ∃ evidence ∈ items, check evidence = .ok none := by
  induction items generalizing lastError with
  | nil =>
    cases h
    cases hok
  | cons evidence rest ih =>
    obtain ⟨error, he, h⟩ := bind_eq_ok.mp h
    cases error with
    | none => exact ⟨evidence, List.mem_cons_self, he⟩
    | some error =>
      obtain ⟨found, hmem, hfound⟩ := ih h
      exact ⟨found, List.mem_cons_of_mem _ hmem, hfound⟩

theorem settlementEvidenceBlock_valid {C : Context}
    (hc : C.input.checkpoint = some checkpoint) (he : C.input.settlement_evidence = some [evidence])
    (h : settlementEvidenceBlock C r = .ok r')
    (hv : r'.checks .settlement_evidence_valid = some true) :
    NamesCheckpoint C.host C.tools C.policy checkpoint evidence := by
  unfold settlementEvidenceBlock at h
  rw [hc, he] at h
  obtain ⟨hash, hhash, h⟩ := bind_eq_ok.mp h
  obtain ⟨outcome, houtcome, h⟩ := bind_eq_ok.mp h
  have hok : outcome.ok = true := by
    dsimp only at h
    split at h
    · assumption
    · cases h
      have hmade : CheckName.settlement_evidence_valid ≠ .checkpoint_settled := by decide
      change ((r.check .settlement_evidence_valid outcome.ok).check .checkpoint_settled
        outcome.ok).checks .settlement_evidence_valid = some true at hv
      rw [Report.check_other _ _ hmade, Report.check_same] at hv
      exact Option.some.inj hv
  obtain ⟨fieldsHash, hfields, houtcome⟩ := bind_eq_ok.mp houtcome
  obtain ⟨found, hfound, hnone⟩ := firstSettlement_ok houtcome hok
  rw [List.mem_singleton.mp hfound] at hnone
  obtain ⟨rfl, hidentity, rfl, hbackend, hoffline⟩ := settlementEvidenceError_none hnone
  exact ⟨hidentity ▸ hhash, hidentity.symm, hfields, hbackend, hoffline⟩

/-- Evidence that a run accepts names its checkpoint. -/
theorem SettledBy.names (h : SettledBy H tools resolver policy backend checkpoint evidence) :
    NamesCheckpoint H tools policy.withDefaults checkpoint evidence := by
  obtain ⟨input, result, hrun, hc, he, hv⟩ := h
  obtain ⟨envelope, start, identity, -, hi, hrun⟩ :=
    verifyTSL_checked hrun hv (by decide) (by decide) (by decide)
  obtain ⟨event, hevent, hrun⟩ := bind_eq_ok.mp hrun
  obtain ⟨found, hfound, hrun⟩ := bind_eq_ok.mp hrun
  cases hi.symm.trans hfound
  obtain ⟨commitment, -, hrun⟩ := bind_eq_ok.mp hrun
  obtain ⟨legacy, -, hrun⟩ := bind_eq_ok.mp hrun
  obtain ⟨keyed, -, hrun⟩ := bind_eq_ok.mp hrun
  obtain ⟨final, hfinal, hrun⟩ := bind_eq_ok.mp hrun
  cases hrun
  let C : Context := ⟨H, tools, resolver, policy.withDefaults, backend,
    (expandProofBundleInput H input).1, envelope, commitment, legacy⟩
  have hblocks : pipeline ((ownedBlocks C).map Block.run) keyed = .ok final := hfinal
  obtain ⟨r, r', -, hb, hr'⟩ := pipeline_at hblocks 22 (by rw [ownedBlocks_length]; decide)
  -- No later block owns the check.
  have hkept := hr'.get .settlement_evidence_valid
    (by simp [ownedBy, ownedBlocks, scoringChecks, graphChecks])
  exact settlementEvidenceBlock_valid (C := C) hc he hb (hkept.symm.trans hv)

end Runs

section Headers

variable {H : Host} {L : ChainLibrary} {keccak : Bytes → Bytes}
  {InTrie : Bytes → Bytes → Bytes → Prop}

/-- The two headers do not collide. -/
def HeadersApart (keccak : Bytes → Bytes) (evidence other : SettlementEvidenceV1) : Prop :=
  ∀ header ∈ evidence.block_header_rlp, ∀ header' ∈ other.block_header_rlp, ∀ bytes bytes',
    hexToBytes header = .ok bytes → hexToBytes header' = .ok bytes' →
    keccak bytes = keccak bytes' → bytes = bytes'

/-- The header that offline evidence carries, and what the evidence says of it. -/
structure HeaderRead (H : Host) (L : ChainLibrary) (keccak : Bytes → Bytes)
    (evidence : SettlementEvidenceV1) (header : JsString) (bytes : Bytes) : Prop where
  carried : evidence.block_header_rlp = some header
  decoded : hexToBytes header = .ok bytes
  block_hash : ∃ text ∈ evidence.block_hash, H.toLowerCase text = bytesToHex (keccak bytes)
  receipt_root : ∃ root text, receiptRootFromHeader H L header = .ok root ∧
    evidence.receipt_root = some text ∧ SameText H root text
  block_number : ∃ number stated, blockNumberFromHeader L header = .ok number ∧
    evidence.block_number = some stated ∧ number.strictEq stated = true

theorem blockHeaderFields_congr (h : hexToBytes header = hexToBytes header') :
    blockHeaderFields L header = blockHeaderFields L header' := by
  rw [blockHeaderFields, blockHeaderFields, h]

/-- Headers with one hash have one receipt root and one block number. -/
theorem HeaderRead.same {evidence other : SettlementEvidenceV1}
    (h : HeaderRead H L keccak evidence header bytes)
    (h' : HeaderRead H L keccak other header' bytes')
    (hapart : HeadersApart keccak evidence other)
    (hb : evidence.block_hash = some block) (hb' : other.block_hash = some block')
    (hsame : SameText H block block') :
    (∃ root root', evidence.receipt_root = some root ∧ other.receipt_root = some root' ∧
        SameText H root root') ∧
      ∃ number number', evidence.block_number = some number ∧
        other.block_number = some number' ∧ number.toInt? = number'.toInt? := by
  obtain ⟨text, ht, hhash⟩ := h.block_hash
  obtain ⟨text', ht', hhash'⟩ := h'.block_hash
  cases hb.symm.trans ht
  cases hb'.symm.trans ht'
  have hkeccak : keccak bytes = keccak bytes' :=
    bytesToHex_injective (hhash.symm.trans (hsame.trans hhash'))
  have hbytes : bytes = bytes' :=
    hapart _ h.carried _ h'.carried _ _ h.decoded h'.decoded hkeccak
  have htexts : hexToBytes header = hexToBytes header' := by rw [h.decoded, h'.decoded, hbytes]
  have hfields : blockHeaderFields L header = blockHeaderFields L header' :=
    blockHeaderFields_congr htexts
  constructor
  · obtain ⟨root, stated, hroot, hstated, hequal⟩ := h.receipt_root
    obtain ⟨root', stated', hroot', hstated', hequal'⟩ := h'.receipt_root
    rw [receiptRootFromHeader, hfields, ← receiptRootFromHeader, hroot'] at hroot
    cases hroot
    exact ⟨stated, stated', hstated, hstated', hequal.symm.trans hequal'⟩
  · obtain ⟨number, stated, hnumber, hstated, hequal⟩ := h.block_number
    obtain ⟨number', stated', hnumber', hstated', hequal'⟩ := h'.block_number
    rw [blockNumberFromHeader, hfields, ← blockNumberFromHeader, hnumber'] at hnumber
    cases hnumber
    obtain ⟨_, -, hread⟩ := bind_eq_ok.mp hnumber'
    obtain ⟨_, -, hread⟩ := bind_eq_ok.mp hread
    obtain ⟨value, -, rfl⟩ := rlpToNumber_ok hread
    exact ⟨stated, stated', hstated, hstated',
      (strictEq_value hequal).trans (strictEq_value hequal').symm⟩

end Headers

section Pinned

variable {H : Host} {L : ChainLibrary} {keccak : Bytes → Bytes}
  {InTrie : Bytes → Bytes → Bytes → Prop} {tools : Recomputation} {checkpoint : BatchCheckpointV1}
  {evidence other : SettlementEvidenceV1}

/-- Offline evidence is read as evidence of its own hashes. -/
def offlineInput (policy : VerifierPolicy Option) (checkpoint : BatchCheckpointV1)
    (evidence : SettlementEvidenceV1) : OfflineEvidenceInput where
  evidence
  checkpoint
  checkpoint_hash := evidence.checkpoint_hash
  contract_checkpoint_fields_hash := evidence.contract_checkpoint_fields_hash
  policy

end Pinned

section Sample

def sampleFieldsHash : Bytes32 :=
  0x71ddc391e5325be8fe24c6323e2b15c7a55be26d361d91951e642de7d21b07a0

/-- The block in which the registry took the sample checkpoint. -/
def registryBlock : ChainSample where
  contract := bigEndian 20 0x5fbdb2315678afecb367f032d93f642f64180aa3
  checkpointHash := 0xcb2f105c816cdf151a354e43846f4f68e1b585447556ac7b5f35c3b1679af49d
  fieldsHash := sampleFieldsHash
  epochStartMs := 1779667200000
  eventRoot := 0x44e465f802312d2c14603f5020059e615a0478194944dae31a10b9f677f245c5
  number := 12
  receiptRoot := 0x82c881b55e6dfa74f54b7c13880600ee9ce2bca780288868c7ae3593b876cac0
  blockHash := 0x66ab6914f996c7768ad9a8162b1e6fafbf56c363a6a163ae4d24440e831549aa
  receiptHash := 0xaac0759349b0ed544bcc80ba688d1a44e9b5cdf8d75566b95105654bdfc38f43

/-- A block with the number of the other, and the same event of another contract. -/
def forgedBlock : ChainSample :=
  { registryBlock with
    contract := bigEndian 20 0xe7f1725e7734ce288f8367e1bb143e90bb3f0512
    receiptRoot := 0x7c61db5a3507e3c1ba6add4c6c39310515b13430a73df11d163930f2cb4bb8f5
    blockHash := 0x63742d1db55a639a470bd88e10fc9aa97762833fc0cd335b7d90881a8eff85b0
    receiptHash := 0xe5104abfd51e7ec44dfe0354805dec8516a3ad181484d9cf6ab9336557fc92f4 }

def registryEvidence : SettlementEvidenceV1 :=
  registryBlock.evidence
    0xc177a138f0d38825463b981d76cfbf7087a361357290a8914354be8033c48e99
    0x4f8db57700a527050bf14f8c69db910768ab2a917997fc418461e223c9d0a93e
    0x7d299403283ff3072c9a8b6fc6983ef2d75b90576b8727cced8845fdbed9b1e4
    0xb3dfed8639674df280383cabfec1cf51f6f1b4cd34245f745e219fec1a68b8a4

def forgedEvidence : SettlementEvidenceV1 :=
  forgedBlock.evidence
    0xd85ca13539c0ee4e92f8274a6cac8a8331686aa6218845b483c1af6db798c105
    0x955a2ef4ebe37e564605e226e3180f31d24932e97f3706f98115d7a1cb2bd963
    0xb5414634dbeb7aa584b2ad4d4c2c4caef8ef0dc9af5881cbc671d6eabde85f67
    0x0529681b748074a2653a667ca4105fdc9ef32f8c9cab77203033ccab71e42fe5

/-- The digests of the sample event, of its log and checkpoint, and of both pieces of evidence, by
the checksums of the messages. -/
def settledDigests : List (Nat × Bytes32) :=
  [(736447, 0x724723488a08f1ec7419529ad3d1a773286c81e51f477feaa0789b2783a6ecf1),
    (794141, 0xe7b9125a9700878f34b929fb26748f1c5cc8925ee19104d5aea33e45a031cf66),
    (84534, 0x2ab66b10ee379293269378687fa1b5d850690d80027f5b83bb7e6c7e13f7acfb),
    (69745, 0x44e465f802312d2c14603f5020059e615a0478194944dae31a10b9f677f245c5),
    (304883, 0xcb2f105c816cdf151a354e43846f4f68e1b585447556ac7b5f35c3b1679af49d),
    (312056, 0xc177a138f0d38825463b981d76cfbf7087a361357290a8914354be8033c48e99),
    (936024, 0x7d299403283ff3072c9a8b6fc6983ef2d75b90576b8727cced8845fdbed9b1e4),
    (787361, 0x4f8db57700a527050bf14f8c69db910768ab2a917997fc418461e223c9d0a93e),
    (193318, 0xb3dfed8639674df280383cabfec1cf51f6f1b4cd34245f745e219fec1a68b8a4),
    (454605, 0xd85ca13539c0ee4e92f8274a6cac8a8331686aa6218845b483c1af6db798c105),
    (463218, 0xb5414634dbeb7aa584b2ad4d4c2c4caef8ef0dc9af5881cbc671d6eabde85f67),
    (589369, 0x955a2ef4ebe37e564605e226e3180f31d24932e97f3706f98115d7a1cb2bd963),
    (153778, 0x0529681b748074a2653a667ca4105fdc9ef32f8c9cab77203033ccab71e42fe5)]

def settledHost : Host :=
  sampleHost (recorded [] sampleSignatures fun message =>
    wordBytes ((settledDigests.lookup (checksum message)).getD 0))

def settledChain : List ChainSample := [registryBlock, forgedBlock]

def settledTools : Recomputation :=
  { proofTools sampleTools settledHost (fun _ _ _ => return false)
      (chainSampleLibrary settledChain) with
    contractCheckpointFieldsHashForCheckpoint := fun _ => return wordText sampleFieldsHash }

def settledInput (evidence : SettlementEvidenceV1) : VerifyTSLInput :=
  { signedInput with settlement_evidence := .value [evidence] }

section Committed

variable {chain : List ChainSample} {c : ChainSample}
  {eventHash receiptSource finalitySource chainProof : Bytes32}

end Committed

end Sample

end Continuity
