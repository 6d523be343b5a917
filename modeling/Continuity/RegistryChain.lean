import Continuity.Chains
import Continuity.CheckpointRegistry

namespace Continuity
open Frames CheckpointRegistry Chains
set_option autoImplicit true

/-- Two states of the registry with the same checkpoints. -/
structure SameRecords (S S' : CheckpointRegistry) : Prop where
  records : S'.checkpointsByHash = S.checkpointsByHash
  slots : S'.checkpointHashByEpochShard = S.checkpointHashByEpochShard
  latest : S'.latestCheckpointByShard = S.latestCheckpointByShard
  epochs : S'.latestEpochStartByShard = S.latestEpochStartByShard

/-- What a transaction of a run does to the checkpoints. -/
inductive SubmitStep (E : Evm) (S : CheckpointRegistry) (tx : CheckpointTransaction)
    (S' : CheckpointRegistry) : Prop where
  | quiet (none : S.submits E tx = none) (same : SameRecords S S')
  | duplicate (input : CheckpointInput) (some : S.submits E tx = some input)
      (existing : S.checkpointHashByEpochShard (epochShardKey E input.epochStartMs input.shard) =
        input.checkpointIdentityHash)
      (nonzero : input.checkpointIdentityHash ≠ 0) (same : S' = S)
  | recorded (input : CheckpointInput) (some : S.submits E tx = some input)
      (free : S.checkpointHashByEpochShard (epochShardKey E input.epochStartMs input.shard) = 0)
      (chain : S.chainError input = none) (state : S' = S.record E tx.sender tx.timestamp input)

section Steps

variable {E : Evm} {S S' : CheckpointRegistry} {tx : CheckpointTransaction}

theorem SameRecords.refl (S : CheckpointRegistry) : SameRecords S S := ⟨rfl, rfl, rfl, rfl⟩

theorem setAuthorizedSubmitter_same (h : S.setAuthorizedSubmitter sender submitter b = .ok S') :
    SameRecords S S' := by
  obtain ⟨_, -, h⟩ := bind_eq_ok.mp h
  cases h
  exact ⟨rfl, rfl, rfl, rfl⟩

theorem setAuthorizedRelay_same (h : S.setAuthorizedRelay sender relayId b = .ok S') :
    SameRecords S S' := by
  obtain ⟨_, -, h⟩ := bind_eq_ok.mp h
  cases h
  exact ⟨rfl, rfl, rfl, rfl⟩

theorem setRelaySigner_same (h : S.setRelaySigner sender relayId signer = .ok S') :
    SameRecords S S' := by
  obtain ⟨_, -, h⟩ := bind_eq_ok.mp h
  cases h
  exact ⟨rfl, rfl, rfl, rfl⟩

/-- A submission that succeeds finds its slot free or taken by its own hash, and says so. -/
theorem submitCheckpoint_ok
    (h : S.submitCheckpoint E sender timestamp input relaySignature = .ok (event, S')) :
    (event = .alreadySubmitted input.checkpointIdentityHash input.epochStartMs input.shard ∧
        S.checkpointHashByEpochShard (epochShardKey E input.epochStartMs input.shard) =
          input.checkpointIdentityHash ∧ input.checkpointIdentityHash ≠ 0 ∧ S' = S) ∨
      (event = .submitted input.checkpointIdentityHash (contractCheckpointFieldsHash E input)
          input.epochStartMs input.shard input.eventRoot sender ∧
        S.checkpointHashByEpochShard (epochShardKey E input.epochStartMs input.shard) = 0 ∧
        S.chainError input = none ∧ S' = S.record E sender timestamp input) := by
  unfold submitCheckpoint at h
  split at h
  · cases h
  · split at h
    · cases h
    · split at h
      · cases h
      · dsimp only at h
        split at h
        · cases h
        · split at h
          · next hn =>
            split at h
            · cases h
            · next he =>
              cases h
              have he := Decidable.not_not.mp he
              exact .inl ⟨rfl, he, he ▸ hn, rfl⟩
          · next hz =>
            split at h
            · cases h
            · next hc =>
              cases h
              exact .inr ⟨rfl, Decidable.not_not.mp hz, hc, rfl⟩

theorem step_of_ok (h : S.execute E tx = .ok S') : S.step E tx = S' := by
  rw [CheckpointRegistry.step, h]

theorem step_of_error (h : S.execute E tx = .error e) : S.step E tx = S := by
  rw [CheckpointRegistry.step, h]

theorem step_submitStep (E : Evm) (S : CheckpointRegistry) (tx : CheckpointTransaction) :
    SubmitStep E S tx (S.step E tx) := by
  cases he : S.execute E tx with
  | error e =>
    rw [step_of_error he]
    refine .quiet ?_ (.refl S)
    rw [submits, he]
    split <;> simp_all
  | ok S' =>
    rw [step_of_ok he]
    cases hc : tx.call with
    | setAuthorizedSubmitter submitter authorized =>
      refine .quiet (by rw [submits, hc]) ?_
      rw [execute, hc] at he
      exact setAuthorizedSubmitter_same he
    | setAuthorizedRelay relayId authorized =>
      refine .quiet (by rw [submits, hc]) ?_
      rw [execute, hc] at he
      exact setAuthorizedRelay_same he
    | setRelaySigner relayId signer =>
      refine .quiet (by rw [submits, hc]) ?_
      rw [execute, hc] at he
      exact setRelaySigner_same he
    | submitCheckpoint input relaySignature =>
      have hs : S.submits E tx = some input := by rw [submits, hc, he]
      rw [execute, hc] at he
      obtain ⟨⟨event, T⟩, hsub, rfl⟩ := map_eq_ok.mp he
      rcases submitCheckpoint_ok hsub with ⟨-, hx, hn, rfl⟩ | ⟨-, hf, hch, rfl⟩
      · exact .duplicate input hs hx hn rfl
      · exact .recorded input hs hf hch rfl

end Steps

/-- The key of the slot of a checkpoint. -/
def CheckpointInput.slot (E : Evm) (input : CheckpointInput) : Bytes32 :=
  epochShardKey E input.epochStartMs input.shard

/-- What the registry answers for the epoch and the shard of a checkpoint. -/
def CheckpointRegistry.answer (E : Evm) (S : CheckpointRegistry) (input : CheckpointInput) :
    CheckpointInput :=
  (S.getCheckpointByEpochShard E input.epochStartMs input.shard).toCheckpointInput

/-- Checkpoints with one slot or one identity hash are the same. -/
def Agree (E : Evm) (checkpoints : List CheckpointInput) : Prop :=
  ∀ F ∈ checkpoints, ∀ G ∈ checkpoints,
    F.slot E = G.slot E ∨ F.checkpointIdentityHash = G.checkpointIdentityHash → F = G

/-- The submitted checkpoints stand under their slots and hashes, and only they take slots. -/
structure RecordsInvariant (E : Evm) (S : CheckpointRegistry) (checkpoints : List CheckpointInput) :
    Prop where
  slots : ∀ F ∈ checkpoints, S.checkpointHashByEpochShard (F.slot E) = F.checkpointIdentityHash
  records : ∀ F ∈ checkpoints,
    (S.checkpointsByHash F.checkpointIdentityHash).toCheckpointInput = F
  taken : ∀ key, S.checkpointHashByEpochShard key ≠ 0 → ∃ F ∈ checkpoints, F.slot E = key

section Records

variable {E : Evm} {S S' : CheckpointRegistry} {tx : CheckpointTransaction}
  {checkpoints : List CheckpointInput}

theorem submitted_append (E : Evm) (S : CheckpointRegistry)
    (before after : List CheckpointTransaction) :
    submitted E S (before ++ after) =
      submitted E S before ++ submitted E (run (CheckpointRegistry.step E) S before) after := by
  induction before generalizing S with
  | nil => rfl
  | cons tx rest ih =>
    simp only [List.cons_append, submitted, ih, List.append_assoc]
    rfl

theorem submitted_snoc (E : Evm) (S : CheckpointRegistry) (before : List CheckpointTransaction)
    (tx : CheckpointTransaction) :
    submitted E S (before ++ [tx]) = submitted E S before ++
      ((run (CheckpointRegistry.step E) S before).submits E tx).toList := by
  rw [submitted_append, submitted, submitted, List.append_nil]

theorem Agree.mono {fewer : List CheckpointInput} (h : Agree E checkpoints)
    (hs : fewer ⊆ checkpoints) : Agree E fewer :=
  fun F hF G hG => h F (hs hF) G (hs hG)

theorem record_slot (E : Evm) (S : CheckpointRegistry) (sender : Address) (timestamp : UInt64)
    (F : CheckpointInput) :
    (S.record E sender timestamp F).checkpointHashByEpochShard (F.slot E) =
      F.checkpointIdentityHash := Function.update_self ..

theorem record_slot_other (E : Evm) (S : CheckpointRegistry) (sender : Address)
    (timestamp : UInt64) {F : CheckpointInput} (h : key ≠ F.slot E) :
    (S.record E sender timestamp F).checkpointHashByEpochShard key =
      S.checkpointHashByEpochShard key := Function.update_of_ne h ..

theorem record_hash (E : Evm) (S : CheckpointRegistry) (sender : Address) (timestamp : UInt64)
    (F : CheckpointInput) :
    ((S.record E sender timestamp F).checkpointsByHash
      F.checkpointIdentityHash).toCheckpointInput = F := by
  rw [record]
  dsimp only
  rw [Function.update_self]

theorem record_hash_other (E : Evm) (S : CheckpointRegistry) (sender : Address)
    (timestamp : UInt64) {F : CheckpointInput} {checkpointHash : Bytes32}
    (h : checkpointHash ≠ F.checkpointIdentityHash) :
    (S.record E sender timestamp F).checkpointsByHash checkpointHash =
      S.checkpointsByHash checkpointHash :=
  Function.update_of_ne h ..

theorem RecordsInvariant.create (E : Evm) (deployer : Address) :
    RecordsInvariant E (CheckpointRegistry.create deployer) [] where
  slots _ h := nomatch h
  records _ h := nomatch h
  taken _ h := absurd rfl h

theorem RecordsInvariant.same (h : RecordsInvariant E S checkpoints) (hs : SameRecords S S') :
    RecordsInvariant E S' checkpoints where
  slots := by
    rw [hs.slots]
    exact h.slots
  records := by
    rw [hs.records]
    exact h.records
  taken := by
    rw [hs.slots]
    exact h.taken

theorem RecordsInvariant.answer (h : RecordsInvariant E S checkpoints) (hF : F ∈ checkpoints) :
    S.answer E F = F := by
  have hs := h.slots F hF
  rw [CheckpointInput.slot] at hs
  rw [CheckpointRegistry.answer, getCheckpointByEpochShard, hs]
  exact h.records F hF

/-- The checkpoint of a duplicate submission was submitted before. -/
theorem RecordsInvariant.duplicate (h : RecordsInvariant E S checkpoints)
    (ha : Agree E (checkpoints ++ [F]))
    (hx : S.checkpointHashByEpochShard (F.slot E) = F.checkpointIdentityHash)
    (hn : F.checkpointIdentityHash ≠ 0) : F ∈ checkpoints := by
  obtain ⟨G, hG, hk⟩ := h.taken (F.slot E) (hx ▸ hn)
  have he : F = G := ha F (List.mem_append_right _ List.mem_cons_self) G
    (List.mem_append_left _ hG) (.inl hk.symm)
  rw [he]
  exact hG

theorem RecordsInvariant.record (h : RecordsInvariant E S checkpoints)
    (ha : Agree E (checkpoints ++ [F])) (sender : Address) (timestamp : UInt64) :
    RecordsInvariant E (S.record E sender timestamp F) (checkpoints ++ [F]) where
  slots := by
    intro G hG
    by_cases hk : G.slot E = F.slot E
    · have he : G = F := ha G hG F (List.mem_append_right _ List.mem_cons_self) (.inl hk)
      rw [he, record_slot]
    · rw [record_slot_other E S sender timestamp hk]
      rcases List.mem_append.mp hG with hG | hG
      · exact h.slots G hG
      · exact absurd (congrArg (CheckpointInput.slot E) (List.mem_singleton.mp hG)) hk
  records := by
    intro G hG
    by_cases hk : G.checkpointIdentityHash = F.checkpointIdentityHash
    · have he : G = F := ha G hG F (List.mem_append_right _ List.mem_cons_self) (.inr hk)
      rw [he, record_hash]
    · rw [record_hash_other E S sender timestamp hk]
      rcases List.mem_append.mp hG with hG | hG
      · exact h.records G hG
      · exact absurd (congrArg CheckpointInput.checkpointIdentityHash (List.mem_singleton.mp hG)) hk
  taken := by
    intro key hk
    by_cases he : key = F.slot E
    · exact ⟨F, List.mem_append_right _ List.mem_cons_self, he.symm⟩
    · rw [record_slot_other E S sender timestamp he] at hk
      obtain ⟨G, hG, hs⟩ := h.taken key hk
      exact ⟨G, List.mem_append_left _ hG, hs⟩

theorem RecordsInvariant.step (h : RecordsInvariant E S checkpoints)
    (ha : Agree E (checkpoints ++ (S.submits E tx).toList)) :
    RecordsInvariant E (S.step E tx) (checkpoints ++ (S.submits E tx).toList) := by
  cases step_submitStep E S tx with
  | quiet hnone hs =>
    rw [hnone, Option.toList_none, List.append_nil]
    exact h.same hs
  | duplicate F hF hx hn hs =>
    rw [hF] at ha ⊢
    have hmem := h.duplicate ha hx hn
    rw [hs]
    refine ⟨?_, ?_, ?_⟩
    · intro G hG
      rcases List.mem_append.mp hG with hG | hG
      · exact h.slots G hG
      · rw [List.mem_singleton.mp hG]
        exact h.slots F hmem
    · intro G hG
      rcases List.mem_append.mp hG with hG | hG
      · exact h.records G hG
      · rw [List.mem_singleton.mp hG]
        exact h.records F hmem
    · intro key hk
      obtain ⟨G, hG, he⟩ := h.taken key hk
      exact ⟨G, List.mem_append_left _ hG, he⟩
  | recorded F hF hfree hch hs =>
    rw [hF] at ha ⊢
    rw [hs]
    exact h.record ha tx.sender tx.timestamp

theorem RecordsInvariant.run (deployer : Address) (transactions : List CheckpointTransaction)
    (ha : Agree E (submitted E (.create deployer) transactions)) :
    RecordsInvariant E (run (CheckpointRegistry.step E) (.create deployer) transactions)
      (submitted E (.create deployer) transactions) := by
  induction transactions using List.reverseRecOn with
  | nil => exact .create E deployer
  | append_singleton before tx ih =>
    rw [submitted_snoc] at ha ⊢
    rw [run_append]
    exact (ih (ha.mono (List.subset_append_left _ _))).step ha

/-- When the answers are right after a step, the new checkpoint agrees with the others. -/
theorem Agree.step (ha : Agree E checkpoints) (h : RecordsInvariant E S checkpoints)
    (hk : ∀ F ∈ checkpoints ++ (S.submits E tx).toList, (S.step E tx).answer E F = F) :
    Agree E (checkpoints ++ (S.submits E tx).toList) := by
  cases hsub : S.submits E tx with
  | none =>
    rw [Option.toList_none, List.append_nil]
    exact ha
  | some F =>
    rw [hsub] at hk
    have hlast : F ∈ checkpoints ++ [F] := List.mem_append_right _ List.mem_cons_self
    have hslot : (S.step E tx).checkpointHashByEpochShard (F.slot E) =
        F.checkpointIdentityHash := by
      cases step_submitStep E S tx with
      | quiet hnone => exact absurd (hnone.symm.trans hsub) nofun
      | duplicate G hG hx _ hs =>
        obtain rfl : G = F := Option.some.inj (hG.symm.trans hsub)
        rw [hs]
        exact hx
      | recorded G hG _ _ hs =>
        obtain rfl : G = F := Option.some.inj (hG.symm.trans hsub)
        rw [hs, record_slot]
    -- Two answers from one slot, or from one hash, are one answer.
    have hold : ∀ G ∈ checkpoints,
        G.slot E = F.slot E ∨ G.checkpointIdentityHash = F.checkpointIdentityHash → G = F := by
      intro G hG hshare
      by_cases hs : G.slot E = F.slot E
      · have hanswer : (S.step E tx).answer E G = (S.step E tx).answer E F := by
          rw [CheckpointInput.slot, CheckpointInput.slot] at hs
          rw [CheckpointRegistry.answer, CheckpointRegistry.answer, getCheckpointByEpochShard,
            getCheckpointByEpochShard, hs]
        rw [← hk G (List.mem_append_left _ hG), hanswer, hk F hlast]
      · have hhash := hshare.resolve_left hs
        have hG' : (S.step E tx).checkpointHashByEpochShard (G.slot E) =
            G.checkpointIdentityHash := by
          cases step_submitStep E S tx with
          | quiet hnone => exact absurd (hnone.symm.trans hsub) nofun
          | duplicate _ _ _ _ hst =>
            rw [hst]
            exact h.slots G hG
          | recorded K hK _ _ hst =>
            obtain rfl : K = F := Option.some.inj (hK.symm.trans hsub)
            rw [hst, record_slot_other E S tx.sender tx.timestamp hs]
            exact h.slots G hG
        have hanswer : (S.step E tx).answer E G = (S.step E tx).answer E F := by
          rw [CheckpointInput.slot] at hG' hslot
          rw [CheckpointRegistry.answer, CheckpointRegistry.answer, getCheckpointByEpochShard,
            getCheckpointByEpochShard, hG', hslot, hhash]
        rw [← hk G (List.mem_append_left _ hG), hanswer, hk F hlast]
    intro G hG K hK hshare
    rcases List.mem_append.mp hG with hG | hG
    · rcases List.mem_append.mp hK with hK | hK
      · exact ha G hG K hK hshare
      · rw [List.mem_singleton.mp hK] at hshare ⊢
        exact hold G hG hshare
    · rw [List.mem_singleton.mp hG] at hshare ⊢
      rcases List.mem_append.mp hK with hK | hK
      · exact (hold K hK (hshare.imp Eq.symm Eq.symm)).symm
      · exact (List.mem_singleton.mp hK).symm

/-- In every state of a run the registry answers with each checkpoint that was submitted so far,
exactly when the submitted checkpoints with one slot or one identity hash are the same. -/
theorem getCheckpointByEpochShard_kept_iff (E : Evm) (deployer : Address)
    (transactions : List CheckpointTransaction) :
    (∀ before after, before ++ after = transactions →
        ∀ F ∈ submitted E (.create deployer) before,
          ((run (CheckpointRegistry.step E) (.create deployer) before).getCheckpointByEpochShard E
            F.epochStartMs F.shard).toCheckpointInput = F) ↔
      ∀ F ∈ submitted E (.create deployer) transactions,
        ∀ G ∈ submitted E (.create deployer) transactions,
          epochShardKey E F.epochStartMs F.shard = epochShardKey E G.epochStartMs G.shard ∨
            F.checkpointIdentityHash = G.checkpointIdentityHash → F = G := by
  constructor
  · intro h
    suffices hall : ∀ before after, before ++ after = transactions →
        Agree E (submitted E (.create deployer) before) from
      hall transactions [] (List.append_nil _)
    intro before
    induction before using List.reverseRecOn with
    | nil =>
      intro _ _ F hF
      cases hF
    | append_singleton before tx ih =>
      intro after he
      have ha := ih (tx :: after) (by rw [← he, List.append_assoc]; rfl)
      have hkept := h (before ++ [tx]) after he
      rw [submitted_snoc, run_append] at hkept
      rw [submitted_snoc]
      exact ha.step (.run deployer before ha) hkept
  · intro ha before after he F hF
    have hsub : submitted E (.create deployer) before ⊆
        submitted E (.create deployer) transactions := by
      rw [← he, submitted_append]
      exact List.subset_append_left _ _
    exact (RecordsInvariant.run deployer before (Agree.mono ha hsub)).answer hF

/-- The chain of the samples: it knows the hashes and the signers of a few messages. -/
def recordedEvm (hashes : List (Bytes × Bytes32))
    (signers : List ((Bytes32 × UInt8 × Bytes32 × Bytes32) × Address)) : Evm where
  keccak256 bytes := (hashes.lookup bytes).getD 0
  ecrecover digest v r s := (signers.lookup (digest, v, r, s)).getD 0

def checkpointOf (epochStartMs : UInt64) (previousCheckpoint checkpointIdentityHash : Bytes32) :
    CheckpointInput where
  epochStartMs
  epochDurationMs := 60000
  shard := 0x0daa
  eventRoot := 11
  receiptRoot := 12
  attestationRoot := 13
  revocationRoot := 14
  eventCount := 1
  receiptCount := 0
  previousCheckpoint
  checkpointIdentityHash
  relayId := 3
  settlementBackend := 0

def sampleHashes : List (Bytes × Bytes32) :=
  let first := checkpointOf 1000 0 5
  let again := checkpointOf 2000 5 5
  let second := checkpointOf 2000 5 6
  let counts : Bytes32 := 0xada5013122d395ba3c54772283fb069b10426056ef8ca54750cb9bb552a59e7d
  let firstRoots : Bytes32 := 0x5731460bdef2c7bfe6a681ba14ecbf75c665cf412eaa4fe28e037ea8544bb536
  let secondRoots : Bytes32 := 0xff71e66cc0abd4f0109d6184878463afa86b34c777151d1daf0cde976d759ed6
  [(epochShardMessage 1000 0x0daa,
      0xce9d02bbff390b69d5fb9334289ce683a6f8eaa7c49f30f414b604d3150c8d37),
    (epochShardMessage 2000 0x0daa,
      0xe8631e9b144df7551f47316afb27c715abf758eec9b6272d145a1b5c5c3fe538),
    (signedMessage 5, 0xbcb8cdf964c988f81179611a03c37dbb742d2271742e2053fb85d5fb1523967d),
    (signedMessage 6, 0xfe5f2b353a67a4fd94c5168bacb2f4724410aba0c2a5f08869c0261375108e7f),
    (rootsMessage first, firstRoots), (rootsMessage second, secondRoots),
    (countsMessage first, counts),
    (fieldsMessage firstRoots counts first,
      0xf3d66a1ba2fafb7216b478776d2c37dd19375751a9f0bd85daaacb899eda29a6),
    (fieldsMessage secondRoots counts again,
      0x1e0058a72c241b3d726be348e909bd2e9c85d3facd49d14f2f1d31d1e178a643),
    (fieldsMessage secondRoots counts second,
      0x9161ecbbe70e80426276f072bb96cec0dfdfb9acb22cdbee17979473eb38ed27)]

/-- The address of the relay's key. -/
def sampleSigner : Address := 0x2b5ad5c4795c026514f8317c7a215e218dccd6cf

/-- What the relay signs for the identity hashes 5 and 6. -/
def sampleRelaySignature (checkpointHash : Bytes32) : Bytes32 × Bytes32 :=
  if checkpointHash = 5 then
    (0xe429d1152ec589bd4bdb2fd81a3b1b84880f049a1ee98d2e6c1ff29b9db789b4,
      0x408d753144f61f9e9d33231422e6860d47df0931d812e2624a33f5b112f644a6)
  else
    (0x5c840dd5231d503a5b705784d91f82d6e1e4f4fbf1fb1beb562169a1b7785904,
      0x11b602726432bda280c24df65d78d63630c0bb91af0b7411e9d4c6e57afb2e17)

def relayEvm : Evm :=
  recordedEvm sampleHashes <| [(5 : Bytes32), 6].map fun checkpointHash =>
    let (r, s) := sampleRelaySignature checkpointHash
    (((sampleHashes.lookup (signedMessage checkpointHash)).getD 0, 27, r, s), sampleSigner)

def sampleSubmission (timestamp : UInt64) (input : CheckpointInput) : CheckpointTransaction :=
  let (r, s) := sampleRelaySignature input.checkpointIdentityHash
  ⟨1, timestamp, .submitCheckpoint input (wordBytes r ++ wordBytes s ++ [27])⟩

/-- The owner sets up the relay and submits two checkpoints of one shard. -/
def sampleRun (second : CheckpointInput) : List CheckpointTransaction :=
  [⟨1, 10, .setAuthorizedRelay 3 true⟩, ⟨1, 11, .setRelaySigner 3 sampleSigner⟩,
    sampleSubmission 12 (checkpointOf 1000 0 5), sampleSubmission 13 second]

/-- The next epoch is submitted under the hash of the first one, and the first one is gone. -/
theorem getCheckpointByEpochShard_overwritten :
    let transactions := sampleRun (checkpointOf 2000 5 5)
    let S := run (CheckpointRegistry.step relayEvm) (.create 1) transactions
    submitted relayEvm (.create 1) transactions =
        [checkpointOf 1000 0 5, checkpointOf 2000 5 5] ∧
      (S.getCheckpointByEpochShard relayEvm 1000 0x0daa).toCheckpointInput =
        checkpointOf 2000 5 5 := by
  decide

end Records

/-- The checkpoints that stand in the registry under their identity hashes. -/
def CheckpointRegistry.Recorded (S : CheckpointRegistry) (F : CheckpointInput) : Prop :=
  F.checkpointIdentityHash ≠ 0 ∧
    (S.checkpointsByHash F.checkpointIdentityHash).toCheckpointInput = F

/-- What a recorded checkpoint names as the one before it. -/
def CheckpointRegistry.previousOf (S : CheckpointRegistry) (checkpointHash : Bytes32) : Bytes32 :=
  (S.checkpointsByHash checkpointHash).previousCheckpoint

def CheckpointRegistry.epochOf (S : CheckpointRegistry) (checkpointHash : Bytes32) : UInt64 :=
  (S.checkpointsByHash checkpointHash).epochStartMs

/-- Relays sign no zero hash, and no hash for two checkpoints. -/
def SignedOnce (checkpoints : List CheckpointInput) : Prop :=
  (∀ F ∈ checkpoints, F.checkpointIdentityHash ≠ 0) ∧
    ∀ F ∈ checkpoints, ∀ G ∈ checkpoints,
      F.checkpointIdentityHash = G.checkpointIdentityHash → F = G

/-- The hashes of a shard are those of its checkpoints, latest first. -/
structure ShardChain (S : CheckpointRegistry) (checkpoints : List CheckpointInput)
    (shard : Bytes32) (hashes : List Bytes32) : Prop where
  walk : Walk S.previousOf 0 (S.latestCheckpointByShard shard) hashes
  mem : ∀ checkpointHash, checkpointHash ∈ hashes ↔
    ∃ F ∈ checkpoints, F.shard = shard ∧ F.checkpointIdentityHash = checkpointHash
  decreasing : hashes.Pairwise fun later earlier => S.epochOf earlier < S.epochOf later
  latest : S.latestEpochStartByShard shard = (hashes.head?.map S.epochOf).getD 0

structure ShardsInvariant (E : Evm) (S : CheckpointRegistry) (checkpoints : List CheckpointInput) :
    Prop where
  records : RecordsInvariant E S checkpoints
  stored : ∀ checkpointHash, (S.checkpointsByHash checkpointHash).checkpointIdentityHash ≠ 0 →
    ∃ F ∈ checkpoints, F.checkpointIdentityHash = checkpointHash
  chains : ∀ shard, ∃ hashes, ShardChain S checkpoints shard hashes

section Chain

variable {E : Evm} {S S' : CheckpointRegistry} {tx : CheckpointTransaction}
  {checkpoints : List CheckpointInput}

theorem SignedOnce.mono {fewer : List CheckpointInput} (h : SignedOnce checkpoints)
    (hs : fewer ⊆ checkpoints) : SignedOnce fewer :=
  ⟨fun F hF => h.1 F (hs hF), fun F hF G hG => h.2 F (hs hF) G (hs hG)⟩

/-- A free slot is the slot of no checkpoint that was signed. -/
theorem RecordsInvariant.free (h : RecordsInvariant E S checkpoints) (hs : SignedOnce checkpoints)
    (hf : S.checkpointHashByEpochShard key = 0) (hF : F ∈ checkpoints) : F.slot E ≠ key := by
  rintro rfl
  exact hs.1 F hF ((h.slots F hF).symm.trans hf)

/-- Where hashes are signed once, two successful submissions for one slot are the same. -/
theorem RecordsInvariant.agree_step (h : RecordsInvariant E S checkpoints)
    (ha : Agree E checkpoints) (hs : SignedOnce (checkpoints ++ (S.submits E tx).toList)) :
    Agree E (checkpoints ++ (S.submits E tx).toList) := by
  cases step_submitStep E S tx with
  | quiet hnone =>
    rw [hnone, Option.toList_none, List.append_nil]
    exact ha
  | duplicate F hF hx hn =>
    rw [hF] at hs ⊢
    have hlast : F ∈ checkpoints ++ [F] := List.mem_append_right _ List.mem_cons_self
    obtain ⟨G, hG, hk⟩ := h.taken (F.slot E) (hx ▸ hn)
    have hmem : F ∈ checkpoints := by
      have hhash := (h.slots G hG).symm.trans ((congrArg _ hk).trans hx)
      rw [← hs.2 G (List.mem_append_left _ hG) F hlast hhash]
      exact hG
    refine ha.mono ?_
    intro K hK
    rcases List.mem_append.mp hK with hK | hK
    · exact hK
    · rw [List.mem_singleton.mp hK]
      exact hmem
  | recorded F hF hfree =>
    rw [hF] at hs ⊢
    have hlast : F ∈ checkpoints ++ [F] := List.mem_append_right _ List.mem_cons_self
    have hold := hs.mono (List.subset_append_left checkpoints [F])
    intro G hG K hK hshare
    rcases hshare with hslot | hhash
    · rcases List.mem_append.mp hG with hG | hG
      · rcases List.mem_append.mp hK with hK | hK
        · exact ha G hG K hK (.inl hslot)
        · rw [List.mem_singleton.mp hK] at hslot
          exact absurd hslot (h.free hold hfree hG)
      · rcases List.mem_append.mp hK with hK | hK
        · rw [List.mem_singleton.mp hG] at hslot
          exact absurd hslot.symm (h.free hold hfree hK)
        · rw [List.mem_singleton.mp hG, List.mem_singleton.mp hK]
    · exact hs.2 G hG K hK hhash

theorem ShardsInvariant.create (E : Evm) (deployer : Address) :
    ShardsInvariant E (CheckpointRegistry.create deployer) [] where
  records := .create E deployer
  stored _ h := absurd rfl h
  chains _ := ⟨[], .stop, by simp, .nil, rfl⟩

theorem SameRecords.previousOf (hs : SameRecords S S') : S'.previousOf = S.previousOf := by
  funext checkpointHash
  rw [CheckpointRegistry.previousOf, hs.records, CheckpointRegistry.previousOf]

theorem SameRecords.epochOf (hs : SameRecords S S') : S'.epochOf = S.epochOf := by
  funext checkpointHash
  rw [CheckpointRegistry.epochOf, hs.records, CheckpointRegistry.epochOf]

theorem ShardChain.same (h : ShardChain S checkpoints shard hashes) (hs : SameRecords S S') :
    ShardChain S' checkpoints shard hashes where
  walk := by
    rw [hs.latest, hs.previousOf]
    exact h.walk
  mem := h.mem
  decreasing := by
    rw [hs.epochOf]
    exact h.decreasing
  latest := by
    rw [hs.epochs, hs.epochOf]
    exact h.latest

/-- No checkpoint of a shard is later than the latest. -/
theorem ShardChain.epoch_le {checkpointHash : Bytes32} (h : ShardChain S checkpoints shard hashes)
    (hm : checkpointHash ∈ hashes) :
    S.epochOf checkpointHash ≤ S.latestEpochStartByShard shard := by
  have hl := h.latest
  have hd := h.decreasing
  cases hashes with
  | nil => cases hm
  | cons first rest =>
    rw [List.head?_cons, Option.map_some, Option.getD_some] at hl
    rw [hl]
    rcases List.mem_cons.mp hm with rfl | hm
    · exact UInt64.le_refl _
    · exact UInt64.le_of_lt ((List.pairwise_cons.mp hd).1 checkpointHash hm)

/-- A checkpoint that the contract puts at the head of its shard names the latest one and comes
after it. -/
theorem chainError_none (h : S.chainError input = none) :
    input.previousCheckpoint = S.latestCheckpointByShard input.shard ∧
      (S.latestCheckpointByShard input.shard ≠ 0 →
        S.latestEpochStartByShard input.shard < input.epochStartMs) := by
  unfold chainError at h
  dsimp only at h
  split at h
  · next hz =>
    split at h
    · cases h
    · next hp => exact ⟨(Decidable.not_not.mp hp).trans hz.symm, fun hn => absurd hz hn⟩
  · split at h
    · cases h
    · next he =>
      split at h
      · cases h
      · next hp => exact ⟨Decidable.not_not.mp hp, fun _ => UInt64.not_le.mp he⟩

/-- A checkpoint for a free slot has a hash of its own. -/
theorem RecordsInvariant.fresh (h : RecordsInvariant E S checkpoints)
    (hs : SignedOnce (checkpoints ++ [F])) (hf : S.checkpointHashByEpochShard (F.slot E) = 0)
    (hG : G ∈ checkpoints) : G.checkpointIdentityHash ≠ F.checkpointIdentityHash := by
  intro he
  obtain rfl : G = F := hs.2 G (List.mem_append_left _ hG) F
    (List.mem_append_right _ List.mem_cons_self) he
  exact h.free (hs.mono (List.subset_append_left _ _)) hf hG rfl

/-- A new checkpoint leaves the chain of another shard alone. -/
theorem ShardChain.other (h : ShardChain S checkpoints shard hashes) (sender : Address)
    (timestamp : UInt64)
    (hfresh : ∀ G ∈ checkpoints, G.checkpointIdentityHash ≠ F.checkpointIdentityHash)
    (hshard : F.shard ≠ shard) :
    ShardChain (S.record E sender timestamp F) (checkpoints ++ [F]) shard hashes := by
  have hsame : ∀ hash ∈ hashes, (S.record E sender timestamp F).checkpointsByHash hash =
      S.checkpointsByHash hash := by
    intro hash hm
    obtain ⟨G, hG, -, rfl⟩ := (h.mem hash).mp hm
    exact record_hash_other E S sender timestamp (hfresh G hG)
  refine ⟨?_, ?_, ?_, ?_⟩
  · have hlatest : (S.record E sender timestamp F).latestCheckpointByShard shard =
        S.latestCheckpointByShard shard := Function.update_of_ne hshard.symm ..
    rw [hlatest]
    apply h.walk.congr
    intro hash hm
    rw [CheckpointRegistry.previousOf, hsame hash hm, CheckpointRegistry.previousOf]
  · intro hash
    rw [h.mem hash]
    constructor
    · rintro ⟨G, hG, h⟩
      exact ⟨G, List.mem_append_left _ hG, h⟩
    · rintro ⟨G, hG, hs, h⟩
      rcases List.mem_append.mp hG with hG | hG
      · exact ⟨G, hG, hs, h⟩
      · rw [List.mem_singleton.mp hG] at hs
        exact absurd hs hshard
  · refine h.decreasing.imp_of_mem ?_
    intro later earlier hl he hlt
    rwa [CheckpointRegistry.epochOf, CheckpointRegistry.epochOf, hsame later hl, hsame earlier he]
  · have hlatest : (S.record E sender timestamp F).latestEpochStartByShard shard =
        S.latestEpochStartByShard shard := Function.update_of_ne hshard.symm ..
    rw [hlatest, h.latest]
    cases hashes with
    | nil => rfl
    | cons first rest =>
      rw [List.head?_cons, Option.map_some, Option.map_some, CheckpointRegistry.epochOf,
        CheckpointRegistry.epochOf, hsame first List.mem_cons_self]

/-- A new checkpoint becomes the head of the chain of its shard. -/
theorem ShardChain.record (h : ShardChain S checkpoints F.shard hashes) (sender : Address)
    (timestamp : UInt64) (hn : F.checkpointIdentityHash ≠ 0)
    (hfresh : ∀ G ∈ checkpoints, G.checkpointIdentityHash ≠ F.checkpointIdentityHash)
    (hc : S.chainError F = none) :
    ShardChain (S.record E sender timestamp F) (checkpoints ++ [F]) F.shard
      (F.checkpointIdentityHash :: hashes) := by
  obtain ⟨hprevious, hlater⟩ := chainError_none hc
  have hsame : ∀ hash ∈ hashes, (S.record E sender timestamp F).checkpointsByHash hash =
      S.checkpointsByHash hash := by
    intro hash hm
    obtain ⟨G, hG, -, rfl⟩ := (h.mem hash).mp hm
    exact record_hash_other E S sender timestamp (hfresh G hG)
  have hself := record_hash E S sender timestamp F
  refine ⟨?_, ?_, ?_, ?_⟩
  · have hlatest : (S.record E sender timestamp F).latestCheckpointByShard F.shard =
        F.checkpointIdentityHash := Function.update_self ..
    rw [hlatest]
    refine .step hn ?_
    rw [CheckpointRegistry.previousOf, hself, hprevious]
    apply h.walk.congr
    intro hash hm
    rw [CheckpointRegistry.previousOf, hsame hash hm, CheckpointRegistry.previousOf]
  · intro hash
    rw [List.mem_cons, h.mem hash]
    constructor
    · rintro (rfl | ⟨G, hG, h⟩)
      · exact ⟨F, List.mem_append_right _ List.mem_cons_self, rfl, rfl⟩
      · exact ⟨G, List.mem_append_left _ hG, h⟩
    · rintro ⟨G, hG, hs, hhash⟩
      rcases List.mem_append.mp hG with hG | hG
      · exact .inr ⟨G, hG, hs, hhash⟩
      · rw [List.mem_singleton.mp hG] at hhash
        exact .inl hhash.symm
  · refine List.pairwise_cons.mpr ⟨?_, ?_⟩
    · intro hash hm
      have hlatest : S.latestCheckpointByShard F.shard ≠ 0 := by
        intro hz
        rw [h.walk.nil_iff.mpr hz] at hm
        cases hm
      rw [CheckpointRegistry.epochOf, CheckpointRegistry.epochOf, hsame hash hm, hself]
      exact UInt64.lt_of_le_of_lt (h.epoch_le hm) (hlater hlatest)
    · refine h.decreasing.imp_of_mem ?_
      intro later earlier hl he hlt
      rwa [CheckpointRegistry.epochOf, CheckpointRegistry.epochOf, hsame later hl,
        hsame earlier he]
  · have hlatest : (S.record E sender timestamp F).latestEpochStartByShard F.shard =
        F.epochStartMs := Function.update_self ..
    rw [hlatest, List.head?_cons, Option.map_some, Option.getD_some, CheckpointRegistry.epochOf,
      hself]

theorem ShardsInvariant.step (h : ShardsInvariant E S checkpoints) (ha : Agree E checkpoints)
    (hs : SignedOnce (checkpoints ++ (S.submits E tx).toList)) :
    ShardsInvariant E (S.step E tx) (checkpoints ++ (S.submits E tx).toList) := by
  have hagree := h.records.agree_step ha hs
  refine ⟨h.records.step hagree, ?_, ?_⟩
  · intro checkpointHash hn
    cases step_submitStep E S tx with
    | quiet hnone hst =>
      rw [hst.records] at hn
      rw [hnone, Option.toList_none, List.append_nil]
      exact h.stored checkpointHash hn
    | duplicate F hF _ _ hst =>
      rw [hst] at hn
      obtain ⟨G, hG, he⟩ := h.stored checkpointHash hn
      exact ⟨G, List.mem_append_left _ hG, he⟩
    | recorded F hF _ _ hst =>
      rw [hF]
      rw [hst] at hn
      by_cases he : checkpointHash = F.checkpointIdentityHash
      · exact ⟨F, List.mem_append_right _ List.mem_cons_self, he.symm⟩
      · rw [record_hash_other E S tx.sender tx.timestamp he] at hn
        obtain ⟨G, hG, he⟩ := h.stored checkpointHash hn
        exact ⟨G, List.mem_append_left _ hG, he⟩
  · intro shard
    obtain ⟨hashes, hc⟩ := h.chains shard
    cases step_submitStep E S tx with
    | quiet hnone hst =>
      rw [hnone, Option.toList_none, List.append_nil]
      exact ⟨hashes, hc.same hst⟩
    | duplicate F hF hx hn hst =>
      rw [hF] at hagree ⊢
      have hmem := h.records.duplicate hagree hx hn
      rw [hst]
      refine ⟨hashes, hc.walk, ?_, hc.decreasing, hc.latest⟩
      intro hash
      rw [hc.mem hash]
      constructor
      · rintro ⟨G, hG, h⟩
        exact ⟨G, List.mem_append_left _ hG, h⟩
      · rintro ⟨G, hG, h⟩
        rcases List.mem_append.mp hG with hG | hG
        · exact ⟨G, hG, h⟩
        · rw [List.mem_singleton.mp hG] at h
          exact ⟨F, hmem, h⟩
    | recorded F hF hfree hch hst =>
      rw [hF] at hs ⊢
      rw [hst]
      have hfresh : ∀ G ∈ checkpoints, G.checkpointIdentityHash ≠ F.checkpointIdentityHash :=
        fun G hG => h.records.fresh hs hfree hG
      by_cases he : F.shard = shard
      · subst he
        exact ⟨_, hc.record tx.sender tx.timestamp
          (hs.1 F (List.mem_append_right _ List.mem_cons_self)) hfresh hch⟩
      · exact ⟨hashes, hc.other tx.sender tx.timestamp hfresh he⟩

theorem ShardsInvariant.run (deployer : Address) (transactions : List CheckpointTransaction)
    (hs : SignedOnce (submitted E (.create deployer) transactions)) :
    ShardsInvariant E (run (CheckpointRegistry.step E) (.create deployer) transactions)
        (submitted E (.create deployer) transactions) ∧
      Agree E (submitted E (.create deployer) transactions) := by
  induction transactions using List.reverseRecOn with
  | nil =>
    refine ⟨.create E deployer, ?_⟩
    intro F hF
    cases hF
  | append_singleton before tx ih =>
    rw [submitted_snoc] at hs ⊢
    rw [run_append]
    obtain ⟨h, ha⟩ := ih (hs.mono (List.subset_append_left _ _))
    exact ⟨h.step ha hs, h.records.agree_step ha hs⟩

theorem ShardsInvariant.recorded_iff (h : ShardsInvariant E S checkpoints)
    (hs : SignedOnce checkpoints) : S.Recorded F ↔ F ∈ checkpoints := by
  constructor
  · rintro ⟨hn, hF⟩
    obtain ⟨G, hG, he⟩ := h.stored F.checkpointIdentityHash (by rw [hF]; exact hn)
    have hrecord := h.records.records G hG
    rw [he, hF] at hrecord
    rw [hrecord]
    exact hG
  · intro hF
    exact ⟨hs.1 F hF, h.records.records F hF⟩

/-- Where relays sign no zero hash and no hash for two checkpoints, the checkpoints of every shard
are one chain in every state of a run, from the latest one back to zero, and a submission that
reverts or comes again changes nothing. -/
theorem checkpoints_linear (E : Evm) (deployer : Address)
    (transactions : List CheckpointTransaction)
    (hsigned : SignedOnce (submitted E (.create deployer) transactions)) :
    let S := run (CheckpointRegistry.step E) (.create deployer) transactions
    (∀ F, S.Recorded F ↔ F ∈ submitted E (.create deployer) transactions) ∧
      (∀ shard, ∃ hashes,
        Walk S.previousOf 0 (S.latestCheckpointByShard shard) hashes ∧ hashes.Nodup ∧
        (∀ checkpointHash, checkpointHash ∈ hashes ↔
          ∃ F, S.Recorded F ∧ F.shard = shard ∧ F.checkpointIdentityHash = checkpointHash) ∧
        (hashes.Pairwise fun later earlier => S.epochOf earlier < S.epochOf later) ∧
        S.latestEpochStartByShard shard = (hashes.head?.map S.epochOf).getD 0) ∧
      (∀ F G, S.Recorded F → S.Recorded G → F.epochStartMs = G.epochStartMs →
        F.shard = G.shard → F = G) ∧
      ∀ tx input relaySignature, tx.call = .submitCheckpoint input relaySignature →
        (∃ error, S.execute E tx = .error error) ∨
          S.checkpointHashByEpochShard (epochShardKey E input.epochStartMs input.shard) ≠ 0 →
        S.step E tx = S := by
  intro S
  obtain ⟨h, ha⟩ := ShardsInvariant.run deployer transactions hsigned
  have hrec : ∀ F, S.Recorded F ↔ F ∈ submitted E (.create deployer) transactions :=
    fun F => h.recorded_iff hsigned
  refine ⟨hrec, ?_, ?_, ?_⟩
  · intro shard
    obtain ⟨hashes, hc⟩ := h.chains shard
    refine ⟨hashes, hc.walk, ?_, ?_, hc.decreasing, hc.latest⟩
    · refine hc.decreasing.imp ?_
      rintro later _ hlt rfl
      exact UInt64.lt_irrefl _ hlt
    · intro checkpointHash
      simp only [hc.mem, hrec]
  · intro F G hF hG he hs
    apply ha F ((hrec F).mp hF) G ((hrec G).mp hG)
    left
    rw [CheckpointInput.slot, CheckpointInput.slot, he, hs]
  · intro tx input relaySignature hcall hcase
    rcases hcase with ⟨error, he⟩ | htaken
    · exact step_of_error he
    · cases he : S.execute E tx with
      | error error => exact step_of_error he
      | ok S' =>
        rw [step_of_ok he]
        rw [execute, hcall] at he
        obtain ⟨⟨event, T⟩, hsub, rfl⟩ := map_eq_ok.mp he
        rcases submitCheckpoint_ok hsub with ⟨-, -, -, rfl⟩ | ⟨-, hf, -, -⟩
        · rfl
        · exact absurd hf htaken

/-- Two checkpoints of one shard under hashes of their own. -/
theorem checkpoints_linear_sample :
    let transactions := sampleRun (checkpointOf 2000 5 6)
    let S := run (CheckpointRegistry.step relayEvm) (.create 1) transactions
    S.latestCheckpointByShard 0x0daa = 6 ∧
      submitted relayEvm (.create 1) transactions =
        [checkpointOf 1000 0 5, checkpointOf 2000 5 6] ∧
      ∃ hashes, Walk S.previousOf 0 6 hashes ∧ hashes.Nodup := by
  intro transactions S
  have hsub : submitted relayEvm (.create 1) transactions =
      [checkpointOf 1000 0 5, checkpointOf 2000 5 6] := by decide +kernel
  have hlatest : S.latestCheckpointByShard 0x0daa = 6 := by decide +kernel
  have hsigned : SignedOnce (submitted relayEvm (.create 1) transactions) := by
    rw [hsub]
    refine ⟨by decide, by decide⟩
  obtain ⟨-, hchains, -⟩ := checkpoints_linear relayEvm 1 transactions hsigned
  obtain ⟨hashes, hw, hn, -⟩ := hchains 0x0daa
  refine ⟨hlatest, hsub, hashes, ?_, hn⟩
  rw [← hlatest]
  exact hw

end Chain

end Continuity
