import Continuity.MerkleDigest

namespace Continuity
open HashTree
set_option autoImplicit true

variable {N : Noble}

/-- One step of the path leads from a node of a level to its parent on the next one. -/
theorem inclusionPath_step {ts : List (MessageTree Bytes)} (ht : ts[i]? = some t)
    (hu : (pairUp MessageTree.node ts)[i / 2]? = some u) (levels : List (List Hex32)) :
    climbPath N (hexDigest N t) (inclusionPath i (ts.map (hexDigest N) :: levels)) =
      climbPath N (hexDigest N u) (inclusionPath (i / 2) levels) := by
  rw [pairUp_getElem?] at hu
  rcases Nat.mod_two_eq_zero_or_one i with h | h
  · have hi : 2 * (i / 2) = i := by omega
    rw [hi, ht] at hu
    cases hs : ts[i + 1]? with
    | none =>
      rw [hs] at hu
      simp only [Option.map_none, Option.getD_none, Option.map_some, Option.some.injEq] at hu
      subst hu
      simp [inclusionPath, h, hs, truthy]
    | some r =>
      rw [hs] at hu
      simp only [Option.map_some, Option.getD_some, Option.some.injEq] at hu
      subst hu
      have hr : truthy (some (hexDigest N r)) = true := truthy_bytesToHex _
      have hn : hashNode N (hexDigest N t) (hexDigest N r) = .ok (hexDigest N (.node t r)) :=
        hashNode_hex N _ _
      simp only [inclusionPath, h, List.getElem?_map, Nat.zero_ne_one, beq_iff_eq, if_false, hs,
        Option.map_some, hr, if_true, Option.getD_some, climbPath, hn]
      rfl
  · have hi : 2 * (i / 2) + 1 = i := by omega
    have hj : 2 * (i / 2) = i - 1 := by omega
    rw [hi, hj, ht] at hu
    cases hs : ts[i - 1]? with
    | none => simp [hs] at hu
    | some l =>
      rw [hs] at hu
      simp only [Option.map_some, Option.getD_some, Option.some.injEq] at hu
      subst hu
      have hl : truthy (some (hexDigest N l)) = true := truthy_bytesToHex _
      have hn : hashNode N (hexDigest N l) (hexDigest N t) = .ok (hexDigest N (.node l t)) :=
        hashNode_hex N _ _
      simp only [inclusionPath, h, List.getElem?_map, beq_self_eq_true, if_true, hs,
        Option.map_some, hl, Option.getD_some, climbPath, hn]
      rfl

/-- The path of every node of a level climbs to the last level. -/
theorem inclusionPath_climb (fuel : Nat) {ts : List (MessageTree Bytes)} (ht : ts[i]? = some t)
    (hl : ts.length ≤ fuel + 1) (h : buildLevels N fuel (ts.map (hexDigest N)) = .ok above) :
    climbPath N (hexDigest N t) (inclusionPath i (ts.map (hexDigest N) :: above).dropLast) =
      .ok (some (((ts.map (hexDigest N) :: above).getLast (by simp)).headD [])) := by
  have hlt : i < ts.length := (List.getElem?_eq_some_iff.mp ht).1
  have hone (hle : ts.length ≤ 1) : ts = [t] := by
    obtain ⟨x, rfl⟩ := List.length_eq_one_iff.mp (show ts.length = 1 by omega)
    have hi : i = 0 := by simpa using hlt
    subst hi
    simpa using ht
  induction fuel generalizing ts i t above with
  | zero =>
    rw [hone hl] at h ⊢
    simp only [buildLevels, pure, Except.pure, Except.ok.injEq] at h
    subst h
    rfl
  | succ fuel ih =>
    by_cases hle : ts.length ≤ 1
    · rw [hone hle] at h ⊢
      simp only [buildLevels, List.map_cons, List.map_nil, List.length_singleton, gt_iff_lt,
        Nat.lt_irrefl, if_false, pure, Except.pure, Except.ok.injEq] at h
      subst h
      rfl
    · simp only [buildLevels, List.length_map, gt_iff_lt, Nat.lt_of_not_le hle, if_true,
        nextLevel_digests, bind_eq_ok, Except.ok.injEq, exists_eq_left', pure, Except.pure] at h
      obtain ⟨rest, hrest, rfl⟩ := h
      have hp := pairUp_length MessageTree.node ts
      have hhalf : i / 2 < (pairUp MessageTree.node ts).length := by omega
      obtain ⟨u, hu⟩ : ∃ u, (pairUp MessageTree.node ts)[i / 2]? = some u :=
        ⟨_, List.getElem?_eq_getElem hhalf⟩
      rw [List.dropLast_cons_of_ne_nil (by simp), inclusionPath_step ht hu,
        List.getLast_cons (by simp)]
      refine ih hu (by omega) hrest hhalf ?_
      intro hle'
      obtain ⟨x, hx⟩ := List.length_eq_one_iff.mp
        (show (pairUp MessageTree.node ts).length = 1 by omega)
      have hi : i / 2 = 0 := by omega
      rw [hx, hi] at hu
      simpa [hx] using hu

theorem leafTrees_getElem? (start i : Nat) (commitments : List Hex32) :
    (leafTrees start commitments)[i]? =
      commitments[i]?.map fun c => .leaf (leafMessage (start + i) (hexBytes c)) := by
  induction commitments generalizing start i with
  | nil => simp [leafTrees]
  | cons c rest ih =>
    cases i with
    | zero => simp [leafTrees]
    | succ i => simp [leafTrees, ih, Nat.add_assoc, Nat.add_comm 1 i]

/-- A hex string that decodes to 32 bytes. -/
def IsCommitment (c : Hex32) : Prop := ∃ bytes, hexToBytes c = .ok bytes ∧ bytes.length = 32

theorem IsCommitment.ne_nil (h : IsCommitment c) : c ≠ [] := by
  rintro rfl
  obtain ⟨bytes, hb, hl⟩ := h
  have hn : hexToBytes [] = .ok [] := rfl
  rw [hn, Except.ok.injEq] at hb
  simp [← hb] at hl

theorem IsCommitment.bytes (h : IsCommitment c) : hexToBytes c = .ok (hexBytes c) := by
  obtain ⟨bytes, hb, -⟩ := h
  rw [hexBytes_ok hb, hb]

/-- Building succeeds on every list of commitments whose indices fit 64 bits. -/
theorem buildMerkleTree_ok (hb : ∀ c ∈ commitments, hexToBytes c = .ok (hexBytes c))
    (hl : commitments.length ≤ 256 ^ 8) (hn : commitments ≠ []) :
    ∃ above, buildLevels N commitments.length
        ((leafTrees 0 commitments).map (hexDigest N)) = .ok above ∧
      buildMerkleTree N commitments = .ok {
        leaves := (leafTrees 0 commitments).map (hexDigest N)
        levels := (leafTrees 0 commitments).map (hexDigest N) :: above
        root := (((leafTrees 0 commitments).map (hexDigest N) :: above).getLast
          (by simp)).headD [] } := by
  have hz : commitments.length ≠ 0 := fun he => hn (List.length_eq_zero_iff.mp he)
  have hleaves := hashLeaves_of_bytes (N := N) hb (show 0 + commitments.length ≤ 256 ^ 8 by omega)
  obtain ⟨above, habove, -⟩ :=
    buildLevels_digests N commitments.length (leafTrees 0 commitments)
  refine ⟨above, habove, ?_⟩
  simp only [buildMerkleTree, hz, if_false, hleaves, bind, Except.bind, habove]
  rfl

/-- The proof returned for an index of the list. -/
theorem buildInclusionProof_ok {input : InclusionProofInput}
    (ht : buildMerkleTree N input.commitments = .ok tree) (hi : i < input.commitments.length)
    (hx : input.leaf_index = .ofNat i) (hc : input.commitments[i] ≠ []) :
    buildInclusionProof N input = .ok {
      tree_kind := input.tree_kind
      commitment := input.commitments[i]
      leaf_index := .ofNat i
      leaf_hash := tree.leaves[i]?.getD []
      root := tree.root
      epoch_start_ms := input.epoch_start_ms
      epoch_duration_ms := input.epoch_duration_ms
      shard := input.shard
      path := inclusionPath i tree.levels.dropLast
      checkpoint_hash := input.checkpoint_hash.getD ZERO_HASH } := by
  have hat : arrayAt input.commitments (.ofNat i) = some input.commitments[i] := by
    simp [arrayAt, hi]
  have htruthy : truthy (some input.commitments[i]) = true := truthy_iff.mpr ⟨_, rfl, hc⟩
  simp only [buildInclusionProof, ht, bind, Except.bind, hx, hat, htruthy,
    JsNumber.toInt?_ofNat]
  rfl

/-- The proof for an index of a list of hex texts is accepted. -/
theorem buildInclusionProof_verifies (input : InclusionProofInput)
    (hb : ∀ c ∈ input.commitments, hexToBytes c = .ok (hexBytes c))
    (hl : input.commitments.length ≤ 256 ^ 8) (hi : i < input.commitments.length)
    (hx : input.leaf_index = .ofNat i) (hn : input.commitments[i] ≠ []) :
    ∃ tree proof, buildMerkleTree N input.commitments = .ok tree ∧
      buildInclusionProof N input = .ok proof ∧ proof.root = tree.root ∧
      proof.commitment = input.commitments[i] ∧
      proof.checkpoint_hash = input.checkpoint_hash.getD ZERO_HASH ∧
      hashLeaf N (.ofNat i) input.commitments[i] = .ok proof.leaf_hash ∧
      verifyInclusion N proof = .ok true := by
  have hne : input.commitments ≠ [] := by
    intro he
    simp [he] at hi
  obtain ⟨above, habove, htree⟩ := buildMerkleTree_ok (N := N) hb hl hne
  have hleaf : (leafTrees 0 input.commitments)[i]? =
      some (.leaf (leafMessage i (hexBytes input.commitments[i]))) := by
    rw [leafTrees_getElem?, List.getElem?_eq_getElem hi, Nat.zero_add]
    rfl
  have hhash : hashLeaf N (.ofNat i) input.commitments[i] =
      .ok (hexDigest N (.leaf (leafMessage i (hexBytes input.commitments[i])))) :=
    hashLeaf_ok.mpr ⟨i, _, by simp, by omega, hb _ (List.getElem_mem hi), rfl⟩
  have hclimb := inclusionPath_climb input.commitments.length hleaf
    (by rw [leafTrees_length]; omega) habove
  refine ⟨_, _, htree, buildInclusionProof_ok htree hi hx hn, rfl, rfl, rfl, ?_, ?_⟩
  · rw [hhash, List.getElem?_map, hleaf]
    rfl
  · simp only [verifyInclusion, hhash, bind, Except.bind, List.getElem?_map, hleaf,
      Option.map_some, Option.getD_some, ne_eq, not_true_eq_false, if_false, hclimb, decide_true]
    rfl

/-- Every index of a list of commitments has a proof, and the proof is accepted. -/
theorem buildInclusionProof_complete {input : InclusionProofInput}
    (hc : ∀ c ∈ input.commitments, IsCommitment c) (hl : input.commitments.length ≤ 256 ^ 8)
    (hi : i < input.commitments.length) (hx : input.leaf_index = .ofNat i) :
    ∃ tree proof, buildMerkleTree N input.commitments = .ok tree ∧
      buildInclusionProof N input = .ok proof ∧ proof.root = tree.root ∧
      hashLeaf N (.ofNat i) input.commitments[i] = .ok proof.leaf_hash ∧
      verifyInclusion N proof = .ok true := by
  obtain ⟨tree, proof, ht, hp, hroot, -, -, hleaf, hv⟩ := buildInclusionProof_verifies
    input (N := N) (fun c h => (hc c h).bytes) hl hi hx (hc _ (List.getElem_mem hi)).ne_nil
  exact ⟨tree, proof, ht, hp, hroot, hleaf, hv⟩

def sampleInput : InclusionProofInput where
  commitments := sampleCommitments
  leaf_index := .ofNat 2
  tree_kind := .event
  epoch_start_ms := .ofNat 0
  epoch_duration_ms := .ofNat 60000
  shard := js "0000"
  checkpoint_hash := none

theorem sampleCommitments_isCommitment : ∀ c ∈ sampleCommitments, IsCommitment c := by
  intro c hc
  simp only [sampleCommitments, List.mem_cons, List.not_mem_nil, or_false] at hc
  rcases hc with rfl | rfl | rfl
  all_goals exact ⟨_, hexToBytes_bytesToHex _, bigEndian_length _ _⟩

theorem buildInclusionProof_complete_sample :
    ∃ tree proof, buildMerkleTree sampleNoble sampleInput.commitments = .ok tree ∧
      buildInclusionProof sampleNoble sampleInput = .ok proof ∧ proof.root = tree.root ∧
      hashLeaf sampleNoble (.ofNat 2) sampleInput.commitments[2] = .ok proof.leaf_hash ∧
      verifyInclusion sampleNoble proof = .ok true :=
  buildInclusionProof_complete sampleCommitments_isCommitment
    (by decide) (by decide) rfl

end Continuity
