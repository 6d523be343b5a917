import Continuity.HashTree
import Continuity.Merkle

namespace Continuity
open HashTree
set_option autoImplicit true

def merkleScheme (N : Noble) : Scheme Bytes Bytes where
  hash := N.sha256
  pair a b := domainMessage DOMAIN_TAGS.MERKLE_NODE_V1 (a ++ b)

def leafMessage (index : Nat) (commitment : Bytes) : Bytes :=
  domainMessage DOMAIN_TAGS.MERKLE_LEAF_V1 (bigEndian 8 index ++ commitment)

def IsLeafMessage (m : Bytes) : Prop := ∃ data, m = domainMessage DOMAIN_TAGS.MERKLE_LEAF_V1 data

def hexDigest (N : Noble) (t : MessageTree Bytes) : Hex32 := bytesToHex (t.digest (merkleScheme N))

def leafTrees : Nat → List Hex32 → List (MessageTree Bytes)
  | _, [] => []
  | index, commitment :: rest =>
    .leaf (leafMessage index (hexBytes commitment)) :: leafTrees (index + 1) rest

/-- The hash tree of a list of commitments, as a list that holds at most its root. -/
def commitmentTree (commitments : List Hex32) : List (MessageTree Bytes) :=
  collapse MessageTree.node commitments.length (leafTrees 0 commitments)

/-- Every message that `buildMerkleTree` hashes. -/
def treeInputs (N : Noble) (commitments : List Hex32) : List Bytes :=
  (commitmentTree commitments).flatMap (MessageTree.inputs (merkleScheme N))

/-- A hash function whose digests have the 32 bytes of SHA-256. -/
def Digest32 (N : Noble) : Prop := ∀ m, (N.sha256 m).length = 32

theorem tag_leaf : Tag DOMAIN_TAGS.MERKLE_LEAF_V1 := by decide

theorem tag_node : Tag DOMAIN_TAGS.MERKLE_NODE_V1 := by decide

theorem tag_leaf_ne_node :
    textEncode DOMAIN_TAGS.MERKLE_LEAF_V1 ≠ textEncode DOMAIN_TAGS.MERKLE_NODE_V1 := by
  decide

theorem merkleScheme_separated (h : Digest32 N) :
    (merkleScheme N).Separated IsLeafMessage fun d => d.length = 32 where
  good := h
  apart := by
    rintro m a b ⟨data, rfl⟩ he
    exact tag_leaf_ne_node (domainMessage_unique tag_leaf tag_node he).1
  left_cancel := by
    intro a c b d ha hc he
    exact List.append_inj (domainMessage_injective tag_node he) (ha.trans hc.symm)
  right_cancel := by
    intro b d a c hb hd he
    exact List.append_inj' (domainMessage_injective tag_node he) (hb.trans hd.symm)

theorem leafMessage_injective (hi : i < 256 ^ 8) (hj : j < 256 ^ 8)
    (h : leafMessage i a = leafMessage j b) : i = j ∧ a = b := by
  have hd := domainMessage_injective tag_leaf h
  obtain ⟨hn, hb⟩ := List.append_inj hd (by rw [bigEndian_length, bigEndian_length])
  exact ⟨bigEndian_injective hi hj hn, hb⟩

theorem bigInt_ok : bigInt value = .ok n ↔ value.toInt? = some n := by
  simp only [bigInt]
  cases h : value.toInt? with
  | none => simp [throw, throwThe, MonadExceptOf.throw]
  | some m => simp [pure, Except.pure]

/-- What `hashLeaf` computes when it does not throw. -/
theorem hashLeaf_ok : hashLeaf N index commitment = .ok leaf ↔
    ∃ n : Nat, ∃ bytes, index.toInt? = some (n : Int) ∧ n < 256 ^ 8 ∧
      hexToBytes commitment = .ok bytes ∧ leaf = hexDigest N (.leaf (leafMessage n bytes)) := by
  simp only [hashLeaf, bind_eq_ok, bigInt_ok, uint64be_ok]
  constructor
  · rintro ⟨z, hz, word, ⟨h0, hlt, rfl⟩, bytes, hb, he⟩
    simp only [pure, Except.pure, Except.ok.injEq] at he
    refine ⟨z.toNat, bytes, ?_, by omega, hb, he.symm⟩
    rw [Int.toNat_of_nonneg h0]
    exact hz
  · rintro ⟨n, bytes, hz, hlt, hb, rfl⟩
    exact ⟨n, hz, _, ⟨by omega, by omega, rfl⟩, bytes, hb, rfl⟩

@[simp] theorem hashNode_hex (N : Noble) (a b : Bytes) :
    hashNode N (bytesToHex a) (bytesToHex b) = .ok (bytesToHex ((merkleScheme N).join a b)) := by
  simp only [hashNode, hexToBytes_bytesToHex]
  rfl

theorem hashLeaves_ok (h : hashLeaves N index commitments = .ok leaves) :
    leaves = (leafTrees index commitments).map (hexDigest N) ∧
      (commitments ≠ [] → index + commitments.length ≤ 256 ^ 8) ∧
      ∀ c ∈ commitments, hexToBytes c = .ok (hexBytes c) := by
  induction commitments generalizing index leaves with
  | nil =>
    simp only [hashLeaves, pure, Except.pure, Except.ok.injEq] at h
    exact ⟨h.symm, by simp, by simp⟩
  | cons c rest ih =>
    simp only [hashLeaves, bind_eq_ok] at h
    obtain ⟨leaf, hleaf, tail, htail, he⟩ := h
    simp only [pure, Except.pure, Except.ok.injEq] at he
    obtain ⟨n, bytes, hn, hlt, hb, hl⟩ := hashLeaf_ok.mp hleaf
    obtain ⟨ht, hbound, hall⟩ := ih htail
    simp only [JsNumber.toInt?_ofNat, Option.some.injEq] at hn
    have hi : index = n := by exact_mod_cast hn
    subst hi
    refine ⟨?_, ?_, ?_⟩
    · rw [← he, ht, hl, leafTrees, hexBytes_ok hb, List.map_cons]
    · intro _
      by_cases hr : rest = []
      · subst hr
        exact hlt
      · have := hbound hr
        simp only [List.length_cons]
        omega
    · intro d hd
      rcases List.mem_cons.mp hd with rfl | hd
      · rw [hexBytes_ok hb, hb]
      · exact hall d hd

theorem hashLeaves_of_bytes (hb : ∀ c ∈ commitments, hexToBytes c = .ok (hexBytes c))
    (hl : index + commitments.length ≤ 256 ^ 8) :
    hashLeaves N index commitments = .ok ((leafTrees index commitments).map (hexDigest N)) := by
  induction commitments generalizing index with
  | nil => rfl
  | cons c rest ih =>
    simp only [List.length_cons] at hl
    have hleaf : hashLeaf N (.ofNat index) c =
        .ok (hexDigest N (.leaf (leafMessage index (hexBytes c)))) :=
      hashLeaf_ok.mpr ⟨index, hexBytes c, by simp, by omega, hb c (by simp), rfl⟩
    have htail := ih (fun d hd => hb d (by simp [hd])) (by omega : index + 1 + rest.length ≤ _)
    simp only [hashLeaves, hleaf, htail, leafTrees, List.map_cons]
    rfl

theorem nextLevel_digests (N : Noble) (ts : List (MessageTree Bytes)) :
    nextLevel N (ts.map (hexDigest N)) = .ok ((pairUp MessageTree.node ts).map (hexDigest N)) := by
  fun_induction pairUp MessageTree.node ts with
  | case1 => rfl
  | case2 t => rfl
  | case3 l r rest ih =>
    simp only [List.map_cons, nextLevel, ih, hexDigest, hashNode_hex]
    rfl

/-- The last level holds the digest of the collapsed tree. -/
theorem buildLevels_digests (N : Noble) (fuel : Nat) (ts : List (MessageTree Bytes)) :
    ∃ above, buildLevels N fuel (ts.map (hexDigest N)) = .ok above ∧
      (ts.map (hexDigest N) :: above).getLast (by simp) =
        (collapse MessageTree.node fuel ts).map (hexDigest N) := by
  induction fuel generalizing ts with
  | zero => exact ⟨[], rfl, rfl⟩
  | succ fuel ih =>
    by_cases hl : ts.length ≤ 1
    · refine ⟨[], ?_, ?_⟩
      · simp only [buildLevels, List.length_map, gt_iff_lt, Nat.not_lt.mpr hl, if_false]
        rfl
      · simp only [List.getLast_singleton, collapse, hl, if_true]
    · obtain ⟨above, hb, he⟩ := ih (pairUp MessageTree.node ts)
      refine ⟨(pairUp MessageTree.node ts).map (hexDigest N) :: above, ?_, ?_⟩
      · simp only [buildLevels, List.length_map, gt_iff_lt, Nat.lt_of_not_le hl, if_true,
          nextLevel_digests, bind, Except.bind, hb]
        rfl
      · rw [List.getLast_cons (by simp), he]
        simp only [collapse, hl, if_false]

theorem leafTrees_length (index : Nat) (commitments : List Hex32) :
    (leafTrees index commitments).length = commitments.length := by
  induction commitments generalizing index with
  | nil => rfl
  | cons c rest ih => simp only [leafTrees, List.length_cons, ih]

theorem commitmentTree_singleton (h : commitments ≠ []) :
    ∃ t, commitmentTree commitments = [t] := by
  have hn : leafTrees 0 commitments ≠ [] := by
    intro he
    have hl := leafTrees_length 0 commitments
    rw [he] at hl
    exact h (List.length_eq_zero_iff.mp hl.symm)
  apply List.length_eq_one_iff.mp
  exact collapse_length _ _ _ (by rw [leafTrees_length]; omega) hn

theorem buildMerkleTree_bytes (hn : commitments ≠ [])
    (h : buildMerkleTree N commitments = .ok tree) :
    commitments.length ≤ 256 ^ 8 ∧ ∀ c ∈ commitments, hexToBytes c = .ok (hexBytes c) := by
  have hl : commitments.length ≠ 0 := fun he => hn (List.length_eq_zero_iff.mp he)
  simp only [buildMerkleTree, hl, if_false, bind_eq_ok] at h
  obtain ⟨leaves, hleaves, -⟩ := h
  obtain ⟨-, hbound, hb⟩ := hashLeaves_ok hleaves
  exact ⟨by simpa using hbound hn, hb⟩

/-- The root that `buildMerkleTree` returns is the digest of the commitment tree. -/
theorem buildMerkleTree_root (hn : commitments ≠ [])
    (h : buildMerkleTree N commitments = .ok tree) :
    ∃ t, commitmentTree commitments = [t] ∧ tree.root = hexDigest N t := by
  have hl : commitments.length ≠ 0 := fun he => hn (List.length_eq_zero_iff.mp he)
  simp only [buildMerkleTree, hl, if_false, bind_eq_ok] at h
  obtain ⟨leaves, hleaves, above, habove, he⟩ := h
  obtain ⟨hd, -, -⟩ := hashLeaves_ok hleaves
  subst hd
  obtain ⟨above', hb, hlast⟩ := buildLevels_digests N commitments.length (leafTrees 0 commitments)
  rw [habove, Except.ok.injEq] at hb
  subst hb
  obtain ⟨t, ht⟩ := commitmentTree_singleton hn
  simp only [pure, Except.pure, Except.ok.injEq] at he
  refine ⟨t, ht, ?_⟩
  rw [commitmentTree] at ht
  rw [← he]
  simp only [hlast, ht]
  rfl

theorem leafTrees_leaves (index : Nat) (commitments : List Hex32) :
    (leafTrees index commitments).flatMap MessageTree.leaves =
      (commitments.zipIdx index).map fun c => leafMessage c.2 (hexBytes c.1) := by
  induction commitments generalizing index with
  | nil => rfl
  | cons c rest ih =>
    simp only [leafTrees, List.flatMap_cons, ih, MessageTree.leaves, List.zipIdx_cons,
      List.map_cons, List.singleton_append]

theorem commitmentTree_leaves (h : commitmentTree commitments = [t]) :
    t.leaves = commitments.zipIdx.map fun c => leafMessage c.2 (hexBytes c.1) := by
  have hl := collapse_leaves commitments.length (leafTrees 0 commitments)
  rw [commitmentTree] at h
  rw [h, leafTrees_leaves] at hl
  simpa using hl

theorem commitmentTree_isLeaf (h : commitmentTree commitments = [t]) :
    ∀ m ∈ t.leaves, IsLeafMessage m := by
  rw [commitmentTree_leaves h]
  intro m hm
  obtain ⟨c, -, rfl⟩ := List.mem_map.mp hm
  exact ⟨_, rfl⟩

def sampleCommitments : List Hex32 :=
  [hex32 0x1111111111111111111111111111111111111111111111111111111111111111,
    hex32 0x2222222222222222222222222222222222222222222222222222222222222222,
    hex32 0x3333333333333333333333333333333333333333333333333333333333333333]

/-- The digests of the hash tree over the sample commitments. -/
def sampleDigests : List (Bytes × Bytes) :=
  let leaf0 := bigEndian 32 0xaa2a4d9eb85b520c877cac819e3ee01252bb8e91ebd43276f2e2a35817c44c88
  let leaf1 := bigEndian 32 0x7a0c53fbbb895ff7a765dd0335ec8a402beb8576595e852e3a15a570f4944d87
  let leaf2 := bigEndian 32 0xef31da93a8354e9dc5fbfc02db652d9acad2029316f2466cc271fb73d6d743ce
  let node01 := bigEndian 32 0xcc9cf460631e9a62a4becbfb54e4d65b11a3d83cfbb1fd3e913a091923be58df
  let root := bigEndian 32 0x6c83c5d04d2cad77ebd34bb6a8702792fa1ef1e08265a17eec7772c2674d4ed8
  [(leafMessage 0 (List.replicate 32 0x11), leaf0), (leafMessage 1 (List.replicate 32 0x22), leaf1),
    (leafMessage 2 (List.replicate 32 0x33), leaf2),
    (domainMessage DOMAIN_TAGS.MERKLE_NODE_V1 (leaf0 ++ leaf1), node01),
    (domainMessage DOMAIN_TAGS.MERKLE_NODE_V1 (node01 ++ leaf2), root)]

def sampleNoble : Noble := recorded sampleDigests [] fun _ => List.replicate 32 255

theorem recorded_digest32 (h : ∀ e ∈ digests, e.2.length = 32)
    (ho : ∀ m, (other m).length = 32) : Digest32 (recorded digests signatures other) := by
  intro m
  rcases recorded_sha256 digests signatures other m with hm | hm
  · rw [hm]
    exact ho m
  · exact h _ hm

theorem sampleNoble_digest32 : Digest32 sampleNoble :=
  recorded_digest32 (by decide) fun _ => rfl

end Continuity
