import Continuity.MerkleDigest

namespace Continuity
open HashTree
set_option autoImplicit true

def proofSteps : List InclusionProofStep → List (Side × Bytes)
  | [] => []
  | step :: path =>
    match step.side with
    | .left => (.left, hexBytes step.hash) :: proofSteps path
    | .right => (.right, hexBytes step.hash) :: proofSteps path
    | .other _ _ => []

def proofLeaf (proof : InclusionProofV1) : Bytes :=
  leafMessage (proof.leaf_index.toInt?.getD 0).toNat (hexBytes proof.commitment)

/-- Every message that `verifyInclusion` hashes. -/
def proofInputs (N : Noble) (proof : InclusionProofV1) : List Bytes :=
  proofLeaf proof ::
    (merkleScheme N).pathInputs (N.sha256 (proofLeaf proof)) (proofSteps proof.path)

def CollisionFree (N : Noble) (messages : List Bytes) : Prop :=
  ∀ a ∈ messages, ∀ b ∈ messages, N.sha256 a = N.sha256 b → a = b

instance (N : Noble) (messages : List Bytes) : Decidable (CollisionFree N messages) :=
  inferInstanceAs (Decidable (∀ a ∈ messages, ∀ b ∈ messages, N.sha256 a = N.sha256 b → a = b))

/-- No domain hash is the root of the empty tree. -/
def NeverZero (N : Noble) : Prop := ∀ tag data, hashDomain N tag data ≠ ZERO_HASH

theorem hashNode_ok : hashNode N left right = .ok node ↔
    ∃ l r, hexToBytes left = .ok l ∧ hexToBytes right = .ok r ∧
      node = hashDomain N DOMAIN_TAGS.MERKLE_NODE_V1 (l ++ r) := by
  simp only [hashNode, bind_eq_ok, pure, Except.pure, Except.ok.injEq]
  constructor
  · rintro ⟨l, hl, r, hr, rfl⟩
    exact ⟨l, r, hl, hr, rfl⟩
  · rintro ⟨l, r, hl, hr, rfl⟩
    exact ⟨l, hl, r, hr, rfl⟩

/-- The loop of `verifyInclusion` climbs the steps of the path. -/
theorem climbPath_ok (h : climbPath N (bytesToHex d) path = .ok (some root)) :
    root = bytesToHex ((merkleScheme N).climb d (proofSteps path)) := by
  induction path generalizing d with
  | nil =>
    simp only [climbPath, pure, Except.pure, Except.ok.injEq, Option.some.injEq] at h
    exact h.symm
  | cons step path ih =>
    obtain ⟨side, hash⟩ := step
    cases side with
    | left =>
      simp only [climbPath, bind_eq_ok] at h
      obtain ⟨node, hn, hrest⟩ := h
      obtain ⟨l, r, hl, hr, rfl⟩ := hashNode_ok.mp hn
      rw [hexToBytes_bytesToHex, Except.ok.injEq] at hr
      subst hr
      simp only [proofSteps, hexBytes_ok hl]
      exact ih hrest
    | right =>
      simp only [climbPath, bind_eq_ok] at h
      obtain ⟨node, hn, hrest⟩ := h
      obtain ⟨l, r, hl, hr, rfl⟩ := hashNode_ok.mp hn
      rw [hexToBytes_bytesToHex, Except.ok.injEq] at hl
      subst hl
      simp only [proofSteps, hexBytes_ok hr]
      exact ih hrest
    | other text ht => simp [climbPath, pure, Except.pure] at h

/-- A path never climbs to the root of the empty tree. -/
theorem climbPath_ne_zero (hz : NeverZero N) (hc : current ≠ ZERO_HASH)
    (h : climbPath N current path = .ok (some root)) : root ≠ ZERO_HASH := by
  induction path generalizing current with
  | nil =>
    simp only [climbPath, pure, Except.pure, Except.ok.injEq, Option.some.injEq] at h
    rwa [← h]
  | cons step path ih =>
    obtain ⟨side, hash⟩ := step
    cases side with
    | left =>
      simp only [climbPath, bind_eq_ok] at h
      obtain ⟨node, hn, hrest⟩ := h
      obtain ⟨l, r, -, -, rfl⟩ := hashNode_ok.mp hn
      exact ih (hz _ _) hrest
    | right =>
      simp only [climbPath, bind_eq_ok] at h
      obtain ⟨node, hn, hrest⟩ := h
      obtain ⟨l, r, -, -, rfl⟩ := hashNode_ok.mp hn
      exact ih (hz _ _) hrest
    | other text ht => simp [climbPath, pure, Except.pure] at h

/-- What an accepted inclusion proof has established. -/
theorem verifyInclusion_ok (h : verifyInclusion N proof = .ok true) :
    ∃ n : Nat, ∃ bytes, proof.leaf_index.toInt? = some (n : Int) ∧ n < 256 ^ 8 ∧
      hexToBytes proof.commitment = .ok bytes ∧ proofLeaf proof = leafMessage n bytes ∧
      proof.leaf_hash = hexDigest N (.leaf (leafMessage n bytes)) ∧
      climbPath N proof.leaf_hash proof.path = .ok (some proof.root) := by
  simp only [verifyInclusion, bind_eq_ok] at h
  obtain ⟨leaf, hleaf, h⟩ := h
  obtain ⟨n, bytes, hn, hlt, hb, rfl⟩ := hashLeaf_ok.mp hleaf
  split at h
  · simp [pure, Except.pure] at h
  · rename_i he
    simp only [ne_eq, not_not] at he
    simp only [bind_eq_ok] at h
    obtain ⟨current, hc, hr⟩ := h
    simp only [pure, Except.pure, Except.ok.injEq, decide_eq_true_eq] at hr
    rw [hr, he] at hc
    have hp : proofLeaf proof = leafMessage n bytes := by
      rw [proofLeaf, hn, hexBytes_ok hb]
      rfl
    exact ⟨n, bytes, hn, hlt, hb, hp, he.symm, hc⟩

/-- An accepted path climbs from the digest of its leaf message to the claimed root. -/
theorem verifyInclusion_climb (h : verifyInclusion N proof = .ok true) :
    proof.root = bytesToHex
      ((merkleScheme N).climb (N.sha256 (proofLeaf proof)) (proofSteps proof.path)) := by
  obtain ⟨n, bytes, -, -, -, hp, hl, hc⟩ := verifyInclusion_ok h
  rw [hl, hexDigest, MessageTree.digest] at hc
  rw [hp]
  exact climbPath_ok hc

theorem verifyInclusion_ne_zero (hz : NeverZero N) (h : verifyInclusion N proof = .ok true) :
    proof.root ≠ ZERO_HASH := by
  obtain ⟨n, bytes, -, -, -, -, hl, hc⟩ := verifyInclusion_ok h
  have hleaf : proof.leaf_hash ≠ ZERO_HASH := by
    rw [hl]
    exact hz _ _
  exact climbPath_ne_zero hz hleaf hc

theorem proofLeaf_mem (hd : Digest32 N) (ht : commitmentTree commitments = [t])
    (hc : CollisionFree N (treeInputs N commitments ++ proofInputs N proof))
    (hr : proof.root = hexDigest N t) (hv : verifyInclusion N proof = .ok true) :
    proofLeaf proof ∈ t.leaves := by
  have he : (merkleScheme N).climb (N.sha256 (proofLeaf proof)) (proofSteps proof.path) =
      t.digest (merkleScheme N) := by
    apply bytesToHex_injective
    rw [← verifyInclusion_climb hv, hr, hexDigest]
  have hin : treeInputs N commitments = t.inputs (merkleScheme N) := by
    simp [treeInputs, ht]
  rw [hin] at hc
  have hm : IsLeafMessage (proofLeaf proof) := ⟨_, rfl⟩
  exact t.descend_mem ((merkleScheme_separated hd).climb_sound t (proofSteps proof.path)
    (commitmentTree_isLeaf ht) hm hc he)

/-- Against the root of a non-empty list, the index and the commitment of an accepted proof are
those of the list. -/
theorem verifyInclusion_at (hd : Digest32 N) (hne : commitments ≠ [])
    (hc : CollisionFree N (treeInputs N commitments ++ proofInputs N proof))
    (ht : buildMerkleTree N commitments = .ok tree) (hr : proof.root = tree.root)
    (hv : verifyInclusion N proof = .ok true) :
    ∃ i : Nat, proof.leaf_index.toInt? = some (i : Int) ∧ ∃ hi : i < commitments.length,
      hexToBytes commitments[i] = hexToBytes proof.commitment := by
  obtain ⟨n, bytes, hn, hlt, hb, hp, -, -⟩ := verifyInclusion_ok hv
  obtain ⟨t, hct, hdig⟩ := buildMerkleTree_root hne ht
  obtain ⟨hlist, hbytes⟩ := buildMerkleTree_bytes hne ht
  have hmem := proofLeaf_mem hd hct hc (hr.trans hdig) hv
  rw [commitmentTree_leaves hct, hp] at hmem
  obtain ⟨⟨c, i⟩, hci, hm⟩ := List.mem_map.mp hmem
  obtain ⟨hi, hce⟩ := List.mem_zipIdx' hci
  obtain ⟨rfl, hbe⟩ := leafMessage_injective (by omega) hlt hm
  refine ⟨i, hn, hi, ?_⟩
  rw [hb, ← hce, hbytes c (by rw [hce]; exact List.getElem_mem hi), hbe]

theorem buildMerkleTree_nil (h : buildMerkleTree N [] = .ok tree) : tree.root = ZERO_HASH := by
  simp only [buildMerkleTree, List.length_nil, if_true, pure, Except.pure, Except.ok.injEq] at h
  rw [← h]

/-- A proof that `verifyInclusion` accepts against the root of a commitment list names an index
of the list and the commitment at that index. -/
theorem verifyInclusion_sound (hd : Digest32 N) (hz : NeverZero N)
    (hc : CollisionFree N (treeInputs N commitments ++ proofInputs N proof))
    (ht : buildMerkleTree N commitments = .ok tree) (hr : proof.root = tree.root)
    (hv : verifyInclusion N proof = .ok true) :
    ∃ i : Nat, proof.leaf_index.toInt? = some (i : Int) ∧ ∃ hi : i < commitments.length,
      hexToBytes commitments[i] = hexToBytes proof.commitment := by
  by_cases hne : commitments = []
  · subst hne
    exact (verifyInclusion_ne_zero hz hv (hr.trans (buildMerkleTree_nil ht))).elim
  · exact verifyInclusion_at hd hne hc ht hr hv

theorem recorded_neverZero (h : ∀ e ∈ digests, bytesToHex e.2 ≠ ZERO_HASH)
    (ho : ∀ m, bytesToHex (other m) ≠ ZERO_HASH) :
    NeverZero (recorded digests signatures other) := by
  intro tag data
  rw [hashDomain, sha256Hex]
  rcases recorded_sha256 digests signatures other (domainMessage tag data) with hm | hm
  · rw [hm]
    exact ho _
  · exact h _ hm

theorem sampleNoble_neverZero : NeverZero sampleNoble := by
  have hdef : bytesToHex (List.replicate 32 255) ≠ ZERO_HASH := by decide
  exact recorded_neverZero (by decide) fun _ => hdef

/-- The proof of the promoted third leaf of the sample tree. -/
def sampleProof : InclusionProofV1 where
  tree_kind := .event
  commitment := hex32 0x3333333333333333333333333333333333333333333333333333333333333333
  leaf_index := .ofNat 2
  leaf_hash := hex32 0xef31da93a8354e9dc5fbfc02db652d9acad2029316f2466cc271fb73d6d743ce
  root := hex32 0x6c83c5d04d2cad77ebd34bb6a8702792fa1ef1e08265a17eec7772c2674d4ed8
  epoch_start_ms := .ofNat 0
  epoch_duration_ms := .ofNat 60000
  shard := js "0000"
  path := [{ side := .left,
             hash := hex32 0xcc9cf460631e9a62a4becbfb54e4d65b11a3d83cfbb1fd3e913a091923be58df }]
  checkpoint_hash := ZERO_HASH

theorem sampleProof_root :
    (buildMerkleTree sampleNoble sampleCommitments).map MerkleTree.root = .ok sampleProof.root := by
  decide +kernel

theorem verifyInclusion_sound_sample :
    verifyInclusion sampleNoble sampleProof = .ok true ∧
      ∃ i : Nat, sampleProof.leaf_index.toInt? = some (i : Int) ∧
        ∃ hi : i < sampleCommitments.length,
          hexToBytes sampleCommitments[i] = hexToBytes sampleProof.commitment := by
  have hv : verifyInclusion sampleNoble sampleProof = .ok true := by decide +kernel
  have hc : CollisionFree sampleNoble
      (treeInputs sampleNoble sampleCommitments ++ proofInputs sampleNoble sampleProof) := by
    decide +kernel
  refine ⟨hv, ?_⟩
  cases ht : buildMerkleTree sampleNoble sampleCommitments with
  | error e =>
    have hr := sampleProof_root
    simp [ht, Except.map] at hr
  | ok tree =>
    have hr : tree.root = sampleProof.root := by
      simpa [ht, Except.map] using sampleProof_root
    exact verifyInclusion_sound sampleNoble_digest32 sampleNoble_neverZero hc ht hr.symm hv

/-- The root over some commitments is the hash of a leaf or of a node. -/
theorem buildMerkleTree_tagged (hne : commitments ≠ [])
    (h : buildMerkleTree N commitments = .ok tree) :
    ∃ data, tree.root = hashDomain N DOMAIN_TAGS.MERKLE_LEAF_V1 data ∨
      tree.root = hashDomain N DOMAIN_TAGS.MERKLE_NODE_V1 data := by
  obtain ⟨t, ht, hr⟩ := buildMerkleTree_root hne h
  rw [hr]
  cases t with
  | leaf m =>
    obtain ⟨data, rfl⟩ := commitmentTree_isLeaf ht m (by simp [MessageTree.leaves])
    exact ⟨data, .inl rfl⟩
  | node l r => exact ⟨_, .inr rfl⟩

theorem buildMerkleTree_ne_zero (hz : NeverZero N) (hne : commitments ≠ [])
    (h : buildMerkleTree N commitments = .ok tree) : tree.root ≠ ZERO_HASH := by
  obtain ⟨data, hr | hr⟩ := buildMerkleTree_tagged hne h
  · rw [hr]
    exact hz _ _
  · rw [hr]
    exact hz _ _

theorem leafMessages_injective {as bs : List Hex32} {i : Nat}
    (ha : i + as.length ≤ 256 ^ 8) (hb : i + bs.length ≤ 256 ^ 8)
    (h : (as.zipIdx i).map (fun c => leafMessage c.2 (hexBytes c.1)) =
      (bs.zipIdx i).map fun c => leafMessage c.2 (hexBytes c.1)) :
    as.map hexBytes = bs.map hexBytes := by
  induction as generalizing bs i with
  | nil =>
    cases bs with
    | nil => rfl
    | cons b bs => simp at h
  | cons a as ih =>
    cases bs with
    | nil => simp at h
    | cons b bs =>
      simp only [List.zipIdx_cons, List.map_cons, List.cons.injEq] at h
      simp only [List.length_cons] at ha hb
      obtain ⟨-, he⟩ := leafMessage_injective (by omega) (by omega) h.1
      simp only [List.map_cons, he, ih (by omega) (by omega) h.2]

/-- Two non-empty lists with one root have one commitment tree. -/
theorem commitmentTree_unique (hd : Digest32 N) (h₁ : commitmentTree as = [t])
    (h₂ : commitmentTree bs = [u]) (hc : CollisionFree N (treeInputs N as ++ treeInputs N bs))
    (he : hexDigest N t = hexDigest N u) : t = u := by
  have hin : treeInputs N as ++ treeInputs N bs =
      t.inputs (merkleScheme N) ++ u.inputs (merkleScheme N) := by
    simp [treeInputs, h₁, h₂]
  rw [hin] at hc
  exact (merkleScheme_separated hd).digest_injective t u (commitmentTree_isLeaf h₁)
    (commitmentTree_isLeaf h₂) hc (bytesToHex_injective he)

theorem hex32_ext {as bs : List Hex32} (ha : ∀ c ∈ as, IsHex32 c) (hb : ∀ c ∈ bs, IsHex32 c)
    (h : as.map hexToBytes = bs.map hexToBytes) : as = bs := by
  induction as generalizing bs with
  | nil => simpa using h
  | cons a as ih =>
    cases bs with
    | nil => simp at h
    | cons b bs =>
      simp only [List.map_cons, List.cons.injEq] at h
      obtain ⟨x, -, rfl⟩ := ha a (by simp)
      obtain ⟨y, -, rfl⟩ := hb b (by simp)
      simp only [hexToBytes_bytesToHex, Except.ok.injEq] at h
      rw [h.1, ih (fun c hc => ha c (by simp [hc])) (fun c hc => hb c (by simp [hc])) h.2]

theorem map_hexToBytes {as bs : List Hex32} (ha : ∀ c ∈ as, hexToBytes c = .ok (hexBytes c))
    (hb : ∀ c ∈ bs, hexToBytes c = .ok (hexBytes c)) (h : as.map hexBytes = bs.map hexBytes) :
    as.map hexToBytes = bs.map hexToBytes := by
  have hlift : ∀ cs : List Hex32, (∀ c ∈ cs, hexToBytes c = .ok (hexBytes c)) →
      cs.map hexToBytes = (cs.map hexBytes).map Except.ok := by
    intro cs hcs
    rw [List.map_map]
    exact List.map_congr_left hcs
  rw [hlift as ha, hlift bs hb, h]

/-- One root binds one list of commitments: the same bytes in the same order, and so the same
strings where both lists are in the form of the schemas. -/
theorem buildMerkleTree_binding (hd : Digest32 N) (hz : NeverZero N)
    (hc : CollisionFree N (treeInputs N as ++ treeInputs N bs))
    (ha : buildMerkleTree N as = .ok t) (hb : buildMerkleTree N bs = .ok u)
    (hr : t.root = u.root) :
    as.map hexToBytes = bs.map hexToBytes ∧
      ((∀ c ∈ as, IsHex32 c) → (∀ c ∈ bs, IsHex32 c) → as = bs) := by
  have hmap : as.map hexToBytes = bs.map hexToBytes := by
    by_cases has : as = []
    · subst has
      by_cases hbs : bs = []
      · rw [hbs]
      · exact (buildMerkleTree_ne_zero hz hbs hb (hr.symm.trans (buildMerkleTree_nil ha))).elim
    · by_cases hbs : bs = []
      · subst hbs
        exact (buildMerkleTree_ne_zero hz has ha (hr.trans (buildMerkleTree_nil hb))).elim
      · obtain ⟨x, hx, hxr⟩ := buildMerkleTree_root has ha
        obtain ⟨y, hy, hyr⟩ := buildMerkleTree_root hbs hb
        obtain ⟨hla, hba⟩ := buildMerkleTree_bytes has ha
        obtain ⟨hlb, hbb⟩ := buildMerkleTree_bytes hbs hb
        have hxy := commitmentTree_unique hd hx hy hc (by rw [← hxr, hr, hyr])
        have hleaves := congrArg MessageTree.leaves hxy
        rw [commitmentTree_leaves hx, commitmentTree_leaves hy] at hleaves
        exact map_hexToBytes hba hbb
          (leafMessages_injective (by simpa using hla) (by simpa using hlb) hleaves)
  exact ⟨hmap, fun h₁ h₂ => hex32_ext h₁ h₂ hmap⟩

theorem buildMerkleTree_binding_sample :
    ∃ tree, buildMerkleTree sampleNoble sampleCommitments = .ok tree ∧
      sampleCommitments.map hexToBytes = sampleCommitments.map hexToBytes ∧
        ((∀ c ∈ sampleCommitments, IsHex32 c) → (∀ c ∈ sampleCommitments, IsHex32 c) →
          sampleCommitments = sampleCommitments) := by
  have hc : CollisionFree sampleNoble
      (treeInputs sampleNoble sampleCommitments ++ treeInputs sampleNoble sampleCommitments) := by
    decide +kernel
  cases ht : buildMerkleTree sampleNoble sampleCommitments with
  | error e =>
    have hr := sampleProof_root
    simp [ht, Except.map] at hr
  | ok tree =>
    exact ⟨tree, rfl,
      buildMerkleTree_binding sampleNoble_digest32 sampleNoble_neverZero hc ht ht rfl⟩

end Continuity
