import Continuity.SparseBuild

namespace Continuity
open HashTree Collections
set_option autoImplicit true

theorem encodable_steps (path : List InclusionProofStep) :
    EncodableItems (path.map InclusionProofStep.toJs) := by
  induction path with
  | nil => exact True.intro
  | cons step path ih => exact ⟨⟨True.intro, True.intro, True.intro⟩, ih⟩

def proofValue (root value : Hex32) (index depth : Nat) (path : List InclusionProofStep) :
    JsValue :=
  .obj [(js "root", .str root), (js "value_commitment", .str value),
    (js "leaf_index", .num (.ofNat index)), (js "tree_depth", .num (.ofNat depth)),
    (js "sibling_path", siblingPathJs path)]

theorem sparseProofHash_eq (N : Noble) (label : JsString) (root value : Hex32)
    (hi : index < 2 ^ 53) (hd : depth < 2 ^ 53) (path : List InclusionProofStep) :
    sparseProofHash N label root value (.ofNat index) (.ofNat depth) path =
      .ok (sha256Hex N (sparseMessage label (proofValue root value index depth path))) :=
  sparseHash_eq N label ⟨True.intro, True.intro, encodable_ofNat hi, encodable_ofNat hd,
    encodable_steps path, True.intro⟩

def indexValue (tree_id : JsString) (index : Nat) : JsValue :=
  .obj [(js "tree_id", .str tree_id), (js "index", .num (.ofNat index))]

theorem indexCommitment_eq (N : Noble) (tree_id : JsString) (hi : index < 2 ^ 53) :
    indexCommitment N tree_id (.ofNat index) =
      .ok (sha256Hex N (sparseMessage (js "leaf-index") (indexValue tree_id index))) :=
  sparseHash_eq N _ ⟨True.intro, encodable_ofNat hi, True.intro⟩

theorem rootCheckpointOr_ok (N : Noble) (root_checkpoint : Option Hex32) (tree_id : JsString)
    (root : Hex32) :
    ∃ checkpoint, (∀ c, root_checkpoint = some c → checkpoint = c) ∧
      rootCheckpointOr N root_checkpoint tree_id root = .ok checkpoint := by
  cases root_checkpoint with
  | some c => exact ⟨c, by simp, rfl⟩
  | none => exact ⟨_, by simp, sparseHash_eq N _ ⟨True.intro, True.intro, True.intro⟩⟩

/-- A proof object that is closed over its own fields. -/
def closedProof (N : Noble) (empty : Option Hex32) (value root : Hex32) (index depth : Nat)
    (tree_id : JsString) (path : List InclusionProofStep) (subject : TrustID)
    (issued_at : RFC3339) (checkpoint : Hex32) : SetNonMembershipProofV1 where
  type := js "tsl.zk.non_membership_proof.v1"
  claim := js "revocation_set_non_membership"
  subject := subject
  set_root := root
  root := some root
  root_checkpoint := some checkpoint
  value_commitment := value
  tree_id := some tree_id
  tree_depth := some (.ofNat depth)
  leaf_index := some (.ofNat index)
  leaf_index_commitment :=
    some (sha256Hex N (sparseMessage (js "leaf-index") (indexValue tree_id index)))
  leaf_value_commitment := some (sha256Hex N (valueMessage value))
  empty_leaf_commitment := empty
  lower_neighbor := none
  upper_neighbor := none
  sibling_path := some path
  proof := sha256Hex N (sparseMessage
    (if truthy empty then nonMembershipLabel else inclusionLabel)
    (proofValue root value index depth path))
  issued_at := issued_at

theorem safe_index (hd : depth ≤ 30) (hi : index < 2 ^ depth) : index < 2 ^ 53 :=
  Nat.lt_trans hi (Nat.pow_lt_pow_right (by decide) (by omega))

theorem safe_depth (hd : depth ≤ 30) : depth < 2 ^ 53 :=
  Nat.lt_of_le_of_lt hd (by decide)

/-- A closed proof is accepted as soon as its path climbs to the root. -/
theorem closedProof_accepted {profile : SparseMerkleProfileV1}
    (hx : sparseMerkleIndex value profile.tree_depth = .ok index)
    (hl : profile.tree_depth = .ofNat path.length)
    (he : truthy empty = true → empty = some (zeroDigest N 0))
    (hc : (sparseScheme N).climb (if truthy empty then zeroDigest N 0
      else sha256Hex N (valueMessage value)) (sparseSteps path) = root)
    (subject : TrustID) (issued_at : RFC3339) (checkpoint : Hex32) :
    verifySparseMerkleProof N (closedProof N empty value root index path.length profile.tree_id
      path subject issued_at checkpoint) root profile = .ok true := by
  obtain ⟨d, hd, hi⟩ := sparseMerkleIndex_ok hx
  obtain ⟨hdepth, -, hle⟩ := sparseDepth_ok.mp hd
  rw [hl, JsNumber.toInt?_ofNat, Option.some.injEq] at hdepth
  have hdl : path.length = d := by exact_mod_cast hdepth
  subst hdl
  have hclosed := sparseProofHash_eq N (if truthy empty then nonMembershipLabel
    else inclusionLabel) root value (safe_index hle hi) (safe_depth hle) path
  have hac : Accepted N (closedProof N empty value root index path.length profile.tree_id path
      subject issued_at checkpoint) root profile path (.ofNat index) index := {
    tree_id := rfl
    tree_depth := by rw [closedProof, numberIs, hl, JsNumber.strictEq_ofNat_self]
    root_eq := fun _ => rfl
    set_root := rfl
    leaf_index_eq := rfl
    path_eq := rfl
    length := by rw [hl, JsNumber.strictEq_ofNat_self]
    index_ok := hx
    index_eq := JsNumber.strictEq_ofNat_self _
    index_commitment := ⟨_, indexCommitment_eq N _ (safe_index hle hi), rfl⟩
    empty_leaf := he
    leaf_value := rfl
    climb := hc
    closed := by rw [hl]; exact hclosed }
  exact hac.verify

/-- The siblings of a slot, as the provers list them. -/
def slotPath (N : Noble) (tree : SparseMerkleTreeV1) (depth index : Nat) :
    List InclusionProofStep :=
  (completePath (sparseScheme N) (slotMessage tree.leaves) depth 0 index).map proofStep

theorem completePath_length (S : Scheme M D) (f : Nat → M) (n level i : Nat) :
    (completePath S f n level i).length = n := by
  induction n generalizing level i with
  | zero => rfl
  | succ n ih => simp only [completePath, List.length_cons, ih]

theorem slotPath_length (N : Noble) (tree : SparseMerkleTreeV1) (depth index : Nat) :
    (slotPath N tree depth index).length = depth := by
  rw [slotPath, List.length_map, completePath_length]

/-- From every slot its path climbs to the root of the tree. -/
theorem Built.climb (hb : Built N values profile tree depth) (hi : index < 2 ^ depth) :
    (sparseScheme N).climb (sha256Hex N (slotMessage tree.leaves index))
      (sparseSteps (slotPath N tree depth index)) = tree.root := by
  have hc := completePath_climb (S := sparseScheme N) (slotMessage tree.leaves) depth 0 index
  rw [Nat.zero_add, Nat.div_eq_of_lt hi] at hc
  rw [slotPath, sparseSteps_proofStep, hb.root_eq]
  exact hc

theorem sparseProof_eq (empty : Option Hex32) (hb : Built N values profile tree depth)
    (hx : sparseMerkleIndex value profile.tree_depth = .ok index)
    (hl : label = if truthy empty then nonMembershipLabel else inclusionLabel)
    (subject : TrustID) (issued_at : RFC3339) (root_checkpoint : Option Hex32) :
    ∃ checkpoint, (∀ c, root_checkpoint = some c → checkpoint = c) ∧
      sparseProof N label empty value index tree subject issued_at root_checkpoint =
        .ok (closedProof N empty value tree.root index depth profile.tree_id
          (slotPath N tree depth index) subject issued_at checkpoint) := by
  obtain ⟨hd, hge, hle, hi, hnum⟩ := hb.depth_of_index hx
  have hsafe := safe_index hle hi
  obtain ⟨checkpoint, hcp, hc⟩ :=
    rootCheckpointOr_ok N root_checkpoint profile.tree_id tree.root
  refine ⟨checkpoint, hcp, ?_⟩
  subst hl
  simp only [sparseProof, hb.profile_eq, hd, bind, Except.bind,
    sparseMerklePath_eq tree.leaves hb.zeroes, hc, indexCommitment_eq N profile.tree_id hsafe,
    sparseMerkleLeaf_eq]
  rw [hnum, sparseProofHash_eq N _ _ _ hsafe (safe_depth hle)]
  rfl

/-- Both provers return a closed proof of the slot of the value. -/
theorem proveSparseMerkleInclusion_eq (hb : Built N values profile tree depth)
    (hx : sparseMerkleIndex value profile.tree_depth = .ok index)
    (hg : tree.leaves.get? index = some value) (subject : TrustID) (issued_at : RFC3339)
    (root_checkpoint : Option Hex32) :
    ∃ checkpoint, (∀ c, root_checkpoint = some c → checkpoint = c) ∧
      proveSparseMerkleInclusion N value tree subject issued_at root_checkpoint =
        .ok (closedProof N none value tree.root index depth profile.tree_id
          (slotPath N tree depth index) subject issued_at checkpoint) := by
  obtain ⟨checkpoint, hcp, hp⟩ := sparseProof_eq none hb hx rfl subject issued_at
    root_checkpoint
  refine ⟨checkpoint, hcp, ?_⟩
  simp only [proveSparseMerkleInclusion, hb.profile_eq, hx, bind, Except.bind, hg, ne_eq,
    not_true_eq_false, if_false]
  exact hp

theorem proveSparseMerkleNonMembership_eq (hb : Built N values profile tree depth)
    (hx : sparseMerkleIndex value profile.tree_depth = .ok index)
    (hg : tree.leaves.has index = false) (subject : TrustID) (issued_at : RFC3339)
    (root_checkpoint : Option Hex32) :
    ∃ checkpoint, (∀ c, root_checkpoint = some c → checkpoint = c) ∧
      proveSparseMerkleNonMembership N value tree subject issued_at root_checkpoint =
        .ok (closedProof N (some (zeroDigest N 0)) value tree.root index depth profile.tree_id
          (slotPath N tree depth index) subject issued_at checkpoint) := by
  obtain ⟨checkpoint, hcp, hp⟩ := sparseProof_eq (some (zeroDigest N 0)) hb hx rfl subject
    issued_at root_checkpoint
  refine ⟨checkpoint, hcp, ?_⟩
  simp only [proveSparseMerkleNonMembership, hb.profile_eq, hx, bind, Except.bind, hg,
    hb.zeroes 0 (Nat.zero_le _)]
  exact hp

/-- The proofs of the provers are accepted against the root of their tree. -/
theorem slotProof_accepted (hb : Built N values profile tree depth)
    (hx : sparseMerkleIndex value profile.tree_depth = .ok index)
    (he : truthy empty = true → empty = some (zeroDigest N 0))
    (hs : sha256Hex N (slotMessage tree.leaves index) = if truthy empty then zeroDigest N 0
      else sha256Hex N (valueMessage value))
    (subject : TrustID) (issued_at : RFC3339) (checkpoint : Hex32) :
    verifySparseMerkleProof N (closedProof N empty value tree.root index depth profile.tree_id
      (slotPath N tree depth index) subject issued_at checkpoint) tree.root profile =
      .ok true := by
  obtain ⟨-, -, -, hi, hnum⟩ := hb.depth_of_index hx
  have hlen := slotPath_length N tree depth index
  have hclimb := hb.climb hi
  rw [hs] at hclimb
  have h := closedProof_accepted hx (by rw [hlen, hnum]) he hclimb subject issued_at checkpoint
  rwa [hlen] at h

/-- Every member has an accepted inclusion proof, and every value with an empty slot an accepted
non-membership proof. -/
theorem sparseMerkleProofs_complete (h : buildSparseMerkleTree N values profile = .ok tree)
    (subject : TrustID) (issued_at : RFC3339) (root_checkpoint : Option Hex32) :
    (∀ v ∈ values, ∃ proof,
      proveSparseMerkleInclusion N v tree subject issued_at root_checkpoint = .ok proof ∧
        verifySparseMerkleProof N proof tree.root profile = .ok true) ∧
    ∀ v i, sparseMerkleIndex v profile.tree_depth = .ok i → tree.leaves.has i = false →
      ∃ proof,
        proveSparseMerkleNonMembership N v tree subject issued_at root_checkpoint = .ok proof ∧
          verifySparseMerkleProof N proof tree.root profile = .ok true := by
  obtain ⟨depth, hb⟩ := buildSparseMerkleTree_built h
  constructor
  · intro v hv
    obtain ⟨i, hi, hg⟩ := hb.member v hv
    obtain ⟨checkpoint, -, hp⟩ :=
      proveSparseMerkleInclusion_eq hb hi hg subject issued_at root_checkpoint
    refine ⟨_, hp, slotProof_accepted hb hi ?_ ?_ _ _ _⟩
    · intro he
      cases he
    · rw [slotMessage, hg]
      rfl
  · intro v i hi hg
    obtain ⟨checkpoint, -, hp⟩ :=
      proveSparseMerkleNonMembership_eq hb hi hg subject issued_at root_checkpoint
    have hn : tree.leaves.get? i = none := by simpa [OrderedMap.has] using hg
    have ht : truthy (some (zeroDigest N 0)) = true := truthy_bytesToHex _
    refine ⟨_, hp, slotProof_accepted hb hi ?_ ?_ _ _ _⟩
    · intro _
      rfl
    · rw [slotMessage, hn, ht]
      rfl

def sparseValue : Hex32 :=
  hex32 0x2222222222222222222222222222222222222222222222222222222222222222

def sampleProfile : SparseMerkleProfileV1 where
  tree_id := js "revocation-set-v1"
  tree_depth := .ofNat 1

def sparseLeaf : Hex32 :=
  hex32 0x72259a16dae67badda384ecbc1a2e9e44f5b514670bfe288663ebce5c5705b07

def sparseZero : Hex32 :=
  hex32 0x97703c46088c5514c0770a90c889f9a6d56b55a9e5456e15315b85d6465da296

def sparseRoot : Hex32 :=
  hex32 0x88837b01b1e015f9ac3a30e31c6a09c4a153d2b7b8d65556f0c425551feda7cf

/-- The path of the empty slot 1, next to the value in slot 0. -/
def emptySlotPath : List InclusionProofStep := [{ side := .left, hash := sparseLeaf }]

/-- The digests of a tree of depth 1 with one value, and of a proof of its empty slot. -/
def sparseDigests : List (Bytes × Bytes) :=
  [(zeroMessage, hexBytes sparseZero), (valueMessage sparseValue, hexBytes sparseLeaf),
    (sparseMessage (js "node") (nodeValue sparseZero sparseZero),
      bigEndian 32 0xb1d3c544aca2004f7f4b569a682fc4bf48ed56120c5b7e6a6b0653d0f4341fa5),
    (sparseMessage (js "node") (nodeValue sparseLeaf sparseZero), hexBytes sparseRoot),
    (sparseMessage (js "leaf-index") (indexValue sampleProfile.tree_id 0),
      bigEndian 32 0xbf911b41db606643ad2cfb4ed7a36a828baff7ec81689979e2997c384218c870),
    (sparseMessage nonMembershipLabel (proofValue sparseRoot sparseValue 0 1 emptySlotPath),
      bigEndian 32 0x2ebc5d16b2781c021c03b0ecf0d14623f0ab795b1e5547eff6519370cb82e8bc)]

def sparseNoble : Noble := recorded sparseDigests [] longDigest

theorem sparseSample_tree :
    ∃ tree, buildSparseMerkleTree sparseNoble [sparseValue] sampleProfile = .ok tree ∧
      tree.root = sparseRoot := by
  have hr : (buildSparseMerkleTree sparseNoble [sparseValue] sampleProfile).map
      SparseMerkleTreeV1.root = .ok sparseRoot := by
    decide +kernel
  cases ht : buildSparseMerkleTree sparseNoble [sparseValue] sampleProfile with
  | error e => simp [ht, Except.map] at hr
  | ok tree => exact ⟨tree, rfl, by simpa [ht, Except.map] using hr⟩

theorem sparseMerkleProofs_complete_sample :
    ∃ tree, buildSparseMerkleTree sparseNoble [sparseValue] sampleProfile = .ok tree ∧
      (∀ v ∈ [sparseValue], ∃ proof,
        proveSparseMerkleInclusion sparseNoble v tree (js "did:tsl:test:alice")
            (js "2026-01-01T00:00:00Z") none = .ok proof ∧
          verifySparseMerkleProof sparseNoble proof tree.root sampleProfile = .ok true) ∧
      ∀ v i, sparseMerkleIndex v sampleProfile.tree_depth = .ok i → tree.leaves.has i = false →
        ∃ proof,
          proveSparseMerkleNonMembership sparseNoble v tree (js "did:tsl:test:alice")
              (js "2026-01-01T00:00:00Z") none = .ok proof ∧
            verifySparseMerkleProof sparseNoble proof tree.root sampleProfile = .ok true := by
  obtain ⟨tree, ht, -⟩ := sparseSample_tree
  exact ⟨tree, ht, sparseMerkleProofs_complete ht _ _ _⟩

end Continuity
