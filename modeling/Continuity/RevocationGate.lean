import Continuity.SparseSound
import Continuity.VerifierSound

namespace Continuity
open Frames HashTree
set_option autoImplicit true

section Gate

variable {C : Context} {r r' : Report}

/-- The items of a gate that passes are all valid, and there is one when the policy requires it. -/
theorem Report.gate_passes
    (h : (r.gate name required results missing text).checks name = some true) :
    (∀ result ∈ results, result.valid = true) ∧ (required = true → results ≠ []) := by
  simp only [Report.gate, Report.explainIf_checks, Report.record, Report.push_checks,
    Report.check_same, Option.some.injEq, List.all_append, Bool.and_eq_true, List.all_eq_true] at h
  obtain ⟨hall, hmissing⟩ := h
  refine ⟨hall, ?_⟩
  rintro rfl rfl
  simp at hmissing

theorem checkNonMembershipProof_valid (h : checkNonMembershipProof C proof = .ok result)
    (hv : result.valid = true) :
    nonMembershipValid C proof (C.validate .nonMembershipProof proof.toJs).valid = .ok true := by
  obtain ⟨valid, hok, h⟩ := bind_eq_ok.mp h
  cases h
  simp only at hv
  rw [hok, hv]

/-- A passing gate has looked at some proof and found every listed one valid. -/
theorem nonMembershipBlock_valid (h : nonMembershipBlock C r = .ok r')
    (hr : isOn C.policy.require_non_membership_proof = true)
    (hc : r'.checks .non_membership_proof_valid = some true) :
    ∃ proofs, C.input.non_membership_proofs = some proofs ∧ proofs ≠ [] ∧
      ∀ proof ∈ proofs, nonMembershipValid C proof
        (C.validate .nonMembershipProof proof.toJs).valid = .ok true := by
  rw [nonMembershipBlock, if_pos (by rw [hr, Bool.or_true])] at h
  obtain ⟨results, hresults, h⟩ := bind_eq_ok.mp h
  cases h
  obtain ⟨hall, hne⟩ := Report.gate_passes hc
  have hpairs := mapM_eq_ok hresults
  cases hp : C.input.non_membership_proofs with
  | none =>
    rw [hp] at hpairs
    cases hpairs
    exact (hne hr rfl).elim
  | some proofs =>
    rw [hp, Option.getD_some] at hpairs
    refine ⟨proofs, rfl, ?_, ?_⟩
    · rintro rfl
      cases hpairs
      exact hne hr rfl
    · intro proof hproof
      rw [hp, Option.getD_some] at hresults
      obtain ⟨result, hresult, hok⟩ := mapM_mem hresults hproof
      exact checkNonMembershipProof_valid hok (hall result hresult)

theorem nonMembershipValid_true
    (h : nonMembershipValid C proof schemaValid = .ok true) :
    checkpointRootBound C proof = .ok true ∧ schemaValid = true ∧
      proof.subject = C.envelope.sender ∧ (sparseRequired C = true → sparseShape proof = true) ∧
      verifyNonMembershipProof C.noble C.host.env proof = .ok true := by
  obtain ⟨bound, hb, h⟩ := bind_eq_ok.mp h
  obtain ⟨hcond, hv⟩ := guarded_true.mp h
  simp only [Bool.and_eq_true, decide_eq_true_eq, Bool.or_eq_true, Bool.not_eq_true'] at hcond
  obtain ⟨⟨⟨hs, hsub⟩, hshape⟩, hbound⟩ := hcond
  subst hbound
  refine ⟨hb, hs, hsub, ?_, hv⟩
  intro hreq
  rcases hshape with hfalse | hshape
  · rw [hreq] at hfalse
    cases hfalse
  · exact hshape

theorem checkpointRootBound_true (hs : sparseRequired C = true)
    (h : checkpointRootBound C proof = .ok true) :
    ∃ checkpoint hash, C.input.checkpoint = some checkpoint ∧
      checkpointHashForPolicy C.host checkpoint = .ok hash ∧ proof.root_checkpoint = some hash ∧
      proof.root = some checkpoint.revocation_root ∧
      proof.set_root = checkpoint.revocation_root := by
  rw [checkpointRootBound, if_pos hs] at h
  split at h
  · cases h
  · next checkpoint hc =>
    obtain ⟨hash, hh, h⟩ := bind_eq_ok.mp h
    simp only [pure, Except.pure, Except.ok.injEq, Bool.and_eq_true, beq_iff_eq] at h
    exact ⟨checkpoint, hash, hc, hh, h.1.1, h.1.2, h.2⟩

end Gate

/-- The gate of a verified run. -/
theorem VerifiedRun.absence (V : VerifiedRun H tools input resolver policy backend)
    (h : isOn policy.require_non_membership_proof = true) :
    ∃ proofs, (expandProofBundleInput H input).1.non_membership_proofs = some proofs ∧
      proofs ≠ [] ∧ ∀ proof ∈ proofs, nonMembershipValid V.context proof
        (V.context.validate .nonMembershipProof proof.toJs).valid = .ok true := by
  obtain ⟨r, r', -, hb, hr'⟩ := V.block 17 (by decide)
  have hfinal : V.final.checks .non_membership_proof_valid = some true :=
    V.required (by simp [requiredChecks, VerifierPolicy.withDefaults, h])
  have hafter : r'.checks .non_membership_proof_valid = some true := by
    rw [← hfinal]
    exact (hr'.get _ (by simp [ownedBy, ownedBlocks])).symm
  exact nonMembershipBlock_valid hb h hafter

section Modes

variable {N : Noble} {env : ProcessEnv} {proof : SetNonMembershipProofV1}

/-- A proof without neighbours passes the first checks of the verifier. -/
theorem verifyNonMembershipProof_modes (ht : proof.type = js "tsl.zk.non_membership_proof.v1")
    (hc : proof.claim = js "revocation_set_non_membership") (hl : proof.lower_neighbor = none)
    (hu : proof.upper_neighbor = none) (hp : proof.sibling_path = some path) (hne : path ≠ [])
    (hi : proof.leaf_index = some index) (hd : proof.tree_depth = some depth) :
    verifyNonMembershipProof N env proof = match sparseProfile proof with
      | some profile => verifySparseMerkleProof N proof (proof.root.getD proof.set_root) profile
      | none => verifyIndexedProof N proof index depth path := by
  cases path with
  | nil => exact (hne rfl).elim
  | cons step path =>
    cases hs : sparseProfile proof with
    | none =>
      simp only [verifyNonMembershipProof, ht, hc, hl, hu, hp, hi, hd, hs, ne_eq,
        not_true_eq_false, if_false, truthy, Bool.false_and, Bool.false_eq_true]
    | some profile =>
      simp only [verifyNonMembershipProof, ht, hc, hl, hu, hs, ne_eq, not_true_eq_false,
        if_false, truthy, Bool.false_and, Bool.false_eq_true]

/-- The indexed mode throws when a neighbour is missing. -/
theorem verifyIndexedProof_neighbour (hl : proof.lower_neighbor = none) :
    verifyIndexedProof N proof index depth path ≠ .ok true := by
  intro h
  unfold verifyIndexedProof at h
  split at h
  · cases h
  · obtain ⟨leaf, hleaf, -⟩ := bind_eq_ok.mp h
    obtain ⟨bytes, hb, -⟩ := bind_eq_ok.mp hleaf
    refine canonicalBytes_defined hb (js "lower", .undefined) ?_ rfl
    simp [hl, optional]

theorem sparseProfile_closedProof (hr : truthy (some root) = true) (hp : path ≠ []) :
    sparseProfile (closedProof N empty value root index depth tree_id path subject issued_at
      checkpoint) = if tree_id = [] then none else some ⟨tree_id, .ofNat depth⟩ := by
  have hhash : ∀ m, truthy (some (sha256Hex N m)) = true := fun m => truthy_bytesToHex _
  simp only [sparseProfile, closedProof, hhash, hr, Bool.or_true, Bool.and_true]
  cases tree_id with
  | nil => rfl
  | cons u rest => simp [hp]

end Modes

/-- The root of a sparse tree is a hash under the tag of the proofs. -/
theorem Built.root_tagged (hb : Built N values profile tree depth) :
    ∃ data, tree.root = hashDomain N DOMAIN_TAGS.NON_MEMBERSHIP_PROOF_V1 data := by
  rw [hb.root_eq]
  cases depth with
  | zero =>
    rw [complete, MessageTree.digest, slotMessage]
    split
    · exact ⟨_, rfl⟩
    · exact ⟨_, rfl⟩
  | succ depth => exact ⟨_, rfl⟩

theorem Built.root_truthy (hb : Built N values profile tree depth) :
    truthy (some tree.root) = true := by
  obtain ⟨data, hr⟩ := hb.root_tagged
  rw [hr]
  exact truthy_hashDomain N _ data

/-- A proof of presence is accepted as a proof of absence exactly when its tree has an id. -/
theorem inclusionProof_accepted_iff (hb : Built N values profile tree depth) (hv : v ∈ values)
    (h : proveSparseMerkleInclusion N v tree subject issued_at root_checkpoint = .ok proof) :
    verifyNonMembershipProof N env proof = .ok true ↔ profile.tree_id ≠ [] := by
  obtain ⟨i, hi, hg⟩ := hb.member v hv
  obtain ⟨-, hge, -, -, hnum⟩ := hb.depth_of_index hi
  obtain ⟨checkpoint, -, hp⟩ :=
    proveSparseMerkleInclusion_eq hb hi hg subject issued_at root_checkpoint
  cases h.symm.trans hp
  have hne : slotPath N tree depth i ≠ [] := by
    intro hnil
    have hlen := slotPath_length N tree depth i
    rw [hnil] at hlen
    exact absurd hlen (by simp; omega)
  rw [verifyNonMembershipProof_modes rfl rfl rfl rfl rfl hne rfl rfl,
    sparseProfile_closedProof hb.root_truthy hne]
  split
  · next hprofile =>
    split at hprofile
    · cases hprofile
    · next hid =>
      cases hprofile
      refine ⟨fun _ => hid, fun _ => ?_⟩
      rw [← hnum]
      refine slotProof_accepted hb hi ?_ ?_ subject issued_at checkpoint
      · intro he
        cases he
      · rw [slotMessage, hg]
        rfl
  · next hprofile =>
    split at hprofile
    · next hid =>
      exact ⟨fun hok => (verifyIndexedProof_neighbour rfl hok).elim, fun hne => (hne hid).elim⟩
    · cases hprofile

/-- A proof of presence is kept apart from the proofs of absence only when its tree has no id. -/
theorem presence_never_absence_iff
    (h : buildSparseMerkleTree H.noble values profile = .ok tree) (hv : v ∈ values)
    (subject : TrustID) (issued_at : RFC3339) (root_checkpoint : Option Hex32) :
    (∀ proof, proveSparseMerkleInclusion H.noble v tree subject issued_at root_checkpoint =
        .ok proof →
      verifyNonMembershipProof H.noble H.env proof ≠ .ok true ∧
      ∀ tools input resolver policy backend result,
        isOn policy.require_non_membership_proof = true →
        (expandProofBundleInput H input).1.non_membership_proofs = some [proof] →
        verifyTSL H tools input resolver policy backend = .ok result → result.verified = false) ↔
      profile.tree_id = [] := by
  obtain ⟨depth, hb⟩ := buildSparseMerkleTree_built h
  constructor
  · intro hall
    by_contra hid
    obtain ⟨i, hi, hg⟩ := hb.member v hv
    obtain ⟨checkpoint, -, hp⟩ :=
      proveSparseMerkleInclusion_eq hb hi hg subject issued_at root_checkpoint
    exact (hall _ hp).1 ((inclusionProof_accepted_iff hb hv hp).mpr hid)
  · intro hid proof hp
    have hrejected : verifyNonMembershipProof H.noble H.env proof ≠ .ok true :=
      fun hok => (inclusionProof_accepted_iff hb hv hp).mp hok hid
    refine ⟨hrejected, ?_⟩
    intro tools input resolver policy backend result hr hlist hrun
    rw [Bool.eq_false_iff]
    intro hverified
    obtain ⟨V⟩ := verifyTSL_run hrun hverified
    obtain ⟨proofs, hproofs, -, hall⟩ := V.absence hr
    cases hlist.symm.trans hproofs
    exact hrejected (nonMembershipValid_true (hall proof (by simp))).2.2.2.2

theorem sparseProfile_shape (hs : sparseShape proof = true) (hi : proof.leaf_index = some index)
    (hd : proof.tree_depth = some depth) : sparseProfile proof ≠ none := by
  simp only [sparseShape, Bool.and_eq_true] at hs
  obtain ⟨⟨⟨⟨⟨hid, hr⟩, -⟩, hic⟩, hvc⟩, hp⟩ := hs
  obtain ⟨tree_id, hid, hne⟩ := truthy_iff.mp hid
  unfold nonEmptyList at hp
  split at hp
  · next step path hpath => simp [sparseProfile, hid, hpath, hi, hd, hic, hvc, hr, hne]
  · cases hp

/-- Without the fixtures a proof of the sparse shape is accepted by the sparse verifier only. -/
theorem sparseShape_accepted (hs : sparseShape proof = true)
    (hf : env (js "ALLOW_UNSAFE_NON_MEMBERSHIP_FIXTURES") ≠ some (js "true"))
    (h : verifyNonMembershipProof N env proof = .ok true) :
    ∃ profile, sparseProfile proof = some profile ∧
      verifySparseMerkleProof N proof (proof.root.getD proof.set_root) profile = .ok true := by
  unfold verifyNonMembershipProof at h
  split at h
  · cases h
  split at h
  · cases h
  split at h
  · cases h
  split at h
  · cases h
  split at h
  · next profile hprofile => exact ⟨profile, hprofile, h⟩
  · next hnone =>
    split at h
    · next hi hd => exact (sparseProfile_shape hs hi hd hnone).elim
    · cases h

/-- An accepted proof of absence whose sides spell the slot of its value is about a value outside
the tree. -/
theorem spelled_absent (hi : Function.Injective N.sha256)
    (ht : buildSparseMerkleTree N values profile = .ok tree)
    (hv : verifySparseMerkleProof N proof tree.root profile = .ok true)
    (he : truthy proof.empty_leaf_commitment = true) (hp : proof.sibling_path = some path)
    (hs : sparseMerkleIndex proof.value_commitment profile.tree_depth =
      .ok (spelledSlot (path.map InclusionProofStep.side))) :
    proof.value_commitment ∉ values := by
  obtain ⟨depth, hb⟩ := buildSparseMerkleTree_built ht
  obtain ⟨path', hp', -, hnone⟩ := hb.accepted_empty hi hv he
  cases hp.symm.trans hp'
  intro hmem
  obtain ⟨i, hindex, hg⟩ := hb.member _ hmem
  cases hs.symm.trans hindex
  rw [hnone] at hg
  cases hg

/-- What the gate of a verified event binds: every listed proof has the sender as its subject and
the revocation root of the checkpoint as its root. The value it is about is its own. -/
theorem verifyTSL_absence (hn : isOn policy.require_non_membership_proof = true)
    (hs : isOn policy.require_sparse_merkle_revocation_root = true)
    (h : verifyTSL H tools input resolver policy backend = .ok result)
    (hv : result.verified = true) :
    ∃ envelope checkpoint hash proofs,
      (expandProofBundleInput H input).1.envelope = some envelope ∧
      (expandProofBundleInput H input).1.checkpoint = some checkpoint ∧
      checkpointHashForPolicy H checkpoint = .ok hash ∧
      (expandProofBundleInput H input).1.non_membership_proofs = some proofs ∧ proofs ≠ [] ∧
      ∀ proof ∈ proofs, proof.subject = envelope.sender ∧ proof.root_checkpoint = some hash ∧
        proof.root = some checkpoint.revocation_root ∧
        proof.set_root = checkpoint.revocation_root ∧
        verifyNonMembershipProof H.noble H.env proof = .ok true ∧
        (H.env (js "ALLOW_UNSAFE_NON_MEMBERSHIP_FIXTURES") ≠ some (js "true") → ∃ profile,
          sparseProfile proof = some profile ∧
          verifySparseMerkleProof H.noble proof checkpoint.revocation_root profile = .ok true ∧
          ∀ values tree path, Function.Injective H.noble.sha256 →
            buildSparseMerkleTree H.noble values profile = .ok tree →
            tree.root = checkpoint.revocation_root →
            truthy proof.empty_leaf_commitment = true → proof.sibling_path = some path →
            sparseMerkleIndex proof.value_commitment profile.tree_depth =
              .ok (spelledSlot (path.map InclusionProofStep.side)) →
            proof.value_commitment ∉ values) := by
  obtain ⟨V⟩ := verifyTSL_run h hv
  obtain ⟨proofs, hproofs, hne, hall⟩ := V.absence hn
  have hsparse : sparseRequired V.context = true := hs
  obtain ⟨first, hfirst⟩ := List.exists_mem_of_ne_nil proofs hne
  obtain ⟨checkpoint, hash, hc, hh, -⟩ :=
    checkpointRootBound_true hsparse (nonMembershipValid_true (hall first hfirst)).1
  refine ⟨V.envelope, checkpoint, hash, proofs, V.envelope_eq, hc, hh, hproofs, hne, ?_⟩
  intro proof hproof
  obtain ⟨hbound, -, hsubject, hshape, haccepted⟩ := nonMembershipValid_true (hall proof hproof)
  obtain ⟨checkpoint', hash', hc', hh', hrc, hroot, hset⟩ :=
    checkpointRootBound_true hsparse hbound
  cases hc.symm.trans hc'
  cases hh.symm.trans hh'
  refine ⟨hsubject, hrc, hroot, hset, haccepted, ?_⟩
  intro hf
  obtain ⟨profile, hprofile, hok⟩ := sparseShape_accepted (hshape hsparse) hf haccepted
  rw [hroot, Option.getD_some] at hok
  refine ⟨profile, hprofile, hok, ?_⟩
  intro values tree path hi ht hr he hp hslot
  rw [← hr] at hok
  exact spelled_absent hi ht hok he hp hslot

/-- A commitment to a key of an identity. -/
def keyCommitment (N : Noble) (key : TrustID × JsString) : Hex32 :=
  sha256Hex N (valueBytes (.arr [.str key.1, .str key.2]))

def revokedKey : TrustID × JsString := (js "did:tsl:alice", js "#k1")

def otherKey : TrustID × JsString := (js "did:tsl:alice", js "#k4")

def revokedValue : Hex32 :=
  hex32 0x8e0662d7c3e64bc5467c14389c4b475a994224eaaa4b30c9bb4a7d049f58f48e

def otherValue : Hex32 :=
  hex32 0x425e8d414550606715890ff3ed6dab84bc717956b4e1a826124ec16524a434dd

/-- The digests of a tree with the commitment of the revoked key, of the proof of its presence
and of the proof of the absence of the other key. -/
def gateDigests : List (Bytes × Bytes) :=
  let leaf := hex32 0xad70d6027a7332a206ecd9d4bda84dea1aaeae9d5a401dbae1043399b1a33f2d
  signedDigests ++
  [(valueBytes (.arr [.str revokedKey.1, .str revokedKey.2]), hexBytes revokedValue),
    (valueBytes (.arr [.str otherKey.1, .str otherKey.2]), hexBytes otherValue),
    (zeroMessage, hexBytes sparseZero), (valueMessage revokedValue, hexBytes leaf),
    (valueMessage otherValue,
      bigEndian 32 0xdc0b8098f5dd5fea2f3aacb555bae1f047028414657efd6958dac68c1b3fe4a2),
    (sparseMessage (js "node") (nodeValue sparseZero sparseZero),
      bigEndian 32 0xb1d3c544aca2004f7f4b569a682fc4bf48ed56120c5b7e6a6b0653d0f4341fa5),
    (sparseMessage (js "node") (nodeValue leaf sparseZero), hexBytes sampleRevocationRoot),
    (sparseMessage (js "leaf-index") (indexValue sampleProfile.tree_id 0),
      bigEndian 32 0xbf911b41db606643ad2cfb4ed7a36a828baff7ec81689979e2997c384218c870),
    (sparseMessage (js "leaf-index") (indexValue sampleProfile.tree_id 1),
      bigEndian 32 0x2b71f2537dd1fc5d215daff504bc535067547b9e8143d65058196a49744d8588),
    (sparseMessage inclusionLabel (proofValue sampleRevocationRoot revokedValue 0 1
      [{ side := .right, hash := sparseZero }]),
      bigEndian 32 0x1d2e04835519838fa05c35bf821f0f86c552db4201604426c99340ac81235603),
    (sparseMessage nonMembershipLabel (proofValue sampleRevocationRoot otherValue 1 1
      [{ side := .left, hash := leaf }]),
      bigEndian 32 0xf574af0a9bdb0d054a26e16c8bff2a591b397b05f2251bf719cf840adcc60581)]

def gateNoble : Noble := recorded gateDigests sampleSignatures longDigest

def gateInput (proof : SetNonMembershipProofV1) : VerifyTSLInput :=
  { signedInput with non_membership_proofs := .value [proof] }

def gatePolicy : VerifierPolicy JsField :=
  { samplePolicy with
    require_non_membership_proof := some true
    require_sparse_merkle_revocation_root := some true }

/-- The sample event with one proof from a tree over the revoked key: whether the proof alone and
the event with it are accepted. -/
def gateRun (prove : SparseMerkleTreeV1 → Js SetNonMembershipProofV1) : Js (Hex32 × Bool × Bool) :=
  do
    let tree ← buildSparseMerkleTree gateNoble [revokedValue] sampleProfile
    let proof ← prove tree
    let accepted ← verifyNonMembershipProof gateNoble (sampleHost gateNoble).env proof
    let result ← verifyTSL (sampleHost gateNoble) sampleTools (gateInput proof)
      sampleResolver.resolveTrustID gatePolicy none
    return (tree.root, accepted, result.verified)

theorem gateRun_ok (h : gateRun prove = .ok (root, accepted, verified)) :
    ∃ tree proof result, buildSparseMerkleTree gateNoble [revokedValue] sampleProfile = .ok tree ∧
      tree.root = root ∧ prove tree = .ok proof ∧
      verifyNonMembershipProof gateNoble (sampleHost gateNoble).env proof = .ok accepted ∧
      verifyTSL (sampleHost gateNoble) sampleTools (gateInput proof)
        sampleResolver.resolveTrustID gatePolicy none = .ok result ∧
      result.verified = verified := by
  obtain ⟨tree, ht, h⟩ := bind_eq_ok.mp h
  obtain ⟨proof, hp, h⟩ := bind_eq_ok.mp h
  obtain ⟨ok, hok, h⟩ := bind_eq_ok.mp h
  obtain ⟨result, hr, h⟩ := bind_eq_ok.mp h
  cases h
  exact ⟨tree, proof, result, ht, rfl, hp, hok, hr, rfl⟩

/-- The presence of the revoked key and the absence of the other are both accepted. -/
theorem gateRuns :
    gateRun (fun tree => proveSparseMerkleInclusion gateNoble revokedValue tree
        (js "did:tsl:alice") (js "2026-05-25T00:00:00Z") (some sampleCheckpointHash)) =
          .ok (sampleRevocationRoot, true, true) ∧
      gateRun (fun tree => proveSparseMerkleNonMembership gateNoble otherValue tree
        (js "did:tsl:alice") (js "2026-05-25T00:00:00Z") (some sampleCheckpointHash)) =
          .ok (sampleRevocationRoot, true, true) := by
  refine ⟨?_, ?_⟩ <;> decide +kernel

/-- The proof that a key is revoked, accepted as the proof that it is not. -/
theorem presence_taken_for_absence :
    ∃ tree proof result, buildSparseMerkleTree gateNoble [revokedValue] sampleProfile = .ok tree ∧
      proveSparseMerkleInclusion gateNoble revokedValue tree (js "did:tsl:alice")
        (js "2026-05-25T00:00:00Z") (some sampleCheckpointHash) = .ok proof ∧
      verifyNonMembershipProof gateNoble (sampleHost gateNoble).env proof = .ok true ∧
      isOn gatePolicy.require_non_membership_proof = true ∧
      (expandProofBundleInput (sampleHost gateNoble) (gateInput proof)).1.non_membership_proofs =
        some [proof] ∧
      verifyTSL (sampleHost gateNoble) sampleTools (gateInput proof)
        sampleResolver.resolveTrustID gatePolicy none = .ok result ∧ result.verified = true := by
  obtain ⟨tree, proof, result, ht, -, hp, ha, hr, hv⟩ := gateRun_ok gateRuns.1
  exact ⟨tree, proof, result, ht, hp, ha, rfl, rfl, hr, hv⟩

theorem presence_never_absence_iff_sample :
    ∃ tree, buildSparseMerkleTree gateNoble [revokedValue] { sampleProfile with tree_id := [] } =
        .ok tree ∧
      ∀ proof, proveSparseMerkleInclusion gateNoble revokedValue tree (js "did:tsl:alice")
          (js "2026-05-25T00:00:00Z") none = .ok proof →
        verifyNonMembershipProof gateNoble (sampleHost gateNoble).env proof ≠ .ok true ∧
        ∀ tools input resolver policy backend result,
          isOn policy.require_non_membership_proof = true →
          (expandProofBundleInput (sampleHost gateNoble) input).1.non_membership_proofs =
            some [proof] →
          verifyTSL (sampleHost gateNoble) tools input resolver policy backend = .ok result →
          result.verified = false := by
  have hr : SparseMerkleTreeV1.root <$> buildSparseMerkleTree gateNoble [revokedValue]
      { sampleProfile with tree_id := [] } = .ok sampleRevocationRoot := by
    decide +kernel
  obtain ⟨tree, ht, -⟩ := map_eq_ok.mp hr
  exact ⟨tree, ht, (presence_never_absence_iff (H := sampleHost gateNoble) ht
    (List.mem_singleton.mpr rfl) _ _ _).mpr rfl⟩

/-- An event under a revoked key, verified with a proof about another key of its sender. -/
theorem verifyTSL_other_key :
    ∃ tree proof result,
      Set.InjOn (keyCommitment gateNoble) {revokedKey, otherKey} ∧
      (sampleEnvelope.sender, sampleEnvelope.signing_key_id) = revokedKey ∧
      buildSparseMerkleTree gateNoble [keyCommitment gateNoble revokedKey] sampleProfile =
        .ok tree ∧
      sampleCheckpoint.revocation_root = tree.root ∧
      proveSparseMerkleNonMembership gateNoble (keyCommitment gateNoble otherKey) tree
        sampleEnvelope.sender (js "2026-05-25T00:00:00Z") (some sampleCheckpointHash) =
          .ok proof ∧
      verifyTSL (sampleHost gateNoble) sampleTools (gateInput proof)
        sampleResolver.resolveTrustID gatePolicy none = .ok result ∧ result.verified = true := by
  have hrevoked : keyCommitment gateNoble revokedKey = revokedValue := by decide
  have hother : keyCommitment gateNoble otherKey = otherValue := by decide
  have hne : revokedValue ≠ otherValue := by decide
  obtain ⟨tree, proof, result, ht, hroot, hp, -, hr, hv⟩ := gateRun_ok gateRuns.2
  rw [hrevoked, hother]
  refine ⟨tree, proof, result, ?_, rfl, ht, hroot.symm, hp, hr, hv⟩
  rintro a (rfl | rfl) b (rfl | rfl) h
  · rfl
  · rw [hrevoked, hother] at h
    exact (hne h).elim
  · rw [hrevoked, hother] at h
    exact (hne h.symm).elim
  · rfl

theorem verifyTSL_absence_sample :
    ∃ proof hash, proof.subject = sampleEnvelope.sender ∧
      checkpointHashForPolicy (sampleHost gateNoble) sampleCheckpoint = .ok hash ∧
      proof.root_checkpoint = some hash ∧ proof.root = some sampleCheckpoint.revocation_root ∧
      proof.set_root = sampleCheckpoint.revocation_root ∧
      verifyNonMembershipProof gateNoble (sampleHost gateNoble).env proof = .ok true := by
  obtain ⟨tree, proof, result, -, -, -, -, hr, hv⟩ := gateRun_ok gateRuns.2
  obtain ⟨envelope, checkpoint, hash, proofs, he, hc, hh, hproofs, -, hall⟩ :=
    verifyTSL_absence rfl rfl hr hv
  obtain rfl : sampleEnvelope = envelope := Option.some.inj he
  obtain rfl : sampleCheckpoint = checkpoint := Option.some.inj hc
  obtain rfl : [proof] = proofs := Option.some.inj hproofs
  obtain ⟨hsubject, hrc, hroot, hset, ha, -⟩ := hall proof (by simp)
  exact ⟨proof, hash, hsubject, hh, hrc, hroot, hset, ha⟩

end Continuity
