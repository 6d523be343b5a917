import Mathlib.Tactic.Positivity
import Mathlib.Tactic.Zify
import Continuity.SparseDigest

namespace Continuity
open HashTree Collections
set_option autoImplicit true

/-- What a sparse proof must satisfy to be accepted. -/
structure Accepted (N : Noble) (proof : SetNonMembershipProofV1) (root : Hex32)
    (profile : SparseMerkleProfileV1) (path : List InclusionProofStep) (leaf_index : JsNumber)
    (index : Nat) : Prop where
  tree_id : proof.tree_id = some profile.tree_id
  tree_depth : numberIs proof.tree_depth profile.tree_depth = true
  root_eq : truthy proof.root = true → proof.root = some root
  set_root : proof.set_root = root
  leaf_index_eq : proof.leaf_index = some leaf_index
  path_eq : proof.sibling_path = some path
  length : (JsNumber.ofNat path.length).strictEq profile.tree_depth = true
  index_ok : sparseMerkleIndex proof.value_commitment profile.tree_depth = .ok index
  index_eq : leaf_index.strictEq (.ofNat index) = true
  index_commitment :
    ∃ c, indexCommitment N profile.tree_id leaf_index = .ok c ∧
      proof.leaf_index_commitment = some c
  empty_leaf : truthy proof.empty_leaf_commitment = true →
    proof.empty_leaf_commitment = some (zeroDigest N 0)
  leaf_value : proof.leaf_value_commitment =
    some (sha256Hex N (valueMessage proof.value_commitment))
  climb : (sparseScheme N).climb
    (if truthy proof.empty_leaf_commitment then zeroDigest N 0
      else sha256Hex N (valueMessage proof.value_commitment)) (sparseSteps path) = root
  closed : sparseProofHash N
    (if truthy proof.empty_leaf_commitment then nonMembershipLabel else inclusionLabel) root
    proof.value_commitment leaf_index profile.tree_depth path = .ok proof.proof

theorem zeroAt_zero (N : Noble) (depth : Nat) :
    zeroAt ((List.range' 0 (depth + 1)).map (zeroDigest N)) 0 = zeroDigest N 0 :=
  zeroesTo_range N depth 0 (Nat.zero_le _)

theorem unless_eq_true {c : Prop} [Decidable c] {rest : Js Bool} :
    (if c then return false else rest) = .ok true ↔ ¬c ∧ rest = .ok true := by
  by_cases hc : c
  · simp [hc, pure, Except.pure]
  · simp [hc]

theorem verifySparseMerkleProof_accepted
    (h : verifySparseMerkleProof N proof root profile = .ok true) :
    ∃ path leaf_index index, Accepted N proof root profile path leaf_index index := by
  unfold verifySparseMerkleProof at h
  obtain ⟨hid, h⟩ := unless_eq_true.mp h
  obtain ⟨hroot, h⟩ := unless_eq_true.mp h
  obtain ⟨hset, h⟩ := unless_eq_true.mp h
  cases hleaf : proof.leaf_index with
  | none =>
    rw [hleaf] at h
    cases h
  | some leaf_index =>
    cases hpath : proof.sibling_path with
    | none =>
      rw [hleaf, hpath] at h
      cases h
    | some path =>
      rw [hleaf, hpath] at h
      obtain ⟨hlen, h⟩ := unless_eq_true.mp h
      obtain ⟨index, hindex, h⟩ := bind_eq_ok.mp h
      obtain ⟨heq, h⟩ := unless_eq_true.mp h
      obtain ⟨c, hc, h⟩ := bind_eq_ok.mp h
      obtain ⟨hic, h⟩ := unless_eq_true.mp h
      obtain ⟨zeroes, hzeroes, h⟩ := bind_eq_ok.mp h
      cases (sparseMerkleZeroHashes_eq N path.length).symm.trans hzeroes
      obtain ⟨leaf, hdigest, h⟩ := bind_eq_ok.mp h
      cases (sparseMerkleLeaf_eq N proof.value_commitment).symm.trans hdigest
      rw [zeroAt_zero] at h
      obtain ⟨hempty, h⟩ := unless_eq_true.mp h
      obtain ⟨hvalue, h⟩ := unless_eq_true.mp h
      obtain ⟨current, hcurrent, h⟩ := bind_eq_ok.mp h
      cases (climbSparse_eq N _ path).symm.trans hcurrent
      obtain ⟨hclimb, h⟩ := unless_eq_true.mp h
      obtain ⟨e, he, h⟩ := bind_eq_ok.mp h
      obtain rfl : proof.proof = e := of_decide_eq_true (Except.ok.inj h)
      simp only [Bool.or_eq_true, Bool.not_eq_true', not_or, decide_eq_true_eq, ne_eq, not_not,
        Bool.not_eq_false, Bool.and_eq_true, not_and] at hid hroot hset hlen heq hic hempty
      simp only [ne_eq, not_not] at hvalue hclimb
      exact ⟨path, leaf_index, index, {
        tree_id := hid.1
        tree_depth := hid.2
        root_eq := hroot
        set_root := hset
        leaf_index_eq := hleaf
        path_eq := hpath
        length := hlen
        index_ok := hindex
        index_eq := heq
        index_commitment := ⟨c, hc, hic⟩
        empty_leaf := hempty
        leaf_value := hvalue
        climb := hclimb
        closed := he }⟩

theorem Accepted.verify (h : Accepted N proof root profile path leaf_index index) :
    verifySparseMerkleProof N proof root profile = .ok true := by
  obtain ⟨hid, hdepth, hroot, hset, hleaf, hpath, hlen, hindex, heq, ⟨c, hc, hic⟩, hempty, hvalue,
    hclimb, hclosed⟩ := h
  have hroot' : (truthy proof.root && decide (proof.root ≠ some root)) = false := by
    simpa using hroot
  have hempty' : (truthy proof.empty_leaf_commitment &&
      decide (proof.empty_leaf_commitment ≠ some (zeroDigest N 0))) = false := by
    simpa using hempty
  simp only [verifySparseMerkleProof, hid, hdepth, hroot', hset, hleaf, hpath, hlen, hindex, heq,
    hc, hic, sparseMerkleZeroHashes_eq, sparseMerkleLeaf_eq, zeroAt_zero, hempty', hvalue,
    climbSparse_eq, hclimb, hclosed, bind, Except.bind]
  simp
  rfl

theorem sparseDepth_ok : sparseDepth depth = .ok d ↔
    depth.toInt? = some (d : Int) ∧ 1 ≤ d ∧ d ≤ 30 := by
  simp only [sparseDepth]
  cases h : depth.toInt? with
  | none => simp [throw, throwThe, MonadExceptOf.throw]
  | some n =>
    by_cases hn : n < 1 ∨ 30 < n
    · simp only [hn, if_true, throw, throwThe, MonadExceptOf.throw, reduceCtorEq,
        Option.some.injEq, false_iff]
      omega
    · simp only [hn, if_false, pure, Except.pure, Except.ok.injEq, Option.some.injEq]
      omega

theorem sparseMerkleIndex_ok (h : sparseMerkleIndex value depth = .ok i) :
    ∃ d, sparseDepth depth = .ok d ∧ i < 2 ^ d := by
  simp only [sparseMerkleIndex, bind_eq_ok] at h
  obtain ⟨d, hd, n, -, he⟩ := h
  simp only [pure, Except.pure, Except.ok.injEq] at he
  refine ⟨d, hd, ?_⟩
  have hp : (0 : Int) < 2 ^ d := by positivity
  have hlt := Int.emod_lt_of_pos n hp
  have hge := Int.emod_nonneg n hp.ne'
  rw [← he]
  zify
  rw [Int.toNat_of_nonneg hge]
  exact hlt

/-- A number with a positive integer value is that integer. -/
theorem toInt?_pos {n : JsNumber} {d : Nat} (h : n.toInt? = some (d : Int)) (hd : 1 ≤ d) :
    n = .ofNat d := by
  cases n with
  | fin q =>
    simp only [JsNumber.toInt?] at h
    split_ifs at h with hq
    rw [Option.some.injEq] at h
    rw [JsNumber.ofNat, ← Rat.coe_int_num_of_den_eq_one hq, h]
    norm_cast
  | negZero =>
    simp only [JsNumber.toInt?, Option.some.injEq] at h
    omega
  | nan => cases h
  | posInf => cases h
  | negInf => cases h

/-- What is known of a tree that `buildSparseMerkleTree` returned. -/
structure Built (N : Noble) (values : List Hex32) (profile : SparseMerkleProfileV1)
    (tree : SparseMerkleTreeV1) (depth : Nat) : Prop where
  depth_eq : profile.tree_depth.toInt? = some (depth : Int)
  profile_eq : tree.profile = profile
  zeroes : ZeroesTo N tree.zero_hashes depth
  root_eq : tree.root = (complete (slotMessage tree.leaves) depth 0).digest (sparseScheme N)
  member : ∀ v ∈ values, ∃ i, sparseMerkleIndex v profile.tree_depth = .ok i ∧
    tree.leaves.get? i = some v
  stored : ∀ i v, tree.leaves.get? i = some v →
    v ∈ values ∧ sparseMerkleIndex v profile.tree_depth = .ok i

/-- A successful step stores the value and keeps every other entry. -/
theorem setLeaves_cons (h : setLeaves depth leaves (value :: rest) = .ok out) :
    ∃ i, sparseMerkleIndex value depth = .ok i ∧
      setLeaves depth (leaves.set i value) rest = .ok out ∧
      ∀ j v, leaves.get? j = some v → (leaves.set i value).get? j = some v := by
  simp only [setLeaves, bind_eq_ok] at h
  obtain ⟨i, hi, h⟩ := h
  split at h
  · cases h
  · rename_i hc
    refine ⟨i, hi, h, ?_⟩
    intro j v hj
    by_cases he : j = i
    · subst he
      have hv : some value = some v := by
        by_contra hn
        apply hc
        simp only [OrderedMap.has, hj, Option.isSome_some, Bool.true_and, decide_eq_true_eq]
        exact fun h => hn h.symm
      rw [OrderedMap.get?_set_self, hv]
    · rw [OrderedMap.get?_set_of_ne _ he, hj]

theorem setLeaves_keeps (h : setLeaves depth leaves values = .ok out)
    (hj : leaves.get? j = some v) : out.get? j = some v := by
  induction values generalizing leaves with
  | nil =>
    simp only [setLeaves, pure, Except.pure, Except.ok.injEq] at h
    rwa [← h]
  | cons value rest ih =>
    obtain ⟨i, -, hr, hk⟩ := setLeaves_cons h
    exact ih hr (hk j v hj)

theorem setLeaves_member (h : setLeaves depth leaves values = .ok out) :
    ∀ v ∈ values, ∃ i, sparseMerkleIndex v depth = .ok i ∧ out.get? i = some v := by
  induction values generalizing leaves with
  | nil => simp
  | cons value rest ih =>
    obtain ⟨i, hi, hr, -⟩ := setLeaves_cons h
    intro v hv
    rcases List.mem_cons.mp hv with rfl | hv
    · exact ⟨i, hi, setLeaves_keeps hr (OrderedMap.get?_set_self _ _ _)⟩
    · exact ih hr v hv

theorem setLeaves_stored (h : setLeaves depth leaves values = .ok out)
    (hj : out.get? j = some v) :
    leaves.get? j = some v ∨ v ∈ values ∧ sparseMerkleIndex v depth = .ok j := by
  induction values generalizing leaves with
  | nil =>
    simp only [setLeaves, pure, Except.pure, Except.ok.injEq] at h
    exact .inl (by rwa [h])
  | cons value rest ih =>
    obtain ⟨i, hi, hr, -⟩ := setLeaves_cons h
    rcases ih hr with hs | ⟨hv, hx⟩
    · rw [OrderedMap.get?_set] at hs
      split at hs
      · rename_i he
        rw [Option.some.injEq] at hs
        subst he hs
        exact .inr ⟨by simp, hi⟩
      · exact .inl hs
    · exact .inr ⟨by simp [hv], hx⟩

theorem buildSparseMerkleTree_built (h : buildSparseMerkleTree N values profile = .ok tree) :
    ∃ depth, Built N values profile tree depth := by
  simp only [buildSparseMerkleTree] at h
  cases hd : profile.tree_depth.toInt? with
  | none => simp [hd, throw, throwThe, MonadExceptOf.throw, bind, Except.bind] at h
  | some n =>
    cases n with
    | negSucc n => simp [hd, throw, throwThe, MonadExceptOf.throw, bind, Except.bind] at h
    | ofNat depth =>
      have hz := zeroesTo_range N depth
      simp only [hd, pure_bind, sparseMerkleZeroHashes_eq, bind_eq_ok, Except.ok.injEq,
        exists_eq_left', sparseMerkleRootFromLeaves_eq _ hz] at h
      obtain ⟨leaves, hl, h⟩ := h
      simp only [pure, Except.pure, Except.ok.injEq] at h
      subst h
      refine ⟨depth, hd, rfl, hz, rfl, ?_, ?_⟩
      · intro v hv
        exact setLeaves_member hl v (List.mem_insertionSort _ |>.mpr hv)
      · intro i v hi
        rcases setLeaves_stored hl hi with he | ⟨hv, hx⟩
        · simp at he
        · exact ⟨List.mem_insertionSort _ |>.mp hv, hx⟩

/-- A tree over a value has the depth of its profile, from 1 to 30. -/
theorem Built.depth_of_index (hb : Built N values profile tree depth)
    (hx : sparseMerkleIndex value profile.tree_depth = .ok index) :
    sparseDepth profile.tree_depth = .ok depth ∧ 1 ≤ depth ∧ depth ≤ 30 ∧ index < 2 ^ depth ∧
      profile.tree_depth = .ofNat depth := by
  obtain ⟨d, hd, hi⟩ := sparseMerkleIndex_ok hx
  obtain ⟨hdepth, hge, hle⟩ := sparseDepth_ok.mp hd
  have hdd : depth = d := by
    have h := hb.depth_eq
    rw [hdepth, Option.some.injEq] at h
    exact_mod_cast h.symm
  subst hdd
  exact ⟨hd, hge, hle, hi, toInt?_pos hdepth hge⟩

/-- A slot is occupied exactly by the values of the list that have it as their index. -/
theorem Built.occupied (h : Built N values profile tree depth) :
    (tree.leaves.get? i).isSome = true ↔
      ∃ v ∈ values, sparseMerkleIndex v profile.tree_depth = .ok i := by
  constructor
  · intro hs
    obtain ⟨v, hv⟩ := Option.isSome_iff_exists.mp hs
    exact ⟨v, h.stored i v hv⟩
  · rintro ⟨v, hv, hi⟩
    obtain ⟨j, hj, hg⟩ := h.member v hv
    rw [hi, Except.ok.injEq] at hj
    rw [hj, hg]
    rfl

end Continuity
