import Continuity.KeyOrder
import Continuity.SparseBuild

namespace Continuity
open Collections HashTree
set_option autoImplicit true

section Digits

/-- The number that bytes spell, most significant first. -/
def bigEndianValue (bytes : Bytes) : Nat := bytes.foldl (fun n b => n * 256 + b.toNat) 0

theorem digitValue_hexChar : ∀ n : Fin 256,
    digitValue (hexChar (UInt8.ofFin n / 16)) = some ((UInt8.ofFin n).toNat / 16) ∧
    digitValue (hexChar (UInt8.ofFin n % 16)) = some ((UInt8.ofFin n).toNat % 16) ∧
    isWhiteSpace (hexChar (UInt8.ofFin n / 16)) = false ∧
    isWhiteSpace (hexChar (UInt8.ofFin n % 16)) = false := by
  decide +kernel

theorem digitsValue_hexDigits (acc : Nat) (bytes : Bytes) :
    digitsValue 16 acc (bytes.flatMap hexDigits) =
      some (bytes.foldl (fun n b => n * 256 + b.toNat) acc) := by
  induction bytes generalizing acc with
  | nil => rfl
  | cons b rest ih =>
    obtain ⟨hhigh, hlow, -⟩ := digitValue_hexChar b.toFin
    simp only [UInt8.ofFin_toFin] at hhigh hlow
    have hb := b.toNat_lt
    have hsplit : (acc * 16 + b.toNat / 16) * 16 + b.toNat % 16 = acc * 256 + b.toNat := by
      omega
    simp only [List.flatMap_cons, hexDigits, List.cons_append, List.nil_append, digitsValue, hhigh,
      hlow, show b.toNat / 16 < 16 by omega, Nat.mod_lt _ (show 0 < 16 by decide), if_true, hsplit,
      ih, List.foldl_cons]

theorem hexDigits_not_space (bytes : Bytes) :
    ∀ u ∈ bytes.flatMap hexDigits, isWhiteSpace u = false := by
  intro u hu
  obtain ⟨b, -, hb⟩ := List.mem_flatMap.mp hu
  obtain ⟨-, -, hhigh, hlow⟩ := digitValue_hexChar b.toFin
  simp only [UInt8.ofFin_toFin] at hhigh hlow
  rcases List.mem_pair.mp hb with rfl | rfl
  · exact hhigh
  · exact hlow

theorem trim_of_not_space {s : JsString} (h : ∀ u ∈ s, isWhiteSpace u = false) : trim s = s := by
  have hdrop : ∀ {t : JsString}, (∀ u ∈ t, isWhiteSpace u = false) →
      t.dropWhile isWhiteSpace = t := by
    intro t ht
    cases t with
    | nil => rfl
    | cons u t => rw [List.dropWhile_cons_of_neg (by simp [ht u List.mem_cons_self])]
  rw [trim, hdrop h, hdrop (by simpa using h), List.reverse_reverse]

/-- The hex text of bytes is read as the number they spell. -/
theorem bigIntOfString_bytesToHex {bytes : Bytes} (h : bytes ≠ []) :
    bigIntOfString (bytesToHex bytes) = .ok (bigEndianValue bytes : Int) := by
  have hspace : ∀ u ∈ bytesToHex bytes, isWhiteSpace u = false := by
    intro u hu
    rcases List.mem_cons.mp hu with rfl | hu
    · decide
    rcases List.mem_cons.mp hu with rfl | hu
    · decide
    exact hexDigits_not_space bytes u hu
  have hempty : (bytes.flatMap hexDigits).isEmpty = false := by
    rw [List.isEmpty_eq_false_iff, ← List.length_pos_iff, hexDigits_length]
    have := List.length_pos_iff.mpr h
    omega
  rw [bigIntOfString, trim_of_not_space hspace, bytesToHex]
  simp only [stringToBigInt?, parseDigits, hempty, digitsValue_hexDigits, Bool.false_eq_true,
    if_false]
  rfl

/-- The low bits of a value. -/
def lowBits (depth : Nat) (bytes : Bytes) : Nat := bigEndianValue bytes % 2 ^ depth

theorem sparseMerkleIndex_bytesToHex {bytes : Bytes} (h : bytes ≠ [])
    (hd : sparseDepth tree_depth = .ok depth) :
    sparseMerkleIndex (bytesToHex bytes) tree_depth = .ok (lowBits depth bytes) := by
  rw [sparseMerkleIndex, hd, bigIntOfString_bytesToHex h]
  have hcast : ((bigEndianValue bytes : Int) % 2 ^ depth).toNat = lowBits depth bytes := by
    rw [lowBits]
    norm_cast
  exact congrArg Except.ok hcast

end Digits

section Collisions

theorem setLeaves_fails {index : Hex32 → Nat}
    (hx : ∀ v ∈ values, sparseMerkleIndex v depth = .ok (index v))
    (h : setLeaves depth leaves values = .error e) :
    e = "TSL_SPARSE_MERKLE_INDEX_COLLISION" := by
  induction values generalizing leaves with
  | nil => cases h
  | cons value rest ih =>
    simp only [setLeaves, hx value List.mem_cons_self, bind, Except.bind] at h
    split at h
    · cases h
      rfl
    · exact ih (fun v hv => hx v (List.mem_cons_of_mem value hv)) h

/-- Values with slots of their own are all stored. -/
theorem setLeaves_total {index : Hex32 → Nat}
    (hx : ∀ v ∈ values, sparseMerkleIndex v depth = .ok (index v))
    (hfree : ∀ v ∈ values, ∀ w, leaves.get? (index v) = some w → w = v)
    (hapart : ∀ v ∈ values, ∀ w ∈ values, index v = index w → v = w) :
    ∃ out, setLeaves depth leaves values = .ok out := by
  induction values generalizing leaves with
  | nil => exact ⟨leaves, rfl⟩
  | cons value rest ih =>
    have hno : ¬(leaves.has (index value) && decide (leaves.get? (index value) ≠ some value)) =
        true := by
      cases hg : leaves.get? (index value) with
      | none => simp [OrderedMap.has, hg]
      | some w => simp [hfree value List.mem_cons_self w hg]
    simp only [setLeaves, hx value List.mem_cons_self, bind, Except.bind]
    rw [if_neg hno]
    refine ih (fun v hv => hx v (List.mem_cons_of_mem value hv)) ?_
      (fun v hv w hw => hapart v (List.mem_cons_of_mem value hv) w (List.mem_cons_of_mem value hw))
    intro v hv w hg
    rw [OrderedMap.get?_set] at hg
    split at hg
    next he =>
      cases hg
      exact hapart value List.mem_cons_self v (List.mem_cons_of_mem value hv) he.symm
    next => exact hfree v (List.mem_cons_of_mem value hv) w hg

end Collisions

/-- The leaves of a complete tree from left to right. -/
theorem complete_leaves_eq (f : Nat → M) (k i : Nat) :
    (complete f k i).leaves = (List.range (2 ^ k)).map fun j => f (i * 2 ^ k + j) := by
  induction k generalizing i with
  | zero => simp [complete, MessageTree.leaves]
  | succ k ih =>
    have hpow : 2 ^ (k + 1) = 2 ^ k + 2 ^ k := by ring
    rw [complete, MessageTree.leaves, ih, ih, hpow, List.range_add, List.map_append, List.map_map]
    congr 1
    · refine List.map_congr_left fun j _ => congrArg f ?_
      ring
    · refine List.map_congr_left fun j _ => congrArg f ?_
      ring

section Dense

/-- The leaf at a slot of the full tree over the values. -/
def denseLeaf (depth : Nat) (values : List Bytes) (slot : Nat) : Bytes :=
  match values.find? fun bytes => lowBits depth bytes == slot with
  | some bytes => valueMessage (bytesToHex bytes)
  | none => zeroMessage

variable {N : Noble} {depth : Nat} {profile : SparseMerkleProfileV1} {values : List Bytes}

/-- Two values that share a slot. -/
def Collides (depth : Nat) (values : List Bytes) : Prop :=
  ∃ a ∈ values, ∃ b ∈ values, a ≠ b ∧ lowBits depth a = lowBits depth b

theorem Collides.congr {others : List Bytes} (h : ∀ bytes, bytes ∈ others ↔ bytes ∈ values) :
    Collides depth others ↔ Collides depth values := by
  simp only [Collides, h]

/-- The tree is that of the leaves that the values set, and fails when they do. -/
theorem buildSparseMerkleTree_eq (N : Noble) (values : List Hex32)
    (hd : profile.tree_depth = .ofNat depth) :
    ∃ make, buildSparseMerkleTree N values profile =
      make <$> setLeaves profile.tree_depth .empty (sortStrings values) := by
  have hint : profile.tree_depth.toInt? = some (.ofNat depth) := by
    rw [hd]
    rfl
  have hz := zeroesTo_range N depth
  simp only [buildSparseMerkleTree, hint, sparseMerkleZeroHashes_eq, pure_bind]
  refine ⟨fun leaves => ⟨profile, (complete (slotMessage leaves) depth 0).digest (sparseScheme N),
    leaves, (List.range' 0 (depth + 1)).map (zeroDigest N)⟩, ?_⟩
  cases setLeaves profile.tree_depth .empty (sortStrings values) with
  | error e => rfl
  | ok leaves =>
    have hroot := sparseMerkleRootFromLeaves_eq leaves hz
    simp only [bind, Except.bind, hroot]
    rfl

theorem sparseDepth_ofNat (hlow : 1 ≤ depth) (hhigh : depth ≤ 30) :
    sparseDepth (.ofNat depth) = .ok depth :=
  sparseDepth_ok.mpr ⟨rfl, hlow, hhigh⟩

/-- The slots of a built tree are those of the values. -/
theorem Built.slotMessage_eq {tree : SparseMerkleTreeV1}
    (hb : Built N (values.map bytesToHex) profile tree depth)
    (hx : ∀ bytes ∈ values, sparseMerkleIndex (bytesToHex bytes) profile.tree_depth =
      .ok (lowBits depth bytes)) :
    slotMessage tree.leaves = denseLeaf depth values := by
  funext slot
  cases hf : values.find? fun bytes => lowBits depth bytes == slot with
  | some bytes =>
    have hslot : lowBits depth bytes = slot := by simpa using List.find?_some hf
    have hmem := List.mem_of_find?_eq_some hf
    obtain ⟨j, hj, hg⟩ := hb.member _ (List.mem_map_of_mem hmem)
    rw [hx bytes hmem, hslot, Except.ok.injEq] at hj
    rw [← hj] at hg
    simp only [slotMessage, denseLeaf, hf, hg]
  | none =>
    have hnone : tree.leaves.get? slot = none := by
      by_contra hsome
      obtain ⟨v, hv⟩ := Option.ne_none_iff_exists'.mp hsome
      obtain ⟨hmem, hindex⟩ := hb.stored slot v hv
      obtain ⟨bytes, hbytes, rfl⟩ := List.mem_map.mp hmem
      rw [hx bytes hbytes, Except.ok.injEq] at hindex
      have hmiss := List.find?_eq_none.mp hf bytes hbytes
      exact hmiss (by simpa using hindex)
    simp only [slotMessage, denseLeaf, hf, hnone]

theorem denseLeaf_congr {others : List Bytes} (hfree : ¬Collides depth values)
    (h : ∀ bytes, bytes ∈ others ↔ bytes ∈ values) :
    denseLeaf depth others = denseLeaf depth values := by
  funext slot
  have hmatch : others.find? (fun bytes => lowBits depth bytes == slot) =
      values.find? fun bytes => lowBits depth bytes == slot := by
    cases ho : others.find? fun bytes => lowBits depth bytes == slot with
    | some a =>
      have ha := (h a).mp (List.mem_of_find?_eq_some ho)
      have haslot := List.find?_some ho
      cases hv : values.find? fun bytes => lowBits depth bytes == slot with
      | none => exact absurd haslot (List.find?_eq_none.mp hv a ha)
      | some b =>
        have hb := List.mem_of_find?_eq_some hv
        have hbslot := List.find?_some hv
        rw [beq_iff_eq] at haslot hbslot
        by_contra hne
        exact hfree ⟨a, ha, b, hb, fun he => hne (congrArg some he), haslot.trans hbslot.symm⟩
    | none =>
      refine (List.find?_eq_none.mpr fun bytes hbytes => ?_).symm
      exact List.find?_eq_none.mp ho bytes ((h bytes).mpr hbytes)
  rw [denseLeaf, denseLeaf, hmatch]

section Build

variable (N : Noble) (hd : profile.tree_depth = .ofNat depth) (hlow : 1 ≤ depth)
  (hhigh : depth ≤ 30) (h32 : ∀ bytes ∈ values, bytes.length = 32)
include hd hlow hhigh h32

theorem sparseMerkleIndex_values : ∀ bytes ∈ values,
    sparseMerkleIndex (bytesToHex bytes) profile.tree_depth = .ok (lowBits depth bytes) := by
  intro bytes hbytes
  have hne : bytes ≠ [] := by
    rintro rfl
    exact absurd (h32 [] hbytes) (by decide)
  rw [hd]
  exact sparseMerkleIndex_bytesToHex hne (sparseDepth_ofNat hlow hhigh)

theorem sparseMerkleIndex_sorted : ∀ v ∈ sortStrings (values.map bytesToHex),
    sparseMerkleIndex v profile.tree_depth = .ok (lowBits depth (hexBytes v)) := by
  intro v hv
  obtain ⟨bytes, hbytes, rfl⟩ := List.mem_map.mp (mem_sortStrings.mp hv)
  rw [hexBytes_ok (hexToBytes_bytesToHex bytes)]
  exact sparseMerkleIndex_values hd hlow hhigh h32 bytes hbytes

theorem buildSparseMerkleTree_collides (hc : Collides depth values) :
    buildSparseMerkleTree N (values.map bytesToHex) profile =
      .error "TSL_SPARSE_MERKLE_INDEX_COLLISION" := by
  obtain ⟨make, hmake⟩ := buildSparseMerkleTree_eq N (values.map bytesToHex) hd
  have hx := sparseMerkleIndex_values hd hlow hhigh h32
  cases hs : setLeaves profile.tree_depth .empty (sortStrings (values.map bytesToHex)) with
  | error e =>
    rw [hmake, hs, setLeaves_fails (sparseMerkleIndex_sorted hd hlow hhigh h32) hs]
    rfl
  | ok leaves =>
    obtain ⟨a, ha, b, hb, hne, hslot⟩ := hc
    have hstored (bytes : Bytes) (hbytes : bytes ∈ values) :
        leaves.get? (lowBits depth bytes) = some (bytesToHex bytes) := by
      obtain ⟨i, hi, hg⟩ := setLeaves_member hs _
        (mem_sortStrings.mpr (List.mem_map_of_mem hbytes))
      rw [hx bytes hbytes, Except.ok.injEq] at hi
      rwa [hi]
    have hsame := (hstored a ha).symm.trans (hslot ▸ hstored b hb)
    exact absurd (bytesToHex_injective (Option.some.inj hsame)) hne

theorem buildSparseMerkleTree_full (hfree : ¬Collides depth values) :
    ∃ tree, buildSparseMerkleTree N (values.map bytesToHex) profile = .ok tree ∧
      tree.root = (complete (denseLeaf depth values) depth 0).digest (sparseScheme N) := by
  obtain ⟨make, hmake⟩ := buildSparseMerkleTree_eq N (values.map bytesToHex) hd
  obtain ⟨leaves, hleaves⟩ : ∃ leaves,
      setLeaves profile.tree_depth .empty (sortStrings (values.map bytesToHex)) = .ok leaves := by
    apply setLeaves_total (sparseMerkleIndex_sorted hd hlow hhigh h32)
    · intro v _ w hw
      simp at hw
    · intro v hv w hw hslot
      obtain ⟨a, ha, rfl⟩ := List.mem_map.mp (mem_sortStrings.mp hv)
      obtain ⟨b, hb, rfl⟩ := List.mem_map.mp (mem_sortStrings.mp hw)
      rw [hexBytes_ok (hexToBytes_bytesToHex a), hexBytes_ok (hexToBytes_bytesToHex b)] at hslot
      by_contra hne
      exact hfree ⟨a, ha, b, hb, fun he => hne (congrArg bytesToHex he), hslot⟩
  have hbuilt : buildSparseMerkleTree N (values.map bytesToHex) profile = .ok (make leaves) := by
    rw [hmake, hleaves]
    rfl
  obtain ⟨d, hb⟩ := buildSparseMerkleTree_built hbuilt
  have hdepth : d = depth := by
    have h := hb.depth_eq
    rw [hd] at h
    simpa [JsNumber.ofNat, JsNumber.toInt?] using h.symm
  subst hdepth
  refine ⟨_, hbuilt, ?_⟩
  rw [hb.root_eq, hb.slotMessage_eq (sparseMerkleIndex_values hd hlow hhigh h32)]

end Build

/-- The construction that keeps only non-zero nodes fails exactly on a shared slot, and its root is
that of the full tree; so it depends on the set of values alone. -/
theorem buildSparseMerkleTree_dense (N : Noble) (profile : SparseMerkleProfileV1)
    (hd : profile.tree_depth = .ofNat depth) (hlow : 1 ≤ depth) (hhigh : depth ≤ 30)
    (values : List Bytes) (h32 : ∀ bytes ∈ values, bytes.length = 32) :
    let build (values : List Bytes) :=
      buildSparseMerkleTree N (values.map bytesToHex) profile
    let full := complete (denseLeaf depth values) depth 0
    (build values = .error "TSL_SPARSE_MERKLE_INDEX_COLLISION" ↔ Collides depth values) ∧
      (¬Collides depth values → ∃ tree, build values = .ok tree ∧
        tree.root = full.digest (sparseScheme N)) ∧
      full.leaves = (List.range (2 ^ depth)).map (denseLeaf depth values) ∧
      ∀ others, (∀ bytes, bytes ∈ others ↔ bytes ∈ values) →
        (build others).map SparseMerkleTreeV1.root = (build values).map SparseMerkleTreeV1.root := by
  intro build full
  refine ⟨⟨fun herror => ?_, buildSparseMerkleTree_collides N hd hlow hhigh h32⟩,
    buildSparseMerkleTree_full N hd hlow hhigh h32, ?_, fun others hsame => ?_⟩
  · by_contra hfree
    obtain ⟨tree, htree, -⟩ := buildSparseMerkleTree_full N hd hlow hhigh h32 hfree
    cases herror.symm.trans htree
  · simpa using complete_leaves_eq (denseLeaf depth values) depth 0
  · have h32' : ∀ bytes ∈ others, bytes.length = 32 := fun bytes h => h32 bytes ((hsame bytes).mp h)
    by_cases hc : Collides depth values
    · have hleft := buildSparseMerkleTree_collides N hd hlow hhigh h32' ((Collides.congr hsame).mpr hc)
      have hright := buildSparseMerkleTree_collides N hd hlow hhigh h32 hc
      exact congrArg (Except.map SparseMerkleTreeV1.root) (hleft.trans hright.symm)
    · have hc' : ¬Collides depth others := fun h => hc ((Collides.congr hsame).mp h)
      obtain ⟨left, hleft, hroot⟩ := buildSparseMerkleTree_full N hd hlow hhigh h32' hc'
      obtain ⟨right, hright, hroot'⟩ := buildSparseMerkleTree_full N hd hlow hhigh h32 hc
      rw [denseLeaf_congr hc hsame] at hroot
      have hroots : left.root = right.root := hroot.trans hroot'.symm
      calc (build others).map SparseMerkleTreeV1.root
          = .ok left.root := congrArg (Except.map SparseMerkleTreeV1.root) hleft
        _ = .ok right.root := congrArg Except.ok hroots
        _ = (build values).map SparseMerkleTreeV1.root :=
          (congrArg (Except.map SparseMerkleTreeV1.root) hright).symm

/-- A tree over one even and one odd value. -/
theorem buildSparseMerkleTree_dense_sample :
    let N := recorded [] [] longDigest
    let profile : SparseMerkleProfileV1 := ⟨js "revocations", .ofNat 1⟩
    let values := [bigEndian 32 5, bigEndian 32 4]
    ∃ tree, buildSparseMerkleTree N (values.map bytesToHex) profile = .ok tree ∧
      tree.root = (complete (denseLeaf 1 values) 1 0).digest (sparseScheme N) ∧
      (buildSparseMerkleTree N (values.reverse.map bytesToHex) profile).map
        SparseMerkleTreeV1.root = .ok tree.root := by
  intro N profile values
  have h32 : ∀ bytes ∈ values, bytes.length = 32 := by decide
  have hfree : ¬Collides 1 values := by
    rintro ⟨a, ha, b, hb, hne, hslot⟩
    revert a b
    decide
  obtain ⟨-, hfull, -, hsame⟩ := buildSparseMerkleTree_dense N profile rfl (by decide) (by decide)
    values h32
  obtain ⟨tree, htree, hroot⟩ := hfull hfree
  refine ⟨tree, htree, hroot, ?_⟩
  rw [hsame values.reverse fun bytes => List.mem_reverse]
  exact congrArg (Except.map SparseMerkleTreeV1.root) htree

end Dense

end Continuity
