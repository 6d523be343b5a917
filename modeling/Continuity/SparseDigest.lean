import Mathlib.Data.List.Dedup
import Continuity.HashTree
import Continuity.NonMembership

namespace Continuity
open HashTree Collections
set_option autoImplicit true

/-- The canonical bytes of a value that has them. -/
def valueBytes (value : JsValue) : Bytes :=
  match canonicalBytes value with
  | .ok bytes => bytes
  | .error _ => []

def labelled (label : JsString) (value : JsValue) : JsValue :=
  .obj [(js "label", .str label), (js "value", value)]

def sparseMessage (label : JsString) (value : JsValue) : Bytes :=
  domainMessage DOMAIN_TAGS.NON_MEMBERSHIP_PROOF_V1 (valueBytes (labelled label value))

def nodeValue (left right : Hex32) : JsValue :=
  .obj [(js "left", .str left), (js "right", .str right)]

def sparseScheme (N : Noble) : Scheme Bytes Hex32 where
  hash := sha256Hex N
  pair left right := sparseMessage (js "node") (nodeValue left right)

def valueMessage (value : Hex32) : Bytes := sparseMessage (js "leaf") (.str value)

def zeroMessage : Bytes := sparseMessage (js "zero-leaf") (.num (.ofNat 0))

/-- The digest of the subtree of a given height without any value. -/
def zeroDigest (N : Noble) : Nat → Hex32
  | 0 => sha256Hex N zeroMessage
  | k + 1 => (sparseScheme N).join (zeroDigest N k) (zeroDigest N k)

/-- The message at a slot of the complete tree that a sparse map stands for. -/
def slotMessage (leaves : OrderedMap Nat Hex32) (i : Nat) : Bytes :=
  match leaves.get? i with
  | some value => valueMessage value
  | none => zeroMessage

theorem domainHash_eq (N : Noble) (h : Encodable value) :
    domainHash N value =
      .ok (sha256Hex N (domainMessage DOMAIN_TAGS.NON_MEMBERSHIP_PROOF_V1 (valueBytes value))) := by
  obtain ⟨bytes, hb⟩ := canonicalBytes_total h
  simp only [domainHash, valueBytes, hb]
  rfl

theorem sparseHash_eq (N : Noble) (label : JsString) (h : Encodable value) :
    sparseHash N label value = .ok (sha256Hex N (sparseMessage label value)) :=
  domainHash_eq N ⟨True.intro, h, True.intro⟩

@[simp] theorem sparseMerkleNode_eq (N : Noble) (left right : Hex32) :
    sparseMerkleNode N left right = .ok ((sparseScheme N).join left right) :=
  sparseHash_eq N _ ⟨True.intro, True.intro, True.intro⟩

@[simp] theorem sparseMerkleLeaf_eq (N : Noble) (value : Hex32) :
    sparseMerkleLeaf N value = .ok (sha256Hex N (valueMessage value)) :=
  sparseHash_eq N _ True.intro

theorem zeroHashesFrom_eq (N : Noble) (n level : Nat) :
    zeroHashesFrom N n (zeroDigest N level) =
      .ok ((List.range' (level + 1) n).map (zeroDigest N)) := by
  induction n generalizing level with
  | zero => rfl
  | succ n ih =>
    have hz : (sparseScheme N).join (zeroDigest N level) (zeroDigest N level) =
        zeroDigest N (level + 1) := rfl
    simp only [zeroHashesFrom, sparseMerkleNode_eq, hz, List.range'_succ, List.map_cons]
    simp only [bind, Except.bind, ih]
    rfl

/-- The zero hashes of every level up to the depth. -/
theorem sparseMerkleZeroHashes_eq (N : Noble) (depth : Nat) :
    sparseMerkleZeroHashes N depth = .ok ((List.range' 0 (depth + 1)).map (zeroDigest N)) := by
  have hleaf : sparseHash N (js "zero-leaf") (.num (.ofNat 0)) = .ok (zeroDigest N 0) :=
    sparseHash_eq N _ ⟨by decide, by decide⟩
  simp only [sparseMerkleZeroHashes, hleaf, List.range'_succ, List.map_cons]
  simp only [bind, Except.bind, zeroHashesFrom_eq]
  rfl

/-- A list of zero hashes that reaches up to a level. -/
def ZeroesTo (N : Noble) (zeroes : List Hex32) (depth : Nat) : Prop :=
  ∀ level, level ≤ depth → zeroAt zeroes level = zeroDigest N level

theorem zeroesTo_range (N : Noble) (depth : Nat) :
    ZeroesTo N ((List.range' 0 (depth + 1)).map (zeroDigest N)) depth := by
  intro level h
  have hlt : level < depth + 1 := by omega
  simp [zeroAt, hlt]

/-- A level of the sparse map: a missing entry stands for the zero digest of the level. -/
def Level (N : Noble) (f : Nat → Bytes) (level : Nat) (current : OrderedMap Nat Hex32) : Prop :=
  ∀ i, (current.get? i).getD (zeroDigest N level) = (complete f level i).digest (sparseScheme N)

theorem foldlM_ok {f : β → α → Js β} {g : β → α → β} (h : ∀ b a, f b a = .ok (g b a))
    (items : List α) (b : β) : items.foldlM f b = .ok (items.foldl g b) := by
  induction items generalizing b with
  | nil => rfl
  | cons a items ih =>
    simp only [List.foldlM_cons, List.foldl_cons, h]
    exact ih _

/-- What one parent contributes, given the digests of the next level. -/
def addParent (zero : Hex32) (node : Nat → Hex32) (next : OrderedMap Nat Hex32) (parent : Nat) :
    OrderedMap Nat Hex32 :=
  if node parent ≠ zero then next.set parent (node parent) else next

theorem addParent_get? (zero : Hex32) (node : Nat → Hex32) (parents : List Nat)
    (next : OrderedMap Nat Hex32) (i : Nat) :
    (parents.foldl (addParent zero node) next).get? i =
      if i ∈ parents ∧ node i ≠ zero then some (node i) else next.get? i := by
  induction parents generalizing next with
  | nil => simp
  | cons p parents ih =>
    rw [List.foldl_cons, ih]
    by_cases hp : i = p
    · subst hp
      by_cases hz : node i = zero
      · simp [addParent, hz]
      · simp [addParent, hz]
    · by_cases hz : node p = zero
      · simp [addParent, hz, hp]
      · simp [addParent, hz, hp, OrderedMap.get?_set_of_ne]

theorem mem_sparseParents {current : OrderedMap Nat Hex32} {i : Nat}
    (h : (current.get? (i * 2)).isSome = true ∨ (current.get? (i * 2 + 1)).isSome = true) :
    i ∈ sparseParents current := by
  simp only [sparseParents, List.mem_insertionSort, List.mem_dedup, List.mem_map]
  rcases h with h | h
  · exact ⟨i * 2, OrderedMap.mem_keys.mpr h, by omega⟩
  · exact ⟨i * 2 + 1, OrderedMap.mem_keys.mpr h, by omega⟩

/-- Where both children are missing, the parent is a zero subtree. -/
theorem Level.zero_parent {current : OrderedMap Nat Hex32} (h : Level N f level current)
    (hi : i ∉ sparseParents current) :
    (complete f (level + 1) i).digest (sparseScheme N) = zeroDigest N (level + 1) := by
  have hl : current.get? (i * 2) = none := by
    by_contra hn
    exact hi (mem_sparseParents (.inl (Option.isSome_iff_ne_none.mpr hn)))
  have hr : current.get? (i * 2 + 1) = none := by
    by_contra hn
    exact hi (mem_sparseParents (.inr (Option.isSome_iff_ne_none.mpr hn)))
  have hzl := h (i * 2)
  have hzr := h (i * 2 + 1)
  rw [hl, Option.getD_none] at hzl
  rw [hr, Option.getD_none] at hzr
  rw [complete, MessageTree.digest, Nat.mul_comm 2 i, ← hzl, ← hzr, zeroDigest]

theorem sparseNextLevel_level (hz : ZeroesTo N zeroes depth) (hl : level < depth)
    (h : Level N f level current) :
    ∃ next, sparseNextLevel N zeroes level current = .ok next ∧ Level N f (level + 1) next := by
  have hstep : ∀ next parent, setParent N zeroes level current next parent =
      .ok (addParent (zeroDigest N (level + 1))
        (fun i => (complete f (level + 1) i).digest (sparseScheme N)) next parent) := by
    intro next parent
    simp only [setParent, hz level (by omega), hz (level + 1) (by omega), h (parent * 2),
      h (parent * 2 + 1), sparseMerkleNode_eq]
    simp only [addParent, complete, MessageTree.digest, Nat.mul_comm 2 parent]
    rfl
  refine ⟨_, foldlM_ok hstep _ _, ?_⟩
  intro i
  rw [addParent_get?]
  by_cases hi : i ∈ sparseParents current
  · by_cases hn : (complete f (level + 1) i).digest (sparseScheme N) = zeroDigest N (level + 1)
    · simp [hn]
    · simp [hi, hn]
  · simp [hi, h.zero_parent hi]

theorem leafEntries_eq (N : Noble) (entries : List (Nat × Hex32)) :
    leafEntries N entries =
      .ok (entries.map fun entry => (entry.1, sha256Hex N (valueMessage entry.2))) := by
  induction entries with
  | nil => rfl
  | cons entry entries ih =>
    obtain ⟨i, value⟩ := entry
    simp only [leafEntries, sparseMerkleLeaf_eq, List.map_cons, bind, Except.bind, ih]
    rfl

theorem leafLevel_level (N : Noble) (leaves : OrderedMap Nat Hex32) :
    ∃ current, leafLevel N leaves = .ok current ∧ Level N (slotMessage leaves) 0 current := by
  refine ⟨leaves.mapValues fun value => sha256Hex N (valueMessage value), ?_, ?_⟩
  · rw [← OrderedMap.ofEntries_mapValues]
    simp only [leafLevel, leafEntries_eq]
    rfl
  · intro i
    rw [OrderedMap.get?_mapValues]
    cases h : leaves.get? i with
    | none => simp only [complete, MessageTree.digest, slotMessage, h]; rfl
    | some value => simp only [complete, MessageTree.digest, slotMessage, h]; rfl

theorem sparseRootLoop_level (hz : ZeroesTo N zeroes depth) (hl : level + n ≤ depth)
    (h : Level N f level current) :
    ∃ top, sparseRootLoop N zeroes n level current = .ok top ∧ Level N f (level + n) top := by
  induction n generalizing level current with
  | zero => exact ⟨current, rfl, h⟩
  | succ n ih =>
    obtain ⟨next, hn, hlevel⟩ := sparseNextLevel_level hz (by omega) h
    obtain ⟨top, ht, htop⟩ := ih (by omega) hlevel
    refine ⟨top, ?_, ?_⟩
    · simp only [sparseRootLoop, hn]
      exact ht
    · rwa [show level + (n + 1) = level + 1 + n by omega]

/-- The root is the digest of the complete tree over all slots. -/
theorem sparseMerkleRootFromLeaves_eq (leaves : OrderedMap Nat Hex32)
    (hz : ZeroesTo N zeroes depth) :
    sparseMerkleRootFromLeaves N leaves depth zeroes =
      .ok ((complete (slotMessage leaves) depth 0).digest (sparseScheme N)) := by
  obtain ⟨current, hc, hlevel⟩ := leafLevel_level N leaves
  obtain ⟨top, ht, htop⟩ := sparseRootLoop_level hz (show 0 + depth ≤ depth by omega) hlevel
  have hr := htop 0
  rw [Nat.zero_add] at hr
  simp only [sparseMerkleRootFromLeaves, hc, bind, Except.bind, ht, hz depth (Nat.le_refl _), hr]
  rfl

def proofStep (step : Side × Hex32) : InclusionProofStep where
  side := match step.1 with
    | .left => .left
    | .right => .right
  hash := step.2

theorem sparsePathLoop_eq (hz : ZeroesTo N zeroes depth) (hl : level + n ≤ depth)
    (h : Level N f level current) (cursor : Nat) :
    sparsePathLoop N zeroes n level cursor current =
      .ok ((completePath (sparseScheme N) f n level cursor).map proofStep) := by
  induction n generalizing level current cursor with
  | zero => rfl
  | succ n ih =>
    obtain ⟨next, hn, hlevel⟩ := sparseNextLevel_level hz (by omega) h
    have hrest := ih (by omega) hlevel (cursor / 2)
    have hzl := hz level (by omega)
    simp only [sparsePathLoop, hzl, hn, bind, Except.bind, hrest]
    rcases Nat.mod_two_eq_zero_or_one cursor with hc | hc
    · simp only [hc, if_true, completePath, List.map_cons, proofStep, h (cursor + 1)]
      rfl
    · simp only [hc, one_ne_zero, if_false, completePath, List.map_cons, proofStep,
        h (cursor - 1)]
      rfl

/-- The path of a slot consists of its own siblings in the complete tree. -/
theorem sparseMerklePath_eq (leaves : OrderedMap Nat Hex32) (hz : ZeroesTo N zeroes depth)
    (index : Nat) :
    sparseMerklePath N leaves index depth zeroes =
      .ok ((completePath (sparseScheme N) (slotMessage leaves) depth 0 index).map proofStep) := by
  obtain ⟨current, hc, hlevel⟩ := leafLevel_level N leaves
  simp only [sparseMerklePath, hc]
  exact sparsePathLoop_eq hz (by omega) hlevel index

/-- The sides and siblings that the verifier reads off a path. -/
def sparseSteps (path : List InclusionProofStep) : List (Side × Hex32) :=
  path.map fun step => (if step.side = .left then .left else .right, step.hash)

theorem sparseSteps_proofStep (path : List (Side × Hex32)) :
    sparseSteps (path.map proofStep) = path := by
  induction path with
  | nil => rfl
  | cons step path ih =>
    obtain ⟨side, hash⟩ := step
    cases side with
    | left => simpa [sparseSteps, proofStep] using ih
    | right => simpa [sparseSteps, proofStep] using ih

theorem climbSparse_eq (N : Noble) (current : Hex32) (path : List InclusionProofStep) :
    climbSparse N current path = .ok ((sparseScheme N).climb current (sparseSteps path)) := by
  induction path generalizing current with
  | nil => rfl
  | cons step path ih =>
    by_cases hs : step.side = .left
    · simp only [climbSparse, hs, if_true, sparseMerkleNode_eq, sparseSteps, List.map_cons]
      exact ih _
    · simp only [climbSparse, hs, if_false, sparseMerkleNode_eq, sparseSteps, List.map_cons]
      exact ih _

end Continuity
