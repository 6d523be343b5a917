import Continuity.PoseidonTrees

namespace Continuity
open HashTree
set_option autoImplicit true

/-- The slot of a value: the low bits of its hash. -/
def sparseSlot (lib : Circomlib) (depth : Nat) (value : Signal) : Nat :=
  (lib.poseidon [value]).val % 2 ^ depth

/-- A sparse tree whose vacant slots all hold the empty leaf, and no other slot does. -/
structure SparseRevocationTree (lib : Circomlib) (depth : Nat) where
  values : List Signal
  empty_leaf : Signal
  leaf : Nat → Signal
  vacant : ∀ slot < 2 ^ depth, (∀ value ∈ values, sparseSlot lib depth value ≠ slot) →
    leaf slot = empty_leaf
  occupied : ∀ value ∈ values, leaf (sparseSlot lib depth value) ≠ empty_leaf

namespace SparseRevocationTree

variable {lib : Circomlib} (tree : SparseRevocationTree lib depth)

def root : Signal := (poseidonScheme lib).node tree.leaf depth 0

/-- The inputs of every hash above the leaves. -/
def hashed : List (List Signal) := (poseidonScheme lib).nodeInputs tree.leaf depth 0

end SparseRevocationTree

structure RevocationNonMembershipProduction (depth : Nat) where
  subject_hash : Signal
  key_hash : Signal
  revocation_pointer_hash : Signal
  value_commitment : Signal
  empty_leaf_commitment : Signal
  public_revocation_root : Signal
  sparse_leaf_index : Signal
  sibling_path : Fin depth → Signal
  path_bits : Fin depth → Signal
  value_hash : Signal
  index_hash : Signal
  path : PoseidonMerkleRoot depth

namespace RevocationNonMembershipProduction

variable (lib : Circomlib) (s : RevocationNonMembershipProduction depth)

structure Constraints : Prop where
  value_hash : s.value_hash =
    lib.poseidon [s.subject_hash, s.key_hash, s.revocation_pointer_hash]
  value : s.value_hash = s.value_commitment
  index_hash : s.index_hash = lib.poseidon [s.value_commitment]
  index : s.index_hash = s.sparse_leaf_index
  path_leaf : s.path.leaf = s.empty_leaf_commitment
  path_siblings : ∀ i, s.path.siblings i = s.sibling_path i
  path_bits : ∀ i, s.path.path_bits i = s.path_bits i
  path : s.path.Constraints lib
  root : s.path.root = s.public_revocation_root

variable {lib s}

theorem Constraints.leaf_opened (h : s.Constraints lib) (tree : SparseRevocationTree lib depth)
    (hroot : s.public_revocation_root = tree.root)
    (hc : (poseidonScheme lib).CollisionFree (tree.hashed ++ s.path.hashed)) :
    tree.leaf s.path.index = s.empty_leaf_commitment := by
  rw [← h.path_leaf]
  exact h.path.leaf_at tree.leaf (by rw [h.root, hroot, SparseRevocationTree.root]) hc

/-- The empty leaf in the own slot of a value shows that the value is absent. -/
theorem Constraints.absent (h : s.Constraints lib) (tree : SparseRevocationTree lib depth)
    (hroot : s.public_revocation_root = tree.root)
    (hc : (poseidonScheme lib).CollisionFree (tree.hashed ++ s.path.hashed))
    (hslot : s.path.index = s.sparse_leaf_index.val % 2 ^ depth)
    (hempty : s.empty_leaf_commitment = tree.empty_leaf) : s.value_commitment ∉ tree.values := by
  intro hvalue
  apply tree.occupied _ hvalue
  rw [sparseSlot, ← h.index_hash, h.index, ← hslot, h.leaf_opened tree hroot hc, hempty]

end RevocationNonMembershipProduction

section Opened

variable {lib : Circomlib} (tree : SparseRevocationTree lib depth)
  (subject_hash key_hash revocation_pointer_hash : Signal) (slot : Nat)

/-- The signals of a prover who opens a slot and calls its leaf the empty one. -/
def openedSignals : RevocationNonMembershipProduction depth :=
  let value := lib.poseidon [subject_hash, key_hash, revocation_pointer_hash]
  let path : PoseidonMerkleRoot depth := openingSignals lib tree.leaf slot
  { subject_hash := subject_hash
    key_hash := key_hash
    revocation_pointer_hash := revocation_pointer_hash
    value_commitment := value
    empty_leaf_commitment := tree.leaf slot
    public_revocation_root := tree.root
    sparse_leaf_index := lib.poseidon [value]
    sibling_path := path.siblings
    path_bits := path.path_bits
    value_hash := value
    index_hash := lib.poseidon [value]
    path := path }

variable {tree subject_hash key_hash revocation_pointer_hash slot}

theorem openedSignals_constraints (h : slot < 2 ^ depth) :
    (openedSignals tree subject_hash key_hash revocation_pointer_hash slot).Constraints lib where
  value_hash := rfl
  value := rfl
  index_hash := rfl
  index := rfl
  path_leaf := rfl
  path_siblings _ := rfl
  path_bits _ := rfl
  path := openingSignals_constraints
  root := openingSignals_root h

end Opened

namespace RevocationNonMembershipProduction

variable {lib : Circomlib}

/-- A prover can open any slot and call its leaf empty, so that every value passes. What does show
absence is the empty leaf of the tree in the slot of the public index. -/
theorem absent_iff (tree : SparseRevocationTree lib 16)
    (hc : (poseidonScheme lib).CollisionFree tree.hashed)
    (subject_hash key_hash revocation_pointer_hash : Signal) :
    ((∀ s : RevocationNonMembershipProduction 16, s.Constraints lib →
        s.public_revocation_root = tree.root → s.subject_hash = subject_hash →
        s.key_hash = key_hash → s.revocation_pointer_hash = revocation_pointer_hash →
        (poseidonScheme lib).CollisionFree (tree.hashed ++ s.path.hashed) →
        s.value_commitment ∉ tree.values) ↔
      lib.poseidon [subject_hash, key_hash, revocation_pointer_hash] ∉ tree.values) ∧
    ∀ s : RevocationNonMembershipProduction 16, s.Constraints lib →
      s.public_revocation_root = tree.root →
      (poseidonScheme lib).CollisionFree (tree.hashed ++ s.path.hashed) →
      s.path.index = s.sparse_leaf_index.val % 2 ^ 16 →
      s.empty_leaf_commitment = tree.empty_leaf → s.value_commitment ∉ tree.values := by
  refine ⟨⟨?_, ?_⟩, ?_⟩
  · intro hsound
    exact hsound (openedSignals tree subject_hash key_hash revocation_pointer_hash 0)
      (openedSignals_constraints (by decide)) rfl rfl rfl rfl
      (hc.append_of_mem (openingSignals_hashed (by decide)))
  · rintro habsent s hs - rfl rfl rfl -
    rwa [← hs.value, hs.value_hash]
  · intro s hs hroot hcs hslot hempty
    exact hs.absent tree hroot hcs hslot hempty

end RevocationNonMembershipProduction

section Sample

/-- A value whose hash ends in sixteen zero bits, so that its slot is the first. -/
def revokedMessage : List Signal := [sampleSubject, 333, 47725]

/-- The Poseidon digests on the way from that value to the root. -/
def revokedDigests : List Signal := [
    10873334242676286758658673353171323044107869762649405555967991220159879418684,
    2165717524688198793231347323379424199119611640197628457111145289146406031018,
    11448683910940204578502858648707668528874893296782102222435350371259739767319,
    18253373544044438984773349416338261690237000890842325568662871184680995620021,
    5602460472808996522074817285808230197731470737741926244564075313126253771780,
    18690303640034418192131103316327386783757124164287730488659164104430620022955,
    14087405394793275177150972490599601581152133545461557658587186982457593660096,
    5359541280926017588390327221486169561317821029202165331797024299356734306652,
    7362785324574988849099836482678220489967629045146288828340780214254826013092,
    12853898581428175447373228662950811725197154463140570088570767997822219216381,
    12925685000667501198656248346802787281478251225153486707330659823001077712176,
    17526552701560130008523382243684403917638415533866725261131116183871738494841,
    16967908339757322918170977858759455062682728477652113168325911299198687112106,
    8614606954490061818621155434127684750060250650930811887332122582882199116635,
    12474640414263816562803850670439717832822705885841904080013072839200902615541,
    14874780345725724449287674781569775882568314743047274063449292314989049337551,
    18562344331436074804482177588806680224415362666292261965326349165383082886210]

def revokedIndex : Signal :=
  3732699986635966537249444862296729442745660310172374280104379004588883116032

def revokedLib : Circomlib := spineLib revokedMessage revokedDigests revokedIndex

theorem revokedTable : SpineTable revokedMessage revokedDigests revokedIndex where
  first := by decide
  spine := by decide
  tower := by decide
  distinct := by decide
  apart := by decide

theorem revoked_slot : sparseSlot revokedLib 16 (revokedLib.poseidon revokedMessage) = 0 := by
  decide

theorem revoked_vacant : ∀ slot < 2 ^ 16, (∀ value ∈ [revokedLib.poseidon revokedMessage],
    sparseSlot revokedLib 16 value ≠ slot) →
      revokedLib.poseidon (firstLeaf revokedMessage [0, 0] slot) = revokedLib.poseidon [0, 0] := by
  intro slot _ h
  have hne := h _ (List.mem_singleton_self _)
  rw [revoked_slot] at hne
  rw [firstLeaf, if_neg hne.symm]

theorem revoked_occupied : ∀ value ∈ [revokedLib.poseidon revokedMessage],
    revokedLib.poseidon (firstLeaf revokedMessage [0, 0] (sparseSlot revokedLib 16 value)) ≠
      revokedLib.poseidon [0, 0] := by
  intro value h
  obtain rfl := List.mem_singleton.mp h
  rw [revoked_slot]
  decide

/-- The tree with that one value. -/
def revokedTree : SparseRevocationTree revokedLib 16 where
  values := [revokedLib.poseidon revokedMessage]
  empty_leaf := revokedLib.poseidon [0, 0]
  leaf slot := revokedLib.poseidon (firstLeaf revokedMessage [0, 0] slot)
  vacant := revoked_vacant
  occupied := revoked_occupied

theorem revokedTree_collisionFree :
    (poseidonScheme revokedLib).CollisionFree revokedTree.hashed :=
  revokedTable.collisionFree.subset (complete_nodeInputs _ _ _)

theorem absent_iff_sample :
    ((∀ s : RevocationNonMembershipProduction 16, s.Constraints revokedLib →
        s.public_revocation_root = revokedTree.root → s.subject_hash = 12345 →
        s.key_hash = 333 → s.revocation_pointer_hash = 47725 →
        (poseidonScheme revokedLib).CollisionFree (revokedTree.hashed ++ s.path.hashed) →
        s.value_commitment ∉ revokedTree.values) ↔
      revokedLib.poseidon [12345, 333, 47725] ∉ revokedTree.values) ∧
    ∀ s : RevocationNonMembershipProduction 16, s.Constraints revokedLib →
      s.public_revocation_root = revokedTree.root →
      (poseidonScheme revokedLib).CollisionFree (revokedTree.hashed ++ s.path.hashed) →
      s.path.index = s.sparse_leaf_index.val % 2 ^ 16 →
      s.empty_leaf_commitment = revokedTree.empty_leaf →
      s.value_commitment ∉ revokedTree.values :=
  RevocationNonMembershipProduction.absent_iff revokedTree revokedTree_collisionFree 12345 333
    47725

/-- The revoked value passes with the empty leaf of the second slot. -/
theorem revoked_value_passes :
    let s := openedSignals revokedTree 12345 333 47725 1
    s.Constraints revokedLib ∧ s.public_revocation_root = revokedTree.root ∧
      (poseidonScheme revokedLib).CollisionFree (revokedTree.hashed ++ s.path.hashed) ∧
      s.empty_leaf_commitment = revokedTree.empty_leaf ∧
      s.value_commitment ∈ revokedTree.values := by
  refine ⟨openedSignals_constraints (by decide), rfl, ?_, rfl, List.mem_singleton_self _⟩
  exact revokedTree_collisionFree.append_of_mem (openingSignals_hashed (by decide))

end Sample

end Continuity
