import Continuity.OrderedMap
import Continuity.Types

namespace Continuity
open Collections
set_option autoImplicit true

def isWhiteSpace (u : UInt16) : Bool :=
  (9 ≤ u && u ≤ 13) || u == 32 || u == 160 || u == 0x1680 || (0x2000 ≤ u && u ≤ 0x200A) ||
    u == 0x2028 || u == 0x2029 || u == 0x202F || u == 0x205F || u == 0x3000 || u == 0xFEFF

def trim (s : JsString) : JsString :=
  ((s.dropWhile isWhiteSpace).reverse.dropWhile isWhiteSpace).reverse

def digitValue (u : UInt16) : Option Nat :=
  if 48 ≤ u && u ≤ 57 then some (u.toNat - 48)
  else if 97 ≤ u && u ≤ 122 then some (u.toNat - 87)
  else if 65 ≤ u && u ≤ 90 then some (u.toNat - 55)
  else none

def digitsValue (base : Nat) : Nat → JsString → Option Nat
  | acc, [] => some acc
  | acc, u :: rest =>
    match digitValue u with
    | some d => if d < base then digitsValue base (acc * base + d) rest else none
    | none => none

def parseDigits (base : Nat) (s : JsString) : Option Nat :=
  if s.isEmpty then none else digitsValue base 0 s

def stringToBigInt? : JsString → Option Int
  | [] => some 0
  | 43 :: digits => (parseDigits 10 digits).map fun n => (n : Int)
  | 45 :: digits => (parseDigits 10 digits).map fun n => -(n : Int)
  | 48 :: 120 :: digits => (parseDigits 16 digits).map fun n => (n : Int)
  | 48 :: 88 :: digits => (parseDigits 16 digits).map fun n => (n : Int)
  | 48 :: 111 :: digits => (parseDigits 8 digits).map fun n => (n : Int)
  | 48 :: 79 :: digits => (parseDigits 8 digits).map fun n => (n : Int)
  | 48 :: 98 :: digits => (parseDigits 2 digits).map fun n => (n : Int)
  | 48 :: 66 :: digits => (parseDigits 2 digits).map fun n => (n : Int)
  | digits => (parseDigits 10 digits).map fun n => (n : Int)

/-- `BigInt` of a string. -/
def bigIntOfString (s : JsString) : Js Int :=
  match stringToBigInt? (trim s) with
  | some n => return n
  | none => throw ("SyntaxError: Cannot convert " ++ textOf s ++ " to a BigInt")

structure SparseMerkleProfileV1 where
  tree_id : JsString
  tree_depth : JsNumber

structure SparseMerkleTreeV1 where
  profile : SparseMerkleProfileV1
  root : Hex32
  leaves : OrderedMap Nat Hex32
  zero_hashes : List Hex32

variable (N : Noble)

def domainHash (value : JsValue) : Js Hex32 := do
  let bytes ← canonicalBytes value
  return hashDomain N DOMAIN_TAGS.NON_MEMBERSHIP_PROOF_V1 bytes

def buildSetRoot (values : List Hex32) : Js Hex32 :=
  domainHash N (.arr ((sortStrings values).map .str))

def sparseHash (label : JsString) (value : JsValue) : Js Hex32 :=
  domainHash N (.obj [(js "label", .str label), (js "value", value)])

def sparseMerkleLeaf (value : Hex32) : Js Hex32 := sparseHash N (js "leaf") (.str value)

def sparseMerkleNode (left right : Hex32) : Js Hex32 :=
  sparseHash N (js "node") (.obj [(js "left", .str left), (js "right", .str right)])

def zeroHashesFrom : Nat → Hex32 → Js (List Hex32)
  | 0, _ => return []
  | n + 1, below => do
    let zero ← sparseMerkleNode N below below
    let above ← zeroHashesFrom n zero
    return zero :: above

def sparseMerkleZeroHashes (depth : Nat) : Js (List Hex32) := do
  let zeroLeaf ← sparseHash N (js "zero-leaf") (.num (.ofNat 0))
  let above ← zeroHashesFrom N depth zeroLeaf
  return zeroLeaf :: above

/-- A depth from 1 to 30; anything else throws. -/
def sparseDepth (depth : JsNumber) : Js Nat :=
  match depth.toInt? with
  | some n =>
    if n < 1 ∨ 30 < n then throw "TSL_SPARSE_MERKLE_DEPTH_INVALID" else return n.toNat
  | none => throw "TSL_SPARSE_MERKLE_DEPTH_INVALID"

/-- The low `depth` bits of the value, in two's complement. -/
def sparseMerkleIndex (value : Hex32) (depth : JsNumber) : Js Nat := do
  let depth ← sparseDepth depth
  let digest ← bigIntOfString value
  return (digest % 2 ^ depth).toNat

def zeroAt (zeroes : List Hex32) (level : Nat) : Hex32 := zeroes[level]?.getD []

def sparseParents (current : OrderedMap Nat Hex32) : List Nat :=
  ((current.keys.map (· / 2)).dedup).insertionSort (· ≤ ·)

/-- One parent of the next level; a zero subtree gets no entry. -/
def setParent (zeroes : List Hex32) (level : Nat) (current next : OrderedMap Nat Hex32)
    (parent : Nat) : Js (OrderedMap Nat Hex32) := do
  let left := (current.get? (parent * 2)).getD (zeroAt zeroes level)
  let right := (current.get? (parent * 2 + 1)).getD (zeroAt zeroes level)
  let node ← sparseMerkleNode N left right
  return if node ≠ zeroAt zeroes (level + 1) then next.set parent node else next

def sparseNextLevel (zeroes : List Hex32) (level : Nat) (current : OrderedMap Nat Hex32) :
    Js (OrderedMap Nat Hex32) :=
  (sparseParents current).foldlM (setParent N zeroes level current) .empty

def leafEntries : List (Nat × Hex32) → Js (List (Nat × Hex32))
  | [] => return []
  | (index, value) :: rest => do
    let leaf ← sparseMerkleLeaf N value
    let rest ← leafEntries rest
    return (index, leaf) :: rest

def leafLevel (leaves : OrderedMap Nat Hex32) : Js (OrderedMap Nat Hex32) := do
  let entries ← leafEntries N leaves.entries
  return OrderedMap.ofEntries entries

def sparseRootLoop (zeroes : List Hex32) :
    Nat → Nat → OrderedMap Nat Hex32 → Js (OrderedMap Nat Hex32)
  | 0, _, current => return current
  | n + 1, level, current => do
    let next ← sparseNextLevel N zeroes level current
    sparseRootLoop zeroes n (level + 1) next

def sparseMerkleRootFromLeaves (leaves : OrderedMap Nat Hex32) (depth : Nat)
    (zeroes : List Hex32) : Js Hex32 := do
  let current ← leafLevel N leaves
  let top ← sparseRootLoop N zeroes depth 0 current
  return (top.get? 0).getD (zeroAt zeroes depth)

def sparsePathLoop (zeroes : List Hex32) :
    Nat → Nat → Nat → OrderedMap Nat Hex32 → Js (List InclusionProofStep)
  | 0, _, _, _ => return []
  | n + 1, level, cursor, current => do
    let siblingIndex := if cursor % 2 = 0 then cursor + 1 else cursor - 1
    let step : InclusionProofStep := {
      side := if cursor % 2 = 0 then .right else .left
      hash := (current.get? siblingIndex).getD (zeroAt zeroes level) }
    let next ← sparseNextLevel N zeroes level current
    let path ← sparsePathLoop zeroes n (level + 1) (cursor / 2) next
    return step :: path

def sparseMerklePath (leaves : OrderedMap Nat Hex32) (index depth : Nat)
    (zeroes : List Hex32) : Js (List InclusionProofStep) := do
  let current ← leafLevel N leaves
  sparsePathLoop N zeroes depth 0 index current

def setLeaves (depth : JsNumber) :
    OrderedMap Nat Hex32 → List Hex32 → Js (OrderedMap Nat Hex32)
  | leaves, [] => return leaves
  | leaves, value :: rest => do
    let index ← sparseMerkleIndex value depth
    if leaves.has index && leaves.get? index ≠ some value then
      throw "TSL_SPARSE_MERKLE_INDEX_COLLISION"
    setLeaves depth (leaves.set index value) rest

/-- A depth that is no natural number fails here; in the source it fails at the first value. -/
def buildSparseMerkleTree (values : List Hex32) (profile : SparseMerkleProfileV1) :
    Js SparseMerkleTreeV1 := do
  let depth ← match profile.tree_depth.toInt? with
    | some (.ofNat depth) => pure depth
    | _ => throw "TSL_SPARSE_MERKLE_DEPTH_INVALID"
  let zeroes ← sparseMerkleZeroHashes N depth
  let leaves ← setLeaves profile.tree_depth .empty (sortStrings values)
  let root ← sparseMerkleRootFromLeaves N leaves depth zeroes
  return { profile, root, leaves, zero_hashes := zeroes }

def siblingPathJs (path : List InclusionProofStep) : JsValue :=
  .arr (path.map InclusionProofStep.toJs)

/-- The digest that closes a sparse proof. -/
def sparseProofHash (label : JsString) (root value_commitment : Hex32)
    (leaf_index tree_depth : JsNumber) (sibling_path : List InclusionProofStep) : Js Hex32 :=
  sparseHash N label (.obj [(js "root", .str root),
    (js "value_commitment", .str value_commitment), (js "leaf_index", .num leaf_index),
    (js "tree_depth", .num tree_depth), (js "sibling_path", siblingPathJs sibling_path)])

def indexCommitment (tree_id : JsString) (index : JsNumber) : Js Hex32 :=
  sparseHash N (js "leaf-index") (.obj [(js "tree_id", .str tree_id), (js "index", .num index)])

def uncheckpointedRoot (tree_id : JsString) (root : Hex32) : Js Hex32 :=
  sparseHash N (js "uncheckpointed-root")
    (.obj [(js "tree_id", .str tree_id), (js "root", .str root)])

def rootCheckpointOr (root_checkpoint : Option Hex32) (tree_id : JsString) (root : Hex32) :
    Js Hex32 :=
  match root_checkpoint with
  | some checkpoint => return checkpoint
  | none => uncheckpointedRoot N tree_id root

/-- The object both provers return; only its label and its empty leaf differ. -/
def sparseProof (label : JsString) (empty_leaf_commitment : Option Hex32) (value : Hex32)
    (index : Nat) (tree : SparseMerkleTreeV1) (subject : TrustID) (issued_at : RFC3339)
    (root_checkpoint : Option Hex32) : Js SetNonMembershipProofV1 := do
  let depth ← sparseDepth tree.profile.tree_depth
  let sibling_path ← sparseMerklePath N tree.leaves index depth tree.zero_hashes
  let root_checkpoint ← rootCheckpointOr N root_checkpoint tree.profile.tree_id tree.root
  let leaf_index_commitment ← indexCommitment N tree.profile.tree_id (.ofNat index)
  let leaf_value_commitment ← sparseMerkleLeaf N value
  let proof ← sparseProofHash N label tree.root value (.ofNat index) tree.profile.tree_depth
    sibling_path
  return {
    type := js "tsl.zk.non_membership_proof.v1"
    claim := js "revocation_set_non_membership"
    subject
    set_root := tree.root
    root := some tree.root
    root_checkpoint := some root_checkpoint
    value_commitment := value
    tree_id := some tree.profile.tree_id
    tree_depth := some tree.profile.tree_depth
    leaf_index := some (.ofNat index)
    leaf_index_commitment := some leaf_index_commitment
    leaf_value_commitment := some leaf_value_commitment
    empty_leaf_commitment
    lower_neighbor := none
    upper_neighbor := none
    sibling_path := some sibling_path
    proof
    issued_at }

def inclusionLabel : JsString := js "sparse-merkle-inclusion-proof"

def nonMembershipLabel : JsString := js "sparse-merkle-non-membership-proof"

def proveSparseMerkleInclusion (value : Hex32) (tree : SparseMerkleTreeV1) (subject : TrustID)
    (issued_at : RFC3339) (root_checkpoint : Option Hex32) : Js SetNonMembershipProofV1 := do
  let index ← sparseMerkleIndex value tree.profile.tree_depth
  if tree.leaves.get? index ≠ some value then throw "TSL_SPARSE_MERKLE_VALUE_MISSING"
  sparseProof N inclusionLabel none value index tree subject issued_at root_checkpoint

def proveSparseMerkleNonMembership (value : Hex32) (tree : SparseMerkleTreeV1)
    (subject : TrustID) (issued_at : RFC3339) (root_checkpoint : Option Hex32) :
    Js SetNonMembershipProofV1 := do
  let index ← sparseMerkleIndex value tree.profile.tree_depth
  if tree.leaves.has index then throw "TSL_NON_MEMBERSHIP_VALUE_PRESENT"
  sparseProof N nonMembershipLabel (some (zeroAt tree.zero_hashes 0)) value index tree subject
    issued_at root_checkpoint

structure NonMembershipInput where
  subject : TrustID
  value_commitment : Hex32
  set_values : List Hex32
  issued_at : RFC3339

def neighborHash (set_root value_commitment : Hex32) (lower upper : Option Hex32) : Js Hex32 :=
  domainHash N (.obj [(js "set_root", .str set_root),
    (js "value_commitment", .str value_commitment), (js "lower", optional .str lower),
    (js "upper", optional .str upper)])

def nonEmpty (s : Option JsString) : Option JsString := if truthy s then s else none

def buildNonMembershipProof (input : NonMembershipInput) : Js SetNonMembershipProofV1 := do
  let sorted := sortStrings input.set_values
  if input.value_commitment ∈ sorted then throw "TSL_NON_MEMBERSHIP_VALUE_PRESENT"
  let lower := (sorted.filter fun value => !unitsLe input.value_commitment value).getLast?
  let upper := sorted.find? fun value => !unitsLe value input.value_commitment
  let setRoot ← buildSetRoot N sorted
  let proof ← neighborHash N setRoot input.value_commitment lower upper
  return {
    type := js "tsl.zk.non_membership_proof.v1"
    claim := js "revocation_set_non_membership"
    subject := input.subject
    set_root := setRoot
    value_commitment := input.value_commitment
    lower_neighbor := nonEmpty lower
    upper_neighbor := nonEmpty upper
    tree_id := none
    tree_depth := none
    leaf_index_commitment := none
    leaf_value_commitment := none
    empty_leaf_commitment := none
    root := none
    root_checkpoint := none
    leaf_index := none
    sibling_path := none
    proof
    issued_at := input.issued_at }

def climbSparse : Hex32 → List InclusionProofStep → Js Hex32
  | current, [] => return current
  | current, step :: path => do
    let node ← if step.side = .left then sparseMerkleNode N step.hash current
      else sparseMerkleNode N current step.hash
    climbSparse node path

/-- `a === b` where `a` may be missing. -/
def numberIs (a : Option JsNumber) (b : JsNumber) : Bool :=
  match a with
  | some a => a.strictEq b
  | none => false

def verifySparseMerkleProof (proof : SetNonMembershipProofV1) (root : Hex32)
    (profile : SparseMerkleProfileV1) : Js Bool := do
  if proof.tree_id ≠ some profile.tree_id || !numberIs proof.tree_depth profile.tree_depth then
    return false
  if truthy proof.root && proof.root ≠ some root then return false
  if proof.set_root ≠ root then return false
  let some leaf_index := proof.leaf_index | return false
  let some sibling_path := proof.sibling_path | return false
  if !(JsNumber.ofNat sibling_path.length).strictEq profile.tree_depth then return false
  let expectedLeafIndex ← sparseMerkleIndex proof.value_commitment profile.tree_depth
  if !leaf_index.strictEq (.ofNat expectedLeafIndex) then return false
  let expectedIndexCommitment ← indexCommitment N profile.tree_id leaf_index
  if proof.leaf_index_commitment ≠ some expectedIndexCommitment then return false
  let zeroes ← sparseMerkleZeroHashes N sibling_path.length
  let isNonMembership := truthy proof.empty_leaf_commitment
  let leaf ← sparseMerkleLeaf N proof.value_commitment
  let start := if isNonMembership then zeroAt zeroes 0 else leaf
  if isNonMembership && proof.empty_leaf_commitment ≠ some (zeroAt zeroes 0) then return false
  if proof.leaf_value_commitment ≠ some leaf then return false
  let current ← climbSparse N start sibling_path
  if current ≠ root then return false
  let expectedProof ← sparseProofHash N
    (if isNonMembership then nonMembershipLabel else inclusionLabel) root proof.value_commitment
    leaf_index profile.tree_depth sibling_path
  return proof.proof = expectedProof

/-- The loop of the indexed mode, where a step is the bare pair of two digests. -/
def climbPairs : Hex32 → List InclusionProofStep → Js Hex32
  | current, [] => return current
  | current, step :: path => do
    let node ← if step.side = .left then domainHash N (.arr [.str step.hash, .str current])
      else domainHash N (.arr [.str current, .str step.hash])
    climbPairs node path

def verifyIndexedProof (proof : SetNonMembershipProofV1) (leaf_index tree_depth : JsNumber)
    (sibling_path : List InclusionProofStep) : Js Bool := do
  if !(JsNumber.ofNat sibling_path.length).strictEq tree_depth then return false
  let lower := optional JsValue.str proof.lower_neighbor
  let upper := optional JsValue.str proof.upper_neighbor
  let leaf ← domainHash N (.obj [(js "absent_leaf", .str proof.value_commitment),
    (js "lower", lower), (js "upper", upper), (js "index", .num leaf_index)])
  let current ← climbPairs N leaf sibling_path
  if current ≠ proof.set_root then return false
  let expected ← domainHash N (.obj [(js "set_root", .str proof.set_root),
    (js "value_commitment", .str proof.value_commitment), (js "lower", lower),
    (js "upper", upper), (js "leaf_index", .num leaf_index), (js "tree_depth", .num tree_depth)])
  return proof.proof = expected

/-- The profile of the sparse mode, when all the fields of that mode are set. -/
def sparseProfile (proof : SetNonMembershipProofV1) : Option SparseMerkleProfileV1 :=
  match proof.tree_id, proof.sibling_path, proof.leaf_index, proof.tree_depth with
  | some tree_id, some sibling_path, some _, some tree_depth =>
    if !tree_id.isEmpty && !sibling_path.isEmpty && truthy proof.leaf_index_commitment &&
      truthy proof.leaf_value_commitment &&
      (truthy proof.empty_leaf_commitment || truthy proof.root)
    then some { tree_id, tree_depth } else none
  | _, _, _, _ => none

def verifyNonMembershipProof (env : ProcessEnv) (proof : SetNonMembershipProofV1) :
    Js Bool := do
  if proof.type ≠ js "tsl.zk.non_membership_proof.v1" then return false
  if proof.claim ≠ js "revocation_set_non_membership" then return false
  if truthy proof.lower_neighbor &&
    unitsLe proof.value_commitment (proof.lower_neighbor.getD []) then return false
  if truthy proof.upper_neighbor &&
    unitsLe (proof.upper_neighbor.getD []) proof.value_commitment then return false
  match sparseProfile proof with
  | some profile =>
    verifySparseMerkleProof N proof (proof.root.getD proof.set_root) profile
  | none =>
    match proof.sibling_path, proof.leaf_index, proof.tree_depth with
    | some (step :: path), some leaf_index, some tree_depth =>
      verifyIndexedProof N proof leaf_index tree_depth (step :: path)
    | _, _, _ =>
      if env (js "ALLOW_UNSAFE_NON_MEMBERSHIP_FIXTURES") = some (js "true") then do
        let expected ← neighborHash N proof.set_root proof.value_commitment
          proof.lower_neighbor proof.upper_neighbor
        return proof.proof = expected
      else return false

end Continuity
