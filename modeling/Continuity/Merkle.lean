import Continuity.Types

namespace Continuity
set_option autoImplicit true

structure MerkleTree where
  leaves : List Hex32
  levels : List (List Hex32)
  root : Hex32

variable (N : Noble)

def hashLeaf (index : JsNumber) (commitment : Hex32) : Js Hex32 := do
  let n ← bigInt index
  let index ← uint64be n
  let commitment ← hexToBytes commitment
  return hashDomain N DOMAIN_TAGS.MERKLE_LEAF_V1 (index ++ commitment)

def hashNode (left right : Hex32) : Js Hex32 := do
  let left ← hexToBytes left
  let right ← hexToBytes right
  return hashDomain N DOMAIN_TAGS.MERKLE_NODE_V1 (left ++ right)

def hashLeaves : Nat → List Hex32 → Js (List Hex32)
  | _, [] => return []
  | index, commitment :: rest => do
    let leaf ← hashLeaf N (.ofNat index) commitment
    let rest ← hashLeaves (index + 1) rest
    return leaf :: rest

/-- One round of the loop: a missing or empty right neighbour promotes the left node. -/
def nextLevel : List Hex32 → Js (List Hex32)
  | [] => return []
  | [left] => return [left]
  | left :: right :: rest => do
    let node ← if right.isEmpty then pure left else hashNode N left right
    let next ← nextLevel rest
    return node :: next

/-- The levels above `current`; `fuel` bounds the rounds of the loop. -/
def buildLevels : Nat → List Hex32 → Js (List (List Hex32))
  | 0, _ => return []
  | fuel + 1, current =>
    if current.length > 1 then do
      let next ← nextLevel N current
      let levels ← buildLevels fuel next
      return next :: levels
    else return []

def buildMerkleTree (commitments : List Hex32) : Js MerkleTree :=
  if commitments.length = 0 then return { leaves := [], levels := [[]], root := ZERO_HASH }
  else do
    let leaves ← hashLeaves N 0 commitments
    let above ← buildLevels N commitments.length leaves
    let top := (leaves :: above).getLast (by simp)
    return { leaves, levels := leaves :: above, root := top.headD [] }

/-- `array[index]` at a number index. -/
def arrayAt (items : List α) (index : JsNumber) : Option α :=
  match index.toInt? with
  | some (.ofNat n) => items[n]?
  | _ => none

structure InclusionProofInput where
  commitments : List Hex32
  leaf_index : JsNumber
  tree_kind : TreeKind
  epoch_start_ms : JsNumber
  epoch_duration_ms : JsNumber
  shard : JsString
  checkpoint_hash : Option Hex32

def inclusionPath : Nat → List (List Hex32) → List InclusionProofStep
  | _, [] => []
  | index, level :: levels =>
    let isRight := index % 2 == 1
    let siblingIndex := if isRight then index - 1 else index + 1
    let sibling := level[siblingIndex]?
    let steps := inclusionPath (index / 2) levels
    if truthy sibling then
      { side := if isRight then .left else .right, hash := sibling.getD [] } :: steps
    else steps

def buildInclusionProof (input : InclusionProofInput) : Js InclusionProofV1 := do
  let tree ← buildMerkleTree N input.commitments
  let commitment := arrayAt input.commitments input.leaf_index
  if !truthy commitment then throw "Cannot build inclusion proof for missing leaf"
  let index := (input.leaf_index.toInt?.getD 0).toNat
  return {
    tree_kind := input.tree_kind
    commitment := commitment.getD []
    leaf_index := input.leaf_index
    leaf_hash := tree.leaves[index]?.getD []
    root := tree.root
    epoch_start_ms := input.epoch_start_ms
    epoch_duration_ms := input.epoch_duration_ms
    shard := input.shard
    path := inclusionPath index tree.levels.dropLast
    checkpoint_hash := input.checkpoint_hash.getD ZERO_HASH }

/-- The loop over the path; `none` is the early `return false`. -/
def climbPath : Hex32 → List InclusionProofStep → Js (Option Hex32)
  | current, [] => return some current
  | current, step :: path =>
    match step.side with
    | .left => do
      let node ← hashNode N step.hash current
      climbPath node path
    | .right => do
      let node ← hashNode N current step.hash
      climbPath node path
    | .other _ _ => return none

def verifyInclusion (proof : InclusionProofV1) : Js Bool := do
  let leaf ← hashLeaf N proof.leaf_index proof.commitment
  if leaf ≠ proof.leaf_hash then return false
  let current ← climbPath N leaf proof.path
  return current = some proof.root

end Continuity
