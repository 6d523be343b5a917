import Continuity.Consistency
import Continuity.JsonParse
import Continuity.RelayStore
import Continuity.Statements

namespace Continuity
open Statements Program
set_option autoImplicit true

/-- The columns of an event row beside those that every log has. -/
structure EventColumns where
  sender_trust_id : JsString
  signing_key_id : JsString
  event_class : JsString
  content_commitment : JsString
  receiver_commitment : Option JsString
  metadata_commitment : Option JsString
  previous_event_commitment : Option JsString
  event_timestamp : Int
  nonce : JsString
  disclosure_policy : JsString
  canonical_body : Bytes
  signature : JsString
  relay_id : JsString
  deriving DecidableEq

/-- Nothing reads the other columns of receipts, attestations and revocations. -/
def Columns : TreeKind → Type
  | .event => EventColumns
  | .receipt | .attestation | .revocation => Unit

instance : (kind : TreeKind) → DecidableEq (Columns kind)
  | .event => inferInstanceAs (DecidableEq EventColumns)
  | .receipt | .attestation | .revocation => inferInstanceAs (DecidableEq Unit)

/-- A row of `event_commitments`, `receipt_commitments`, `attestations` or `revocations`. -/
structure LogRow (kind : TreeKind) where
  hash : JsString
  shard : JsString
  epoch_start_ms : Int
  log_index : Option Nat
  accepted_at : Int
  columns : Columns kind
  deriving DecidableEq

structure CheckpointRow where
  checkpoint_hash : JsString
  epoch_start_ms : Int
  epoch_duration_ms : Int
  shard : JsString
  event_root : JsString
  receipt_root : JsString
  attestation_root : JsString
  revocation_root : JsString
  event_count : Int
  receipt_count : Int
  previous_checkpoint : JsString
  relay_id : JsString
  relay_signature : JsString
  settlement_backend : Option JsString
  settlement_tx : Option JsString
  settlement_status : JsString
  deriving DecidableEq

structure MerkleNodeRow where
  epoch_start_ms : Int
  shard : JsString
  tree_kind : TreeKind
  level : Nat
  node_index : Nat
  node_hash : JsString
  deriving DecidableEq

structure IdentityRow where
  trust_id : JsString
  identity_document : IdentityDocumentV1

/-- A row of `verification_keys`, with its times in microseconds. -/
structure KeyRow where
  trust_id : JsString
  key_id : JsString
  key_type : VerificationKeyType
  public_key : JsString
  status : VerificationKeyStatus
  created_at : Int
  expires_at : Option Int
  revoked_at : Option Int

structure Database where
  trust_identities : List IdentityRow
  verification_keys : List KeyRow
  logs : (kind : TreeKind) → List (LogRow kind)
  checkpoints : List CheckpointRow
  merkle_nodes : List MerkleNodeRow
  /-- `now()` of the statement that runs. -/
  clock : Int

/-- The statements of the repository against a database: what the database makes of the text of a
timestamp, in microseconds, what a `JSONB` column gives back of a document, and how the database
orders texts. -/
structure PostgresRepository where
  host : Host
  timestamptz : JsString → Js Int
  jsonb : IdentityDocumentV1 → Js IdentityDocumentV1
  collation : JsString → JsString → Bool

/-- What a `TEXT` column keeps of a string: it travels as UTF-8, without NUL. -/
def sqlText (s : JsString) : Js JsString :=
  if 0 ∈ s then throw "invalid byte sequence for encoding UTF8: 0x00"
  else return (scalarValues s).flatMap scalarUnits

/-- What a nullable `TEXT` column keeps, for `value ?? null`. -/
def sqlOptional (s : Option JsString) : Js (Option JsString) :=
  match s with
  | some s => some <$> sqlText s
  | none => return none

/-- The `BIGINT` that a text stands for. -/
def readBigint (text : JsString) : Js Int :=
  let (negative, digits) := match text with
    | 45 :: digits => (true, digits)
    | digits => (false, digits)
  let z : Int := if negative then -decimalValue digits else decimalValue digits
  if digits.isEmpty || !digits.all isDigitUnit then throw "invalid input syntax for type bigint"
  else if z < -2 ^ 63 || 2 ^ 63 ≤ z then throw "value is out of range for type bigint"
  else return z

/-- A number as a `BIGINT` parameter: the driver sends `String(value)`, which has every digit of a
safe integer. -/
def sqlBigint (H : Host) (n : JsNumber) : Js Int :=
  if n.isSafeInteger then return n.toInt?.getD 0 else readBigint (numberString H n)

/-- `Number(value)` of a `BIGINT` column, which the driver hands out as a text. -/
def bigintNumber (z : Int) : JsNumber := .nearest (decide (z < 0)) z.natAbs

def isLowerHex (u : UInt16) : Bool := isDigitUnit u || (97 ≤ u.toNat && u.toNat ≤ 102)

/-- The check `~ '^0x[0-9a-f]{64}$'` of a hash column. -/
def isHashText : JsString → Bool
  | 48 :: 120 :: digits => digits.length == 64 && digits.all isLowerHex
  | _ => false

def LogRow.inSegment (epoch : Int) (shard : JsString) (row : LogRow kind) : Bool :=
  row.epoch_start_ms == epoch && row.shard == shard

/-- `ORDER BY log_index NULLS LAST, accepted_at`, which is also `ORDER BY log_index, accepted_at`. -/
def LogRow.before (a b : LogRow kind) : Bool :=
  match a.log_index, b.log_index with
  | some i, some j => i < j || (i == j && a.accepted_at ≤ b.accepted_at)
  | some _, none => true
  | none, some _ => false
  | none, none => a.accepted_at ≤ b.accepted_at

/-- `ORDER BY accepted_at` and the hash. -/
def LogRow.acceptedBefore (a b : LogRow kind) : Bool :=
  a.accepted_at < b.accepted_at || (a.accepted_at == b.accepted_at && unitsLe a.hash b.hash)

/-- The numbering of a segment: `row_number() - 1` in the order of acceptance, joined on the hash. -/
def numberSegment (epoch : Int) (shard : JsString) (rows : List (LogRow kind)) : List (LogRow kind) :=
  let ordered := (rows.filter (LogRow.inSegment epoch shard)).insertionSort
    fun a b => a.acceptedBefore b = true
  rows.map fun row =>
    match ordered.findIdx? fun other => other.hash == row.hash with
    | some next_index => { row with log_index := some next_index }
    | none => row

namespace Database

def setLog (db : Database) (kind : TreeKind) (rows : List (LogRow kind)) : Database :=
  { db with logs := Function.update db.logs kind rows }

def segment (db : Database) (kind : TreeKind) (epoch : Int) (shard : JsString) :
    List (LogRow kind) :=
  (db.logs kind).filter (LogRow.inSegment epoch shard)

/-- The hashes of a segment in the order of its log. -/
def orderedHashes (db : Database) (kind : TreeKind) (epoch : Int) (shard : JsString) :
    List JsString :=
  ((db.segment kind epoch shard).insertionSort fun a b => a.before b = true).map LogRow.hash

def checkpointAt (db : Database) (epoch : Int) (shard : JsString) : Option CheckpointRow :=
  db.checkpoints.find? fun row => row.epoch_start_ms == epoch && row.shard == shard

/-- The checkpoints of a shard before an epoch, the latest first. -/
def checkpointsBefore (db : Database) (shard : JsString) (epoch : Int) : List CheckpointRow :=
  (db.checkpoints.filter fun row => row.shard == shard && row.epoch_start_ms < epoch).insertionSort
    fun a b => b.epoch_start_ms ≤ a.epoch_start_ms

/-- The checkpoints of a shard after an epoch, the earliest first. -/
def checkpointsAfter (db : Database) (shard : JsString) (epoch : Int) : List CheckpointRow :=
  (db.checkpoints.filter fun row => row.shard == shard && epoch < row.epoch_start_ms).insertionSort
    fun a b => a.epoch_start_ms ≤ b.epoch_start_ms

/-- The checkpoints of a shard up to an epoch, the earliest first. -/
def checkpointsUpTo (db : Database) (shard : JsString) (epoch : Int) : List CheckpointRow :=
  (db.checkpoints.filter fun row => row.shard == shard && row.epoch_start_ms ≤ epoch).insertionSort
    fun a b => a.epoch_start_ms ≤ b.epoch_start_ms

/-- `INSERT INTO event_commitments ... ON CONFLICT (commitment_hash) DO NOTHING`. -/
def insertEventRow (db : Database) (row : LogRow .event) : Js Database :=
  let sameNonce (other : LogRow .event) : Bool :=
    let columns : EventColumns := row.columns
    let others : EventColumns := other.columns
    others.sender_trust_id == columns.sender_trust_id &&
      others.signing_key_id == columns.signing_key_id && others.nonce == columns.nonce
  if !isHashText row.hash then throw "violates check constraint on commitment_hash"
  else if (db.logs .event).any (fun other => other.hash == row.hash) then return db
  else if (db.logs .event).any sameNonce then throw "duplicate key value violates unique constraint"
  else return db.setLog .event (db.logs .event ++ [row])

/-- `INSERT INTO checkpoints ... ON CONFLICT (epoch_start_ms, shard) DO NOTHING`, with the number of
rows that it inserts. -/
def insertCheckpointRow (db : Database) (row : CheckpointRow) : Js (Nat × Database) :=
  if !isHashText row.checkpoint_hash then throw "violates check constraint on checkpoint_hash"
  else if (db.checkpointAt row.epoch_start_ms row.shard).isSome then return (0, db)
  else if db.checkpoints.any (fun other => other.checkpoint_hash == row.checkpoint_hash) then
    throw "duplicate key value violates unique constraint"
  else return (1, { db with checkpoints := db.checkpoints ++ [row] })

def sameNode (a b : MerkleNodeRow) : Bool :=
  a.epoch_start_ms == b.epoch_start_ms && a.shard == b.shard && a.tree_kind == b.tree_kind &&
    a.level == b.level && a.node_index == b.node_index

/-- `INSERT INTO merkle_nodes ... ON CONFLICT (...) DO UPDATE SET node_hash`. -/
def upsertNode (db : Database) (row : MerkleNodeRow) : Js Database :=
  let rehash (other : MerkleNodeRow) : MerkleNodeRow :=
    if sameNode row other then { other with node_hash := row.node_hash } else other
  if !isHashText row.node_hash then throw "violates check constraint on node_hash"
  else if db.merkle_nodes.any (sameNode row) then
    return { db with merkle_nodes := db.merkle_nodes.map rehash }
  else return { db with merkle_nodes := db.merkle_nodes ++ [row] }

end Database

/-- The checkpoint that a row stands for. -/
def CheckpointRow.decode (row : CheckpointRow) : BatchCheckpointV1 where
  epoch_start_ms := bigintNumber row.epoch_start_ms
  epoch_duration_ms := bigintNumber row.epoch_duration_ms
  shard := row.shard
  event_root := row.event_root
  receipt_root := row.receipt_root
  attestation_root := row.attestation_root
  revocation_root := row.revocation_root
  event_count := bigintNumber row.event_count
  receipt_count := bigintNumber row.receipt_count
  previous_checkpoint := row.previous_checkpoint
  checkpoint_identity_hash := none
  settlement_backend := row.settlement_backend
  settlement_tx := row.settlement_tx
  relay_id := row.relay_id
  relay_signature := row.relay_signature

abbrev Sql (α : Type) := Program Database String α

/-- A statement without a result. -/
def execute (f : Database → Js Database) : Sql Unit :=
  query fun db => (fun db => ((), db)) <$> f db

namespace PostgresRepository

variable (P : PostgresRepository)

def noble : Noble := P.host.noble

/-- The parameters of a statement about a segment. -/
def segmentParameters (epochStartMs : JsNumber) (shard : JsString) : Js (Int × JsString) := do
  let epoch ← sqlBigint P.host epochStartMs
  let shard ← sqlText shard
  return (epoch, shard)

/-- The query for a checkpoint of the segment that four functions begin with. -/
def segmentClosed (epochStartMs : JsNumber) (shard : JsString) : Sql Bool :=
  select fun db => do
    let (epoch, shard) ← P.segmentParameters epochStartMs shard
    return (db.checkpointAt epoch shard).isSome

def assertSegmentOpen (epochStartMs : JsNumber) (shard : JsString) : Sql Unit := do
  let closed ← P.segmentClosed epochStartMs shard
  if closed then lift (throw "TSL_LOG_SEGMENT_CLOSED") else pure ()

/-- The row that `insertEvent` sends. -/
def eventRow (event : EventCommitmentV1) (relayId : JsString) (epochStartMs : JsNumber)
    (commitment : Hex32) (shard : JsString) (canonical_body : Bytes) (accepted_at : Int) :
    Js (LogRow .event) := do
  let hash ← sqlText commitment
  let sender_trust_id ← sqlText event.sender
  let signing_key_id ← sqlText event.signing_key_id
  let content_commitment ← sqlText event.content_commitment
  let receiver_commitment ← sqlOptional event.receiver_commitment
  let metadata_commitment ← sqlOptional event.metadata_commitment
  let previous_event_commitment ← sqlOptional event.previous_event_commitment
  let event_timestamp ← P.timestamptz event.timestamp
  let nonce ← sqlText event.nonce
  let signature ← sqlText event.signature
  let relay_id ← sqlText relayId
  let (epoch_start_ms, shard) ← P.segmentParameters epochStartMs shard
  let columns : EventColumns := {
    sender_trust_id
    signing_key_id
    event_class := event.event_class.text
    content_commitment
    receiver_commitment
    metadata_commitment
    previous_event_commitment
    event_timestamp
    nonce
    disclosure_policy := event.disclosure_policy.text
    canonical_body
    signature
    relay_id }
  return { hash, shard, epoch_start_ms, log_index := none, accepted_at, columns }

def insertEvent (event : EventCommitmentV1) (relayId : JsString) (epochStartMs : JsNumber) :
    Sql Hex32 := do
  let hash ← lift (commitmentHash P.noble event)
  let shard := shardForTrustID P.noble event.sender
  P.assertSegmentOpen epochStartMs shard
  let canonical_body ← lift (canonicalBytes (.obj event.toFields))
  execute fun db => do
    let row ← P.eventRow event relayId epochStartMs hash shard canonical_body db.clock
    db.insertEventRow row
  pure hash

/-- The row that `insertCheckpoint` sends. -/
def checkpointRow (checkpoint : BatchCheckpointV1) (hash : Hex32) (status : JsString) :
    Js CheckpointRow := do
  let checkpoint_hash ← sqlText hash
  let (epoch_start_ms, shard) ← P.segmentParameters checkpoint.epoch_start_ms checkpoint.shard
  let epoch_duration_ms ← sqlBigint P.host checkpoint.epoch_duration_ms
  let event_root ← sqlText checkpoint.event_root
  let receipt_root ← sqlText checkpoint.receipt_root
  let attestation_root ← sqlText checkpoint.attestation_root
  let revocation_root ← sqlText checkpoint.revocation_root
  let event_count ← sqlBigint P.host checkpoint.event_count
  let receipt_count ← sqlBigint P.host checkpoint.receipt_count
  let previous_checkpoint ← sqlText checkpoint.previous_checkpoint
  let relay_id ← sqlText checkpoint.relay_id
  let relay_signature ← sqlText checkpoint.relay_signature
  let settlement_backend ← sqlOptional checkpoint.settlement_backend
  let settlement_tx ← sqlOptional checkpoint.settlement_tx
  let settlement_status ← sqlText status
  return {
    checkpoint_hash
    epoch_start_ms
    epoch_duration_ms
    shard
    event_root
    receipt_root
    attestation_root
    revocation_root
    event_count
    receipt_count
    previous_checkpoint
    relay_id
    relay_signature
    settlement_backend
    settlement_tx
    settlement_status }

def getCheckpoint (epochStartMs : JsNumber) (shard : JsString) :
    Sql (Option BatchCheckpointV1) := do
  let row ← select fun db => do
    let (epoch, shard) ← P.segmentParameters epochStartMs shard
    return db.checkpointAt epoch shard
  pure <| row.map fun row =>
    { row.decode with checkpoint_identity_hash := some row.checkpoint_hash }

def markCheckpointSettled (checkpoint : BatchCheckpointV1) : Sql Unit := do
  let existing ← P.getCheckpoint checkpoint.epoch_start_ms checkpoint.shard
  match existing with
  | none => lift (throw "TSL_CHECKPOINT_MISSING")
  | some existing =>
    let stored ← lift (checkpointHash P.noble existing)
    let given ← lift (checkpointHash P.noble { checkpoint with settlement_tx := none })
    if stored != given then lift (throw "TSL_CHECKPOINT_IDENTITY_MISMATCH")
    else execute fun db => do
      let (epoch, shard) ← P.segmentParameters checkpoint.epoch_start_ms checkpoint.shard
      let settlement_tx ← sqlOptional checkpoint.settlement_tx
      return { db with checkpoints := db.checkpoints.map fun row =>
        if row.epoch_start_ms == epoch && row.shard == shard then
          { row with settlement_tx, settlement_status := js "settled" }
        else row }

def insertCheckpoint (checkpoint : BatchCheckpointV1) (status : JsString) : Sql Hex32 := do
  let hash ← lift (checkpointHash P.noble checkpoint)
  let previous ← select fun db => do
    let (epoch, shard) ← P.segmentParameters checkpoint.epoch_start_ms checkpoint.shard
    return (db.checkpointsBefore shard epoch).head?.map CheckpointRow.checkpoint_hash
  if checkpoint.previous_checkpoint != previous.getD ZERO_HASH then
    lift (throw "TSL_CHECKPOINT_CHAIN_BROKEN")
  else
    let next ← select fun db => do
      let (epoch, shard) ← P.segmentParameters checkpoint.epoch_start_ms checkpoint.shard
      return (db.checkpointsAfter shard epoch).head?.map CheckpointRow.previous_checkpoint
    if truthy next && next != some hash then lift (throw "TSL_CHECKPOINT_CHAIN_BROKEN")
    else
      let rowCount ← query fun db => do
        let row ← P.checkpointRow checkpoint hash status
        db.insertCheckpointRow row
      if rowCount == 0 then
        let existing ← select fun db => do
          let (epoch, shard) ← P.segmentParameters checkpoint.epoch_start_ms checkpoint.shard
          return (db.checkpointAt epoch shard).map CheckpointRow.checkpoint_hash
        if existing != some hash then lift (throw "TSL_CHECKPOINT_CONFLICT")
        else if truthy checkpoint.settlement_tx || status == js "settled" then
          P.markCheckpointSettled checkpoint
          pure hash
        else pure hash
      else pure hash

def buildInclusionProofFor (treeKind : TreeKind) (commitment : Hex32) :
    Sql (Option (InclusionProofV1 × BatchCheckpointV1)) := do
  let located ← select fun db => do
    let hash ← sqlText commitment
    return ((db.logs treeKind).find? fun row => row.hash == hash).map
      fun row => (row.epoch_start_ms, row.shard)
  match located with
  | none => pure none
  | some (epoch, shard) =>
    let commitments ← select fun db => do
      let shard ← sqlText shard
      return db.orderedHashes treeKind epoch shard
    let leafIndex := commitments.idxOf commitment
    if commitments.length ≤ leafIndex then pure none
    else
      let checkpoint ← P.getCheckpoint (bigintNumber epoch) shard
      match checkpoint with
      | none => pure none
      | some checkpoint =>
        let hash ← lift (checkpointHash P.noble checkpoint)
        let proof ← lift (buildInclusionProof P.noble {
          commitments
          leaf_index := .ofNat leafIndex
          tree_kind := treeKind
          epoch_start_ms := checkpoint.epoch_start_ms
          epoch_duration_ms := checkpoint.epoch_duration_ms
          shard := checkpoint.shard
          checkpoint_hash := some hash })
        pure (some (proof, checkpoint))

def buildConsistencyProofFor (epochStartMs : JsNumber) (shard : JsString) :
    Sql (Option ConsistencyProofV1) := do
  let rows ← select fun db => do
    let (epoch, shard) ← P.segmentParameters epochStartMs shard
    return db.checkpointsUpTo shard epoch
  if rows.length < 2 then pure none
  else
    let proof ← lift (buildConsistencyProof P.noble (rows.map CheckpointRow.decode))
    pure (some proof)

def assignLogIndexes (epochStartMs : JsNumber) (shard : JsString) : Sql Unit :=
  forEach [.event, .receipt, .attestation, .revocation] fun kind =>
    execute fun db => do
      let (epoch, shard) ← P.segmentParameters epochStartMs shard
      return db.setLog kind (numberSegment epoch shard (db.logs kind))

def persistMerkleNodes (epochStartMs : JsNumber) (shard : JsString) (treeKind : TreeKind)
    (levels : List (List Hex32)) : Sql Unit := do
  P.assertSegmentOpen epochStartMs shard
  execute fun db => do
    let (epoch, shard) ← P.segmentParameters epochStartMs shard
    return { db with merkle_nodes := db.merkle_nodes.filter fun node =>
      !(node.epoch_start_ms == epoch && node.shard == shard && node.tree_kind == treeKind) }
  forEach levels.zipIdx fun (nodes, level) =>
    forEach nodes.zipIdx fun (node_hash, node_index) =>
      execute fun db => do
        let (epoch_start_ms, shard) ← P.segmentParameters epochStartMs shard
        let node_hash ← sqlText node_hash
        db.upsertNode { epoch_start_ms, shard, tree_kind := treeKind, level, node_index, node_hash }

def previousCheckpointHash (epochStartMs : JsNumber) (shard : JsString) : Sql Hex32 := do
  let previous ← select fun db => do
    let (epoch, shard) ← P.segmentParameters epochStartMs shard
    return (db.checkpointsBefore shard epoch).head?.map CheckpointRow.checkpoint_hash
  pure (previous.getD ZERO_HASH)

/-- The hashes of a log of the segment, as `buildCheckpoint` reads them. -/
def readLog (kind : TreeKind) (epochStartMs : JsNumber) (shard : JsString) :
    Sql (List Hex32) :=
  select fun db => do
    let (epoch, shard) ← P.segmentParameters epochStartMs shard
    return db.orderedHashes kind epoch shard

def buildCheckpoint (epochStartMs : JsNumber) (shard : JsString) (epochDurationMs : JsNumber)
    (relayId relaySignature : JsString) (settlementBackend : Option JsString) :
    Sql BatchCheckpointV1 := do
  P.assertSegmentOpen epochStartMs shard
  P.assignLogIndexes epochStartMs shard
  let eventCommitments ← P.readLog .event epochStartMs shard
  let receiptCommitments ← P.readLog .receipt epochStartMs shard
  let attestationCommitments ← P.readLog .attestation epochStartMs shard
  let revocationCommitments ← P.readLog .revocation epochStartMs shard
  let eventTree ← lift (buildMerkleTree P.noble eventCommitments)
  let receiptTree ← lift (buildMerkleTree P.noble receiptCommitments)
  let attestationTree ← lift (buildMerkleTree P.noble attestationCommitments)
  let revocationTree ← lift (buildMerkleTree P.noble revocationCommitments)
  P.persistMerkleNodes epochStartMs shard .event eventTree.levels
  P.persistMerkleNodes epochStartMs shard .receipt receiptTree.levels
  P.persistMerkleNodes epochStartMs shard .attestation attestationTree.levels
  P.persistMerkleNodes epochStartMs shard .revocation revocationTree.levels
  let previous_checkpoint ← P.previousCheckpointHash epochStartMs shard
  let checkpoint : BatchCheckpointV1 := {
    epoch_start_ms := epochStartMs
    epoch_duration_ms := epochDurationMs
    shard
    event_root := eventTree.root
    receipt_root := receiptTree.root
    attestation_root := attestationTree.root
    revocation_root := revocationTree.root
    event_count := .ofNat eventCommitments.length
    receipt_count := .ofNat receiptCommitments.length
    previous_checkpoint
    checkpoint_identity_hash := none
    settlement_backend := if truthy settlementBackend then settlementBackend else none
    settlement_tx := none
    relay_id := relayId
    relay_signature := relaySignature }
  let hash ← lift (checkpointHash P.noble checkpoint)
  pure { checkpoint with checkpoint_identity_hash := some hash }

/-- `POST /v1/log/close-epoch`, up to the answer. -/
def closeEpoch (epochStartMs : JsNumber) (shard : JsString) (epochDurationMs : JsNumber)
    (relayId relaySignature : JsString) (settlementBackend : Option JsString) :
    Sql BatchCheckpointV1 := do
  let checkpoint ← P.buildCheckpoint epochStartMs shard epochDurationMs relayId relaySignature
    settlementBackend
  let _ ← P.insertCheckpoint checkpoint (js "pending")
  pure checkpoint

end PostgresRepository

end Continuity
