import Continuity.DurableStore
import Continuity.RelayNode

namespace Continuity
open Statements Program
set_option autoImplicit true

def receiptCommitmentHash (N : Noble) (receipt : ReceiptCommitmentV1) : Js Hex32 := do
  let hash ← receiptHash N receipt
  commitmentHashFromParts N hash receipt.signature

def attestationCommitmentHash (N : Noble) (attestation : AttestationV1) : Js Hex32 := do
  let hash ← attestationHash N attestation
  commitmentHashFromParts N hash attestation.signature

/-- `Math.floor(time / duration) * duration`, `NaN` for a text that is no time. -/
def epochStartOf (epochDurationMs : ℕ+) (time : Option Int) : JsNumber :=
  match time with
  | some time => .ofInt (time / epochDurationMs * epochDurationMs)
  | none => .nan

/-- `INSERT INTO ... ON CONFLICT (hash) DO NOTHING` of a receipt, an attestation or a revocation. -/
def Database.insertLogRow (db : Database) (row : LogRow kind) : Js Database :=
  if !isHashText row.hash then throw "violates check constraint on hash"
  else if (db.logs kind).any (fun other => other.hash == row.hash) then return db
  else return db.setLog kind (db.logs kind ++ [row])

namespace PostgresRepository

variable (P : PostgresRepository)

/-- The row that `insertReceipt` sends. -/
def receiptRow (receipt : ReceiptCommitmentV1) (receiptHash : Hex32) (relayId : JsString)
    (epochStartMs : JsNumber) (shard : JsString) (accepted_at : Int) : Js (LogRow .receipt) := do
  let hash ← sqlText receiptHash
  let _ ← sqlText receipt.event_commitment
  let _ ← sqlText receipt.receiver
  let _ ← sqlText receipt.signing_key_id
  let _ ← P.timestamptz receipt.timestamp
  let _ ← sqlOptional receipt.metadata_commitment
  let _ ← sqlText receipt.signature
  let _ ← sqlText relayId
  let (epoch_start_ms, shard) ← P.segmentParameters epochStartMs shard
  return { hash, shard, epoch_start_ms, log_index := none, accepted_at, columns := () }

def insertReceipt (receipt : ReceiptCommitmentV1) (receiptHash : Hex32) (relayId : JsString)
    (epochStartMs : JsNumber) : Sql Unit := do
  let shard := shardForTrustID P.noble receipt.receiver
  P.assertSegmentOpen epochStartMs shard
  let _ ← lift (canonicalBytes (.obj receipt.toFields))
  execute fun db => do
    let row ← P.receiptRow receipt receiptHash relayId epochStartMs shard db.clock
    db.insertLogRow row

/-- The row that `insertAttestation` sends. -/
def attestationRow (attestation : AttestationV1) (relayId : JsString) (epochStartMs : JsNumber)
    (hash : Hex32) (shard : JsString) (accepted_at : Int) : Js (LogRow .attestation) := do
  let hash ← sqlText hash
  let _ ← sqlText attestation.issuer
  let _ ← sqlText attestation.subject
  let _ ← sqlText attestation.attestation_class
  let _ ← P.timestamptz attestation.issued_at
  let _ ← attestation.expires_at.mapM P.timestamptz
  let _ ← sqlText attestation.claim_commitment
  let _ ← sqlText attestation.signature
  let _ ← sqlText relayId
  let (epoch_start_ms, shard) ← P.segmentParameters epochStartMs shard
  return { hash, shard, epoch_start_ms, log_index := none, accepted_at, columns := () }

def insertAttestation (attestation : AttestationV1) (relayId : JsString)
    (epochStartMs : JsNumber) : Sql Hex32 := do
  let hash ← lift (attestationCommitmentHash P.noble attestation)
  let shard := shardForTrustID P.noble attestation.issuer
  P.assertSegmentOpen epochStartMs shard
  let _ ← lift (canonicalBytes (.obj attestation.toFields))
  execute fun db => do
    let row ← P.attestationRow attestation relayId epochStartMs hash shard db.clock
    db.insertLogRow row
  pure hash

/-- The row that `insertRevocation` sends. -/
def revocationRow (revocation : RevocationV1) (relayId : JsString) (epochStartMs : JsNumber)
    (hash : Hex32) (shard : JsString) (accepted_at : Int) : Js (LogRow .revocation) := do
  let hash ← sqlText hash
  let _ ← sqlText revocation.trust_id
  let _ ← sqlText revocation.revoked_key
  let _ ← P.timestamptz revocation.effective_at
  let _ ← sqlOptional revocation.replacement_key
  let _ ← sqlText revocation.signature
  let _ ← sqlText relayId
  let (epoch_start_ms, shard) ← P.segmentParameters epochStartMs shard
  return { hash, shard, epoch_start_ms, log_index := none, accepted_at, columns := () }

/-- `UPDATE verification_keys SET status = 'revoked', revoked_at = ...`. -/
def markRevoked (revocation : RevocationV1) (db : Database) : Js Database := do
  let trust_id ← sqlText revocation.trust_id
  let key_id ← sqlText revocation.revoked_key
  let revoked_at ← P.timestamptz revocation.effective_at
  return { db with verification_keys := db.verification_keys.map fun row =>
    if row.trust_id == trust_id && row.key_id == key_id then
      { row with status := .revoked, revoked_at := some revoked_at }
    else row }

def insertRevocation (revocation : RevocationV1) (relayId : JsString) (epochDurationMs : ℕ+) :
    Sql Hex32 := do
  let hash ← lift (revocationCommitmentHash P.noble revocation)
  let shard := shardForTrustID P.noble revocation.trust_id
  let epochStartMs := epochStartOf epochDurationMs (P.host.parse revocation.effective_at)
  P.assertSegmentOpen epochStartMs shard
  let _ ← lift (canonicalBytes (.obj revocation.toFields))
  execute fun db => do
    let row ← P.revocationRow revocation relayId epochStartMs hash shard db.clock
    db.insertLogRow row
  execute (P.markRevoked revocation)
  pure hash

end PostgresRepository

section Changes

variable {P : PostgresRepository} {within : Database → Database → Prop}

theorem setLog_logs (db : Database) (rows : List (LogRow kind)) :
    (db.setLog kind rows).logs = Function.update db.logs kind rows := rfl

theorem run_execute_ok {f : Database → Js Database} :
    (execute f).run db = (.ok (), db') ↔ f db = .ok db' := by
  rw [execute, run_query]
  cases f db with
  | ok t => simp [Functor.map, Except.map]
  | error e => simp [Functor.map, Except.map]

theorem execute_changes {g : Database → Js Database} (hrefl : ∀ db, within db db)
    (h : ∀ db db', g db = .ok db' → within db db') : Changes within (execute g) := by
  refine Changes.query hrefl ?_
  intro db a db' hg
  obtain ⟨t, ht, he⟩ := map_eq_ok.mp hg
  cases he
  exact h db _ ht

theorem execute_ensures {g : Database → Js Database} {rely : Nat → Database → Database → Prop}
    {post : Nat → Unit → Database → Prop}
    (h : ∀ t, rely n db t → ∀ u, g t = .ok u → ∀ v, rely (n + 1) u v → post (n + 1) () v) :
    Ensures rely post n (execute g) db := by
  apply ensures_query
  intro t ht a u hg
  obtain ⟨u', hu, he⟩ := map_eq_ok.mp hg
  cases he
  exact h t ht _ hu

theorem assertSegmentOpen_changes (hrefl : ∀ db, within db db) :
    Changes within (P.assertSegmentOpen epochStartMs shard) := by
  refine (Changes.select hrefl).bind fun closed => ?_
  cases closed <;> exact changes_done _

/-- An insert of an event changes what the insert of its row changes. -/
theorem insertEvent_changes (P : PostgresRepository) (hrefl : ∀ db, within db db)
    (hrow : ∀ db row db', db.insertEventRow row = .ok db' → within db db')
    (event : EventCommitmentV1) (relayId : JsString) (epoch : JsNumber) :
    Changes within (P.insertEvent event relayId epoch) :=
  Changes.lift_bind fun _ => (assertSegmentOpen_changes hrefl).bind fun _ =>
    Changes.lift_bind fun _ => (execute_changes hrefl fun db db' h => by
      obtain ⟨row, -, h⟩ := bind_eq_ok.mp h
      exact hrow db row db' h).bind fun _ => changes_done _

end Changes

/-- A database that reads times as the language does and keeps the documents that it takes. -/
def samplePostgres (N : Noble) : PostgresRepository where
  host := sampleHost N
  timestamptz text := match (sampleHost N).parse text with
    | some time => return time * 1000
    | none => throw "invalid input syntax for type timestamp with time zone"
  jsonb identity :=
    if ∀ s ∈ identity.id :: identity.verification_methods.map VerificationMethodV1.id,
        sqlText s = .ok s then
      return identity
    else throw "unsupported Unicode escape sequence"
  collation := unitsLe

def emptyDatabase : Database where
  trust_identities := []
  verification_keys := []
  logs _ := []
  checkpoints := []
  merkle_nodes := []
  clock := 1779667200000000

end Continuity
