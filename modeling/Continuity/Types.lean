import Continuity.Crypto

namespace Continuity
set_option autoImplicit true

inductive VerificationKeyType where
  | ed25519
  | secp256k1
  | smart_account
  deriving DecidableEq

def VerificationKeyType.text : VerificationKeyType → JsString
  | .ed25519 => js "ed25519"
  | .secp256k1 => js "secp256k1"
  | .smart_account => js "smart_account"

inductive VerificationKeyStatus where
  | active
  | revoked
  | expired
  deriving DecidableEq

def VerificationKeyStatus.text : VerificationKeyStatus → JsString
  | .active => js "active"
  | .revoked => js "revoked"
  | .expired => js "expired"

structure VerificationMethodV1 where
  id : JsString
  type : VerificationKeyType
  public_key : JsString
  status : VerificationKeyStatus
  created_at : RFC3339
  expires_at : Option RFC3339
  revoked_at : Option RFC3339

structure IdentityDocumentV1 where
  id : TrustID
  controller : JsString
  created_at : RFC3339
  verification_methods : List VerificationMethodV1
  recovery : Option JsObject
  privacy_policy_commitment : Option Hex32

inductive EventClass where
  | message
  | transaction
  | attestation
  | agent_call
  | code_release

def EventClass.text : EventClass → JsString
  | .message => js "message"
  | .transaction => js "transaction"
  | .attestation => js "attestation"
  | .agent_call => js "agent_call"
  | .code_release => js "code_release"

inductive DisclosurePolicy where
  | local_only
  | commitment_only
  | selective
  | «public»

def DisclosurePolicy.text : DisclosurePolicy → JsString
  | .local_only => js "local_only"
  | .commitment_only => js "commitment_only"
  | .selective => js "selective"
  | .«public» => js "public"

structure EventCommitmentV1 where
  event_class : EventClass
  sender : TrustID
  signing_key_id : JsString
  receiver_commitment : Option Hex32
  content_commitment : Hex32
  metadata_commitment : Option Hex32
  previous_event_commitment : Option Hex32
  timestamp : RFC3339
  nonce : Hex32
  disclosure_policy : DisclosurePolicy
  signature : HexSig

inductive ReceiptClass where
  | received
  | replied
  | transacted
  | completed
  | disputed

def ReceiptClass.text : ReceiptClass → JsString
  | .received => js "received"
  | .replied => js "replied"
  | .transacted => js "transacted"
  | .completed => js "completed"
  | .disputed => js "disputed"

structure ReceiptCommitmentV1 where
  event_commitment : Hex32
  receiver : TrustID
  signing_key_id : JsString
  receipt_class : ReceiptClass
  timestamp : RFC3339
  metadata_commitment : Option Hex32
  signature : HexSig

inductive Visibility where
  | «public»
  | selective
  | «private»
  deriving DecidableEq

def Visibility.text : Visibility → JsString
  | .«public» => js "public"
  | .selective => js "selective"
  | .«private» => js "private"

structure AttestationV1 where
  issuer : TrustID
  subject : TrustID
  attestation_class : JsString
  claim_commitment : Hex32
  visibility : Visibility
  issued_at : RFC3339
  expires_at : Option RFC3339
  signature : HexSig

inductive RevocationReason where
  | rotation
  | compromise
  | device_loss
  | policy_update
  deriving DecidableEq

def RevocationReason.text : RevocationReason → JsString
  | .rotation => js "rotation"
  | .compromise => js "compromise"
  | .device_loss => js "device_loss"
  | .policy_update => js "policy_update"

structure RevocationV1 where
  trust_id : TrustID
  revoked_key : JsString
  replacement_key : Option JsString
  reason_class : RevocationReason
  effective_at : RFC3339
  signature : HexSig

/-- The side of a proof step; the code handles texts other than the two of its type. -/
inductive ProofSide where
  | left
  | right
  | other (text : JsString) (h : text ≠ js "left" ∧ text ≠ js "right")
  deriving DecidableEq

def ProofSide.text : ProofSide → JsString
  | .left => js "left"
  | .right => js "right"
  | .other text _ => text

structure InclusionProofStep where
  side : ProofSide
  hash : Hex32
  deriving DecidableEq

inductive TreeKind where
  | event
  | receipt
  | attestation
  | revocation
  deriving DecidableEq

def TreeKind.text : TreeKind → JsString
  | .event => js "event"
  | .receipt => js "receipt"
  | .attestation => js "attestation"
  | .revocation => js "revocation"

structure InclusionProofV1 where
  tree_kind : TreeKind
  commitment : Hex32
  leaf_index : JsNumber
  leaf_hash : Hex32
  root : Hex32
  epoch_start_ms : JsNumber
  epoch_duration_ms : JsNumber
  shard : JsString
  path : List InclusionProofStep
  checkpoint_hash : Hex32

structure ConsistencyLink where
  checkpoint_hash : Hex32
  previous_checkpoint : Hex32
  epoch_start_ms : JsNumber

structure ConsistencyProofV1 where
  type : JsString
  shard : JsString
  from_checkpoint : Hex32
  to_checkpoint : Hex32
  chain : List ConsistencyLink
  auditor : Option TrustID
  signature : Option HexSig

structure BatchCheckpointV1 where
  epoch_start_ms : JsNumber
  epoch_duration_ms : JsNumber
  shard : JsString
  event_root : Hex32
  receipt_root : Hex32
  attestation_root : Hex32
  revocation_root : Hex32
  event_count : JsNumber
  receipt_count : JsNumber
  previous_checkpoint : Hex32
  checkpoint_identity_hash : Option Hex32
  settlement_backend : Option JsString
  settlement_tx : Option JsString
  relay_id : TrustID
  relay_signature : HexSig

structure SetNonMembershipProofV1 where
  type : JsString
  claim : JsString
  subject : TrustID
  set_root : Hex32
  value_commitment : Hex32
  tree_id : Option JsString
  tree_depth : Option JsNumber
  leaf_index_commitment : Option Hex32
  leaf_value_commitment : Option Hex32
  empty_leaf_commitment : Option Hex32
  root : Option Hex32
  root_checkpoint : Option Hex32
  lower_neighbor : Option Hex32
  upper_neighbor : Option Hex32
  leaf_index : Option JsNumber
  sibling_path : Option (List InclusionProofStep)
  proof : Hex32
  issued_at : RFC3339

/-- The entry of an optional field, left out when it is not set. -/
def optField (key : JsString) (f : α → JsValue) (value : Option α) : JsObject :=
  match value with
  | some value => [(key, f value)]
  | none => []

def VerificationMethodV1.toJs (m : VerificationMethodV1) : JsValue :=
  .obj ([(js "id", JsValue.str m.id), (js "type", .str m.type.text),
    (js "public_key", .str m.public_key), (js "status", .str m.status.text),
    (js "created_at", .str m.created_at)] ++ optField (js "expires_at") .str m.expires_at ++
    optField (js "revoked_at") .str m.revoked_at)

def IdentityDocumentV1.toJs (d : IdentityDocumentV1) : JsValue :=
  .obj ([(js "type", JsValue.str (js "tsl.identity.v1")), (js "id", .str d.id),
    (js "controller", .str d.controller), (js "created_at", .str d.created_at),
    (js "verification_methods", .arr (d.verification_methods.map VerificationMethodV1.toJs))] ++
    optField (js "recovery") .obj d.recovery ++
    optField (js "privacy_policy_commitment") .str d.privacy_policy_commitment)

def EventCommitmentV1.toFields (e : EventCommitmentV1) : JsObject :=
  [(js "type", JsValue.str (js "tsl.event_commitment.v1")),
    (js "event_class", .str e.event_class.text),
    (js "sender", .str e.sender), (js "signing_key_id", .str e.signing_key_id)] ++
    optField (js "receiver_commitment") .str e.receiver_commitment ++
    [(js "content_commitment", JsValue.str e.content_commitment)] ++
    optField (js "metadata_commitment") .str e.metadata_commitment ++
    optField (js "previous_event_commitment") .str e.previous_event_commitment ++
    [(js "timestamp", JsValue.str e.timestamp), (js "nonce", .str e.nonce),
    (js "disclosure_policy", .str e.disclosure_policy.text), (js "signature", .str e.signature)]

def ReceiptCommitmentV1.toFields (r : ReceiptCommitmentV1) : JsObject :=
  [(js "type", JsValue.str (js "tsl.receipt_commitment.v1")),
    (js "event_commitment", .str r.event_commitment), (js "receiver", .str r.receiver),
    (js "signing_key_id", .str r.signing_key_id), (js "receipt_class", .str r.receipt_class.text),
    (js "timestamp", .str r.timestamp)] ++
    optField (js "metadata_commitment") .str r.metadata_commitment ++
    [(js "signature", JsValue.str r.signature)]

def AttestationV1.toFields (a : AttestationV1) : JsObject :=
  [(js "type", JsValue.str (js "tsl.attestation.v1")), (js "issuer", .str a.issuer),
    (js "subject", .str a.subject), (js "attestation_class", .str a.attestation_class),
    (js "claim_commitment", .str a.claim_commitment), (js "visibility", .str a.visibility.text),
    (js "issued_at", .str a.issued_at)] ++ optField (js "expires_at") .str a.expires_at ++
    [(js "signature", JsValue.str a.signature)]

def RevocationV1.toFields (r : RevocationV1) : JsObject :=
  [(js "type", JsValue.str (js "tsl.revocation.v1")), (js "trust_id", .str r.trust_id),
    (js "revoked_key", .str r.revoked_key)] ++
    optField (js "replacement_key") .str r.replacement_key ++
    [(js "reason_class", JsValue.str r.reason_class.text), (js "effective_at", .str r.effective_at),
    (js "signature", .str r.signature)]

def InclusionProofStep.toJs (step : InclusionProofStep) : JsValue :=
  .obj [(js "side", .str step.side.text), (js "hash", .str step.hash)]

def InclusionProofV1.toJs (p : InclusionProofV1) : JsValue :=
  .obj [(js "type", .str (js "tsl.inclusion_proof.v1")), (js "tree_kind", .str p.tree_kind.text),
    (js "commitment", .str p.commitment), (js "leaf_index", .num p.leaf_index),
    (js "leaf_hash", .str p.leaf_hash), (js "root", .str p.root),
    (js "epoch_start_ms", .num p.epoch_start_ms),
    (js "epoch_duration_ms", .num p.epoch_duration_ms), (js "shard", .str p.shard),
    (js "path", .arr (p.path.map InclusionProofStep.toJs)),
    (js "checkpoint_hash", .str p.checkpoint_hash)]

def ConsistencyLink.toJs (link : ConsistencyLink) : JsValue :=
  .obj [(js "checkpoint_hash", .str link.checkpoint_hash),
    (js "previous_checkpoint", .str link.previous_checkpoint),
    (js "epoch_start_ms", .num link.epoch_start_ms)]

def ConsistencyProofV1.toJs (p : ConsistencyProofV1) : JsValue :=
  .obj ([(js "type", JsValue.str p.type), (js "shard", .str p.shard),
    (js "from_checkpoint", .str p.from_checkpoint), (js "to_checkpoint", .str p.to_checkpoint),
    (js "chain", .arr (p.chain.map ConsistencyLink.toJs))] ++
    optField (js "auditor") .str p.auditor ++ optField (js "signature") .str p.signature)

def BatchCheckpointV1.toFields (c : BatchCheckpointV1) : JsObject :=
  [(js "type", JsValue.str (js "tsl.batch_checkpoint.v1")),
    (js "epoch_start_ms", .num c.epoch_start_ms),
    (js "epoch_duration_ms", .num c.epoch_duration_ms), (js "shard", .str c.shard),
    (js "event_root", .str c.event_root), (js "receipt_root", .str c.receipt_root),
    (js "attestation_root", .str c.attestation_root),
    (js "revocation_root", .str c.revocation_root), (js "event_count", .num c.event_count),
    (js "receipt_count", .num c.receipt_count),
    (js "previous_checkpoint", .str c.previous_checkpoint)] ++
    optField (js "checkpoint_identity_hash") .str c.checkpoint_identity_hash ++
    optField (js "settlement_backend") .str c.settlement_backend ++
    optField (js "settlement_tx") .str c.settlement_tx ++
    [(js "relay_id", JsValue.str c.relay_id), (js "relay_signature", .str c.relay_signature)]

def SetNonMembershipProofV1.toJs (p : SetNonMembershipProofV1) : JsValue :=
  .obj ([(js "type", JsValue.str p.type), (js "claim", .str p.claim),
    (js "subject", .str p.subject),
    (js "set_root", .str p.set_root), (js "value_commitment", .str p.value_commitment)] ++
    optField (js "tree_id") .str p.tree_id ++ optField (js "tree_depth") .num p.tree_depth ++
    optField (js "leaf_index_commitment") .str p.leaf_index_commitment ++
    optField (js "leaf_value_commitment") .str p.leaf_value_commitment ++
    optField (js "empty_leaf_commitment") .str p.empty_leaf_commitment ++
    optField (js "root") .str p.root ++ optField (js "root_checkpoint") .str p.root_checkpoint ++
    optField (js "lower_neighbor") .str p.lower_neighbor ++
    optField (js "upper_neighbor") .str p.upper_neighbor ++
    optField (js "leaf_index") .num p.leaf_index ++
    optField (js "sibling_path") (fun path => .arr (path.map InclusionProofStep.toJs))
      p.sibling_path ++
    [(js "proof", JsValue.str p.proof), (js "issued_at", .str p.issued_at)])

/-- The variables of `process.env`. -/
abbrev ProcessEnv := JsString → Option JsString

end Continuity
