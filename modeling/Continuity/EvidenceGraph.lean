import Continuity.Identity
import Continuity.JsArithmetic
import Continuity.Reordering
import Continuity.Signing

namespace Continuity
open Collections Reordering
set_option autoImplicit true

/-- What the graph computations find around them, beside the host. -/
structure Engine where
  host : Host
  math : JsMath
  localeCompare : JsString → JsString → Ordering

inductive NegativeEdgeTreatment where
  | ignore
  | cap
  | signed
  deriving DecidableEq

inductive Projection where
  | undirected_sum
  | directed_outbound
  deriving DecidableEq

inductive Personalization where
  | trusted_seeds
  | subject
  | uniform
  deriving DecidableEq

structure CommunitySettings where
  algorithm : JsString
  resolution_bps : JsNumber
  min_cluster_size : JsNumber
  edge_weight_floor_bps : Option JsNumber
  max_passes : Option JsNumber
  approximation_tolerance_bps : Option JsNumber
  refinement_threshold_bps : Option JsNumber
  projection : Option Projection
  negative_edge_treatment : Option NegativeEdgeTreatment

structure NegativeEdgePolicy where
  requires_evidence_commitment : Bool
  requires_appeal_uri : Bool
  max_single_negative_weight_bps : JsNumber
  decay_days : JsNumber

structure PageRankSettings where
  iterations : JsNumber
  damping_bps : JsNumber
  personalization : Option Personalization

/-- A text by its type; the code also takes a table of weights. -/
inductive EdgeWeightProfile where
  | name (text : JsString)
  | weights (table : List (JsString × JsNumber))

/-- The fields of a graph profile that the graph computations read. -/
structure GraphSettings where
  profile_id : JsString
  edge_weight_profile : EdgeWeightProfile
  temporal_decay_profile : JsString
  community_detection : CommunitySettings
  negative_edge_policy : NegativeEdgePolicy
  edge_weights : Option (List (JsString × JsNumber))
  half_life_days : Option (List (JsString × JsNumber))
  issuer_quality_bps : Option (List (JsString × JsNumber))
  pagerank : Option PageRankSettings
  manifold_profile : Option ManifoldProfile

structure GraphEdgeV0 where
  src : TrustID
  dst : TrustID
  type : JsString
  timestamp : RFC3339
  weight_bps : JsNumber
  source_quality_bps : Option JsNumber
  decay_bps : Option JsNumber
  receipt_status_bps : Option JsNumber
  appeal_multiplier_bps : Option JsNumber
  community : Option JsString
  issuer : Option TrustID
  created_at : Option RFC3339
  evidence_hash : Option Hex32
  evidence_commitment : JsField Hex32
  appeal_uri : JsField JsString
  appeal_status : JsField JsString

/-- The entry of a property; one that is there without a value stays an entry. -/
def fieldEntry (key : JsString) (f : α → JsValue) : JsField α → JsObject
  | .absent => []
  | .undefined => [(key, .undefined)]
  | .null => [(key, .null)]
  | .value a => [(key, f a)]

def GraphEdgeV0.toFields (e : GraphEdgeV0) : JsObject :=
  ([(js "src", .str e.src), (js "dst", .str e.dst), (js "type", .str e.type),
    (js "timestamp", .str e.timestamp), (js "weight_bps", .num e.weight_bps)] : JsObject) ++
    optField (js "source_quality_bps") .num e.source_quality_bps ++
    optField (js "decay_bps") .num e.decay_bps ++
    optField (js "receipt_status_bps") .num e.receipt_status_bps ++
    optField (js "appeal_multiplier_bps") .num e.appeal_multiplier_bps ++
    optField (js "community") .str e.community ++ optField (js "issuer") .str e.issuer ++
    optField (js "created_at") .str e.created_at ++
    optField (js "evidence_hash") .str e.evidence_hash ++
    fieldEntry (js "evidence_commitment") .str e.evidence_commitment ++
    fieldEntry (js "appeal_uri") .str e.appeal_uri ++
    fieldEntry (js "appeal_status") .str e.appeal_status

def GraphEdgeV0.toJs (e : GraphEdgeV0) : JsValue := .obj e.toFields

structure GraphV0 where
  edges : List GraphEdgeV0
  nodes : List TrustID

def GraphV0.toJs (g : GraphV0) : JsValue :=
  .obj [(js "edges", .arr (g.edges.map GraphEdgeV0.toJs)), (js "nodes", textList g.nodes)]

section Edges

variable (E : Engine)

/-- `a.stamp.localeCompare(b.stamp) || text(a).localeCompare(text(b))`. -/
def compareStamped (stamp : α → RFC3339) (text : α → Js JsString) (a b : α) : Js Ordering :=
  match E.localeCompare (stamp a) (stamp b) with
  | .eq => do
    let left ← text a
    let right ← text b
    return E.localeCompare left right
  | order => return order

/-- `canonicalBytes(edge).join(",")`. -/
def edgeText (edge : GraphEdgeV0) : Js JsString := do
  let bytes ← canonicalBytes edge.toJs
  return joinComma (bytes.map fun b => natText b.toNat)

def graphFromVerifiedEdgesV0 (edgesInput : List GraphEdgeV0) : Js GraphV0 := do
  let edges ← sortM (compareStamped E GraphEdgeV0.timestamp edgeText) edgesInput
  return { edges, nodes := sortStrings (unique (edges.flatMap fun edge => [edge.src, edge.dst])) }

def includesUnits (text part : JsString) : Bool := decide (part <:+: text)

def isNegativeGraphEdge (edge : GraphEdgeV0) : Bool :=
  edge.type == js "disputed" || includesUnits edge.type (js "negative") ||
    includesUnits edge.type (js "scam_warning") || includesUnits edge.type (js "revoked") ||
    includesUnits edge.type (js "appealed_negative")

/-- The truth value of an optional text. -/
def JsField.isSet : JsField JsString → Bool
  | .value text => !text.isEmpty
  | _ => false

def negativeEvidenceAllowed (edge : GraphEdgeV0) (profile : GraphSettings) : Bool :=
  !isNegativeGraphEdge edge ||
    (!(profile.negative_edge_policy.requires_evidence_commitment &&
        !edge.evidence_commitment.isSet) &&
      !(profile.negative_edge_policy.requires_appeal_uri &&
        (!edge.appeal_uri.isSet || !edge.appeal_status.isSet)))

/-- `(edge_weights && edge_weights[type]) || edge_weight_profile[type]`. -/
def configuredWeight (profile : GraphSettings) (edgeType : JsString) : Option JsNumber :=
  match profile.edge_weights.bind (getEntry edgeType) with
  | some weight => if weight.truthy then some weight else tableWeight
  | none => tableWeight
where
  tableWeight : Option JsNumber :=
    match profile.edge_weight_profile with
    | .weights table => getEntry edgeType table
    | .name _ => none

def graphBaseWeightBps (profile : GraphSettings) (edgeType : JsString) : Nat :=
  match configuredWeight profile edgeType with
  | some weight => clampBps weight
  | none =>
    if edgeType = js "signed_event" then 1000
    else if edgeType = js "received" then 3000
    else if edgeType = js "replied" then 5000
    else if edgeType = js "transacted" ∨ edgeType = js "completed" then 10000
    else if edgeType = js "disputed" then 5000
    else if edgeType = js "delegation" then 4000
    else if includesUnits edgeType (js "attestation") then 7000
    else 1000

/-- `Math.max(0, Date.parse(atTime) - Date.parse(timestamp)) / 86400000`. -/
def ageDays (timestamp atTime : RFC3339) : JsNumber :=
  match E.host.parse atTime, E.host.parse timestamp with
  | some now, some then_ => (JsNumber.ofInt (max 0 (now - then_))).div (.ofNat 86400000)
  | _, _ => .nan

/-- `clampBps(Math.floor(10000 * 2 ** (-ageDays / halfLifeDays)))`. -/
def halvedBps (ageDays halfLifeDays : JsNumber) : Nat :=
  clampBps ((JsNumber.ofNat 10000).mul (E.math.pow (.ofNat 2) (ageDays.neg.div halfLifeDays))).floor

def defaultDecayProfile (profile : GraphSettings) : List (JsString × JsNumber) :=
  if profile.temporal_decay_profile = js "default_decay_v2" ∨
    profile.temporal_decay_profile = js "half-life-180d" then
    [(js "signed_event", .ofNat 90), (js "received", .ofNat 180), (js "replied", .ofNat 180),
      (js "transacted", .ofNat 365), (js "completed", .ofNat 365), (js "disputed", .ofNat 30),
      (js "attestation", .ofNat 180), (js "delegation", .ofNat 365),
      (js "code_release", .ofNat 365)]
  else []

def halfLifeDays (profile : GraphSettings) (edgeType : JsString) : Option JsNumber :=
  ((profile.half_life_days.bind (getEntry edgeType)).or
    (profile.half_life_days.bind (getEntry (js "attestation")))).or
    (getEntry edgeType (defaultDecayProfile profile))

def graphDecayBps (profile : GraphSettings) (edgeType : JsString) (timestamp atTime : RFC3339) :
    Nat :=
  match halfLifeDays profile edgeType with
  | none => 10000
  | some days =>
    if !days.truthy || days.le (.ofNat 0) then 10000
    else halvedBps E (ageDays E timestamp atTime) days

def negativeGraphDecayBps (profile : GraphSettings) (timestamp atTime : RFC3339) : Nat :=
  let days := profile.negative_edge_policy.decay_days
  if !days.truthy || days.le (.ofNat 0) then 10000
  else halvedBps E (ageDays E timestamp atTime) days

def issuerQualityBps (profile : GraphSettings) (issuer : TrustID) : Nat :=
  if issuer.isEmpty then 10000
  else clampBps ((profile.issuer_quality_bps.bind (getEntry issuer)).getD (.ofNat 10000))

end Edges

section Signatures

variable (H : Host) (resolver : TrustResolver)

def identityHasValidSignature (identity : TrustID) (signing_key_id : JsString)
    (timestamp : RFC3339) (hash : Hex32) (signature : HexSig) : Js Bool := do
  let document ← resolver identity timestamp
  match namedKey document signing_key_id with
  | some key =>
    guarded (key.type = .ed25519 && keyActiveAt H key timestamp && notRevokedAt H key timestamp)
      (verifyEd25519 H.noble key.public_key hash signature)
  | none => return false

def identityHasAnyActiveSignature (identity : TrustID) (timestamp : RFC3339) (hash : Hex32)
    (signature : HexSig) : Js Bool := do
  let document ← resolver identity timestamp
  match document with
  | some document =>
    document.verification_methods.anyM fun method =>
      guarded (method.type = .ed25519 && keyActiveAt H method timestamp &&
        notRevokedAt H method timestamp) (verifyEd25519 H.noble method.public_key hash signature)
  | none => return false

end Signatures

structure ReceiptDisputeMetadataV1 where
  evidence_commitment : Hex32
  appeal_uri : Option JsString
  appeal_status : Option JsString
  reversal_status : Option JsString

/-- The input of `constructGraphFromEvidenceV0`. -/
structure GraphEvidence where
  events : Option (List EventCommitmentV1)
  receipts : Option (List ReceiptCommitmentV1)
  attestations : Option (List AttestationV1)
  attestations_v2 : Option (List AttestationV2)
  receipt_disputes : Option (List (Hex32 × ReceiptDisputeMetadataV1))
  delegation_policies : Option (List DelegationPolicyV2)
  resolver : TrustResolver
  graph_profile : GraphSettings
  at_time : RFC3339
  event_receivers : Option (List (Hex32 × TrustID))
  strict_negative_evidence : Option Bool

/-- What the loops over the evidence have built. -/
structure GraphState where
  seenEventCommitments : List Hex32
  seenEventNonces : List JsString
  eventSenderByCommitment : OrderedMap Hex32 TrustID
  edges : List GraphEdgeV0

def GraphState.start : GraphState := ⟨[], [], .empty, []⟩

def GraphState.push (s : GraphState) (edges : List GraphEdgeV0) : GraphState :=
  { s with edges := s.edges ++ edges }

namespace AttestationV2

variable (a : AttestationV2)

/-- A text field that the graph reads; one that is missing is there without a value. -/
def textField (name : JsString) : JsField JsString :=
  match getField a.others.entries name with
  | .str text => .value text
  | .null => .null
  | _ => .undefined

def text (name : JsString) : JsString := ((a.textField name).toOption).getD []

def valid_after : RFC3339 := a.text (js "valid_after")
def expires_at : RFC3339 := a.text (js "expires_at")
def claim_class : JsString := a.text (js "claim_class")
def claim_polarity : JsString := a.text (js "claim_polarity")
def evidence_commitment : JsField Hex32 := a.textField (js "evidence_commitment")
def appeal_uri : JsField JsString := a.textField (js "appeal_uri")
def appeal_status : JsField JsString := a.textField (js "appeal_status")

end AttestationV2

section Loops

variable (E : Engine) (input : GraphEvidence)

def GraphEvidence.baseWeight (edgeType : JsString) : JsNumber :=
  .ofNat (graphBaseWeightBps input.graph_profile edgeType)

def decay (edgeType : JsString) (timestamp : RFC3339) : JsNumber :=
  .ofNat (graphDecayBps E input.graph_profile edgeType timestamp input.at_time)

def negativeDecay (timestamp : RFC3339) : JsNumber :=
  .ofNat (negativeGraphDecayBps E input.graph_profile timestamp input.at_time)

/-- An edge without the fields that only some kinds of evidence set. -/
def plainEdge (src dst : TrustID) (type : JsString) (timestamp : RFC3339)
    (weight_bps decay_bps : JsNumber) (evidence_hash : Hex32) : GraphEdgeV0 where
  src
  dst
  type
  timestamp
  weight_bps
  source_quality_bps := none
  decay_bps := some decay_bps
  receipt_status_bps := none
  appeal_multiplier_bps := none
  community := none
  issuer := none
  created_at := none
  evidence_hash := some evidence_hash
  evidence_commitment := .absent
  appeal_uri := .absent
  appeal_status := .absent

def eventEdges (event : EventCommitmentV1) (hash commitment : Hex32) : List GraphEdgeV0 :=
  match input.event_receivers.bind (getEntry commitment) with
  | some receiver =>
    if receiver.isEmpty then []
    else [plainEdge event.sender receiver (js "signed_event") event.timestamp
      (input.baseWeight (js "signed_event")) (decay E input (js "signed_event") event.timestamp)
      hash]
  | none => []

/-- What an event with a valid signature adds. -/
structure SignedEvent where
  commitment : Hex32
  replayKey : JsString
  sender : TrustID
  edges : List GraphEdgeV0

def signedEvent (event : EventCommitmentV1) : Js (Option SignedEvent) := do
  let hash ← eventHash E.host.noble event
  let valid ← identityHasValidSignature E.host input.resolver event.sender event.signing_key_id
    event.timestamp hash event.signature
  if !valid then return none
  let commitment ← commitmentHashFromParts E.host.noble hash event.signature
  return some {
    commitment
    replayKey := event.sender ++ js ":" ++ event.nonce
    sender := event.sender
    edges := eventEdges E input event hash commitment }

def GraphState.replays (s : GraphState) (event : SignedEvent) : Bool :=
  s.seenEventCommitments.contains event.commitment || s.seenEventNonces.contains event.replayKey

def GraphState.record (s : GraphState) (event : SignedEvent) : GraphState where
  seenEventCommitments := event.commitment :: s.seenEventCommitments
  seenEventNonces := event.replayKey :: s.seenEventNonces
  eventSenderByCommitment := s.eventSenderByCommitment.set event.commitment event.sender
  edges := s.edges ++ event.edges

def scanEvent (s : GraphState) (event : EventCommitmentV1) : Js GraphState := do
  match ← signedEvent E input event with
  | none => return s
  | some signed =>
    if s.replays signed then throw "TSL_GRAPH_EVENT_REPLAY_DETECTED"
    return s.record signed

/-- Negative evidence that is not complete is an error, or is left out. -/
def admitted (edge : GraphEdgeV0) : Js (List GraphEdgeV0) :=
  if negativeEvidenceAllowed edge input.graph_profile then return [edge]
  else if input.strict_negative_evidence != some false then
    throw "TSL_NEGATIVE_EVIDENCE_INCOMPLETE"
  else return []

/-- Push the edges of one item. -/
def collect (edges : α → Js (List GraphEdgeV0)) (s : GraphState) (item : α) : Js GraphState := do
  let edges ← edges item
  return s.push edges

def receiptDispute (receipt : ReceiptCommitmentV1) (hash : Hex32) :
    Option ReceiptDisputeMetadataV1 :=
  (input.receipt_disputes.bind (getEntry hash)).or
    (input.receipt_disputes.bind (getEntry receipt.event_commitment))

/-- A text that is only written when it is set. -/
def whenSet (text : Option JsString) : JsField JsString :=
  if truthy text then .value (text.getD []) else .absent

def receiptEdge (receipt : ReceiptCommitmentV1) (hash : Hex32) (sender : TrustID) :
    GraphEdgeV0 :=
  let dispute := receiptDispute input receipt hash
  let disputed := receipt.receipt_class.text == js "disputed"
  { plainEdge receipt.receiver sender receipt.receipt_class.text receipt.timestamp
      (input.baseWeight receipt.receipt_class.text)
      (if disputed then negativeDecay E input receipt.timestamp
        else decay E input receipt.receipt_class.text receipt.timestamp) hash with
    receipt_status_bps := some (.ofNat (if disputed then 5000 else 10000))
    evidence_commitment := whenSet
      ((dispute.map ReceiptDisputeMetadataV1.evidence_commitment).or receipt.metadata_commitment)
    appeal_uri := whenSet (dispute.bind ReceiptDisputeMetadataV1.appeal_uri)
    appeal_status := whenSet (dispute.bind ReceiptDisputeMetadataV1.appeal_status)
    appeal_multiplier_bps :=
      if dispute.bind ReceiptDisputeMetadataV1.reversal_status = some (js "reversed") then
        some (.ofNat 0)
      else if dispute.bind ReceiptDisputeMetadataV1.appeal_status = some (js "under_review") then
        some (.ofNat 5000)
      else none }

def receiptGraphSigned (receipt : ReceiptCommitmentV1) (hash : Hex32) : Js Bool :=
  identityHasValidSignature E.host input.resolver receipt.receiver receipt.signing_key_id
    receipt.timestamp hash receipt.signature

def receiptEdges (senderOf : Hex32 → Option TrustID) (receipt : ReceiptCommitmentV1) :
    Js (List GraphEdgeV0) := do
  let hash ← receiptHash E.host.noble receipt
  let valid ← receiptGraphSigned E input receipt hash
  let sender := senderOf receipt.event_commitment
  if !valid || !truthy sender then return []
  admitted input (receiptEdge E input receipt hash (sender.getD []))

def scanReceipt (s : GraphState) : ReceiptCommitmentV1 → Js GraphState :=
  collect (receiptEdges E input s.eventSenderByCommitment.get?) s

/-- The classes of a first version attestation that decay as negative evidence. -/
def negativeClass (attestation_class : JsString) : Bool :=
  includesUnits attestation_class (js "negative") ||
    includesUnits attestation_class (js "scam_warning") ||
    includesUnits attestation_class (js "revoked")

def attestationEdge (attestation : AttestationV1) (hash : Hex32) : GraphEdgeV0 :=
  { plainEdge attestation.issuer attestation.subject
      (js "attestation:" ++ attestation.attestation_class) attestation.issued_at
      (input.baseWeight (js "attestation"))
      (if negativeClass attestation.attestation_class then
        negativeDecay E input attestation.issued_at
        else decay E input (js "attestation") attestation.issued_at) hash with
    source_quality_bps := some (.ofNat (issuerQualityBps input.graph_profile attestation.issuer))
    issuer := some attestation.issuer
    evidence_commitment := .value attestation.claim_commitment }

def attestationGraphSigned (attestation : AttestationV1) (hash : Hex32) : Js Bool :=
  identityHasAnyActiveSignature E.host input.resolver attestation.issuer attestation.issued_at hash
    attestation.signature

/-- `expires_at && Date.parse(expires_at) <= Date.parse(at_time)`. -/
def attestationExpired (attestation : AttestationV1) : Bool :=
  truthy attestation.expires_at &&
    timeLe (E.host.parse (attestation.expires_at.getD [])) (E.host.parse input.at_time)

def attestationEdges (attestation : AttestationV1) : Js (List GraphEdgeV0) := do
  let hash ← attestationHash E.host.noble attestation
  let valid ← attestationGraphSigned E input attestation hash
  if !valid || attestationExpired E input attestation then return []
  admitted input (attestationEdge E input attestation hash)

/-- The multiplier of an appeal's state. -/
def appealMultiplier (appeal_status : JsField JsString) : Nat :=
  match appeal_status.toOption with
  | some status =>
    if status = js "reversed" then 0
    else if status = js "under_review" then 5000
    else if status = js "submitted" ∨ status = js "escalated" then 7500
    else 10000
  | none => 10000

def attestationV2Edge (attestation : AttestationV2) (hash : Hex32) : GraphEdgeV0 :=
  { plainEdge attestation.issuer attestation.subject
      (js "attestation:" ++ attestation.claim_polarity ++ js ":" ++ attestation.claim_class)
      attestation.issued_at (input.baseWeight (js "attestation"))
      (if attestation.claim_polarity = js "negative" then
        negativeDecay E input attestation.issued_at
        else decay E input (js "attestation") attestation.issued_at) hash with
    source_quality_bps := some (.ofNat (issuerQualityBps input.graph_profile attestation.issuer))
    issuer := some attestation.issuer
    evidence_commitment := attestation.evidence_commitment
    appeal_uri := attestation.appeal_uri
    appeal_status := attestation.appeal_status
    appeal_multiplier_bps := some (.ofNat (appealMultiplier attestation.appeal_status)) }

def attestationV2GraphSigned (attestation : AttestationV2) (hash : Hex32) : Js Bool :=
  identityHasValidSignature E.host input.resolver attestation.issuer attestation.signing_key_id
    attestation.issued_at hash attestation.signature

/-- Before `valid_after`, or from `expires_at` on. -/
def attestationV2Outside (attestation : AttestationV2) : Bool :=
  timeLt (E.host.parse input.at_time) (E.host.parse attestation.valid_after) ||
    timeLe (E.host.parse attestation.expires_at) (E.host.parse input.at_time)

def attestationV2Edges (attestation : AttestationV2) : Js (List GraphEdgeV0) := do
  let hash ← attestationV2Hash E.host.noble attestation
  let valid ← attestationV2GraphSigned E input attestation hash
  if !valid || attestationV2Outside E input attestation then return []
  admitted input (attestationV2Edge E input attestation hash)

def delegationEdge (policy : DelegationPolicyV2) (hash : Hex32) : GraphEdgeV0 :=
  plainEdge policy.principal policy.delegate (js "delegation") policy.valid_from
    (input.baseWeight (js "delegation")) (.ofNat 10000) hash

/-- The first key of the principal that is active by its state. -/
def delegationKey (document : Option IdentityDocumentV1) : Option VerificationMethodV1 :=
  document.bind fun document => document.verification_methods.find? fun method =>
    method.type = .ed25519 && method.status = .active

def delegationGraphSigned (policy : DelegationPolicyV2) : Js Bool := do
  let document ← input.resolver policy.principal policy.valid_from
  match delegationKey document with
  | some key =>
    if keyActiveAt E.host key policy.valid_from && notRevokedAt E.host key policy.valid_from then
      let hash ← delegationPolicyV2Hash E.host.noble policy
      verifyEd25519 E.host.noble key.public_key hash policy.signature
    else return false
  | none => return false

/-- Not an allowance, not valid yet or no longer. -/
def delegationOutside (policy : DelegationPolicyV2) : Bool :=
  policy.effect != .allow ||
    timeLt (E.host.parse input.at_time) (E.host.parse policy.valid_from) ||
    timeLe (E.host.parse policy.valid_until) (E.host.parse input.at_time)

def delegationEdges (policy : DelegationPolicyV2) : Js (List GraphEdgeV0) := do
  let valid ← delegationGraphSigned E input policy
  if !valid || delegationOutside E input policy then return []
  let hash ← delegationPolicyV2Hash E.host.noble policy
  return [delegationEdge input policy hash]

/-- The five loops over the evidence. -/
def scanEvidence : Js GraphState := do
  let s ← forSorted (compareStamped E EventCommitmentV1.timestamp (eventHash E.host.noble))
    (scanEvent E input) .start (input.events.getD [])
  let s ← forSorted (compareStamped E ReceiptCommitmentV1.timestamp (receiptHash E.host.noble))
    (scanReceipt E input) s (input.receipts.getD [])
  let s ← forSorted (compareStamped E AttestationV1.issued_at (attestationHash E.host.noble))
    (collect (attestationEdges E input)) s (input.attestations.getD [])
  let s ← forSorted (compareStamped E AttestationV2.issued_at (attestationV2Hash E.host.noble))
    (collect (attestationV2Edges E input)) s (input.attestations_v2.getD [])
  forSorted (compareStamped E DelegationPolicyV2.valid_from (delegationPolicyV2Hash E.host.noble))
    (collect (delegationEdges E input)) s (input.delegation_policies.getD [])

def constructGraphFromEvidenceV0 : Js GraphV0 := do
  let s ← scanEvidence E input
  graphFromVerifiedEdgesV0 E s.edges

end Loops

end Continuity
