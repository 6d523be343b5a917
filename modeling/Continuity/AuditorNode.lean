import Continuity.CheckpointReadback
import Continuity.DurableLogs
import Continuity.SparseDigest

namespace Continuity
open Statements Program CheckpointRegistry LocalEvmSettlementBackend
set_option autoImplicit true

/-- `createSigningAdapter(uri).sign`. -/
def signingAdapter (N : Noble) (env : ProcessEnv) (readFile : JsString → Js JsString)
    (uri : JsString) (message : Hex32) : Js HexSig :=
  if (js "env:").isPrefixOf uri then
    let seed := env (uri.drop (js "env:").length)
    if truthy seed then signEd25519 N message (seed.getD [])
    else throw "Missing signing seed env var"
  else if (js "file:").isPrefixOf uri then do
    let seed ← readFile (uri.drop (js "file:").length)
    signEd25519 N message (trim seed)
  else if (js "kms:").isPrefixOf uri || (js "hsm:").isPrefixOf uri then
    throw "TSL_SIGNING_ADAPTER_UNAVAILABLE"
  else throw "Unsupported signing adapter URI"

inductive FindingClass where
  | checkpoint_valid
  | checkpoint_conflict
  | previous_checkpoint_broken
  | settlement_mismatch
  | settlement_missing
  | root_mismatch
  deriving DecidableEq

def FindingClass.text : FindingClass → JsString
  | .checkpoint_valid => js "checkpoint_valid"
  | .checkpoint_conflict => js "checkpoint_conflict"
  | .previous_checkpoint_broken => js "previous_checkpoint_broken"
  | .settlement_mismatch => js "settlement_mismatch"
  | .settlement_missing => js "settlement_missing"
  | .root_mismatch => js "root_mismatch"

/-- What a handler says about a checkpoint. -/
structure FindingInput where
  checkpoint_hash : Hex32
  epoch_start_ms : JsNumber
  shard : JsString
  finding_class : FindingClass
  severity : Severity
  evidence_commitment : Hex32

def FindingInput.finding (input : FindingInput) (auditor : TrustID) (issued_at : RFC3339)
    (signature : HexSig) : AuditFindingV1 where
  auditor
  checkpoint_hash := some input.checkpoint_hash
  severity := input.severity
  issued_at
  signature
  others := {
    entries := [(js "type", .str (js "tsl.audit.finding.v1")),
      (js "epoch_start_ms", .num input.epoch_start_ms), (js "shard", .str input.shard),
      (js "finding_class", .str input.finding_class.text),
      (js "evidence_commitment", .str input.evidence_commitment)]
    nodup := (by decide : [js "type", js "epoch_start_ms", js "shard", js "finding_class",
      js "evidence_commitment"].Nodup)
    fresh := (by decide : ∀ key ∈ [js "type", js "epoch_start_ms", js "shard", js "finding_class",
      js "evidence_commitment"], key ∉ [js "auditor", js "checkpoint_hash", js "severity",
        js "issued_at", js "signature"]) }

/-- The class that a finding was signed with. -/
def AuditFindingV1.finding_class (finding : AuditFindingV1) : Option JsString :=
  match fieldOf finding.toFields (js "finding_class") with
  | some (.str text) => some text
  | _ => none

def AuditFindingV1.Reports (finding : AuditFindingV1) (reported : FindingClass) : Prop :=
  finding.finding_class = some reported.text

instance : Decidable (AuditFindingV1.Reports finding reported) :=
  inferInstanceAs (Decidable (_ = _))

structure AuditRequest where
  checkpoint : BatchCheckpointV1
  checkpoint_hash : Option Hex32
  evidence_commitment : Option Hex32

structure AuditResponse where
  status : JsString
  finding : AuditFindingV1

structure ConflictResponse where
  status : JsString
  conflict : Bool
  finding : Option AuditFindingV1

/-- The parts that the auditor is created with; `rememberFinding` is what the database and the queue
make of a finding. -/
structure AuditorNode where
  noble : Noble
  env : ProcessEnv
  readFile : JsString → Js JsString
  repo : Option PostgresRepository
  settlement : Option CheckpointBackend
  rememberFinding : AuditFindingV1 → Js Unit

namespace AuditorNode

variable (node : AuditorNode)

def auditorSignature (hash : Hex32) : Js HexSig :=
  let adapterUri := node.env (js "TSL_AUDITOR_PRIVATE_KEY_URI")
  let seed := node.env (js "TSL_AUDITOR_SEED_HEX")
  if truthy adapterUri then
    signingAdapter node.noble node.env node.readFile (adapterUri.getD []) hash
  else if truthy seed then signEd25519 node.noble hash (seed.getD [])
  else throw "TSL_AUDITOR_PRIVATE_KEY_URI or TSL_AUDITOR_SEED_HEX is required to sign audit findings"

def signedFinding (now : RFC3339) (input : FindingInput) : Js AuditFindingV1 := do
  let auditor := (node.env (js "TSL_AUDITOR_ID")).getD (js "did:tsl:auditor:local")
  -- the hash leaves the signature out
  let hash ← auditFindingHash node.noble (input.finding auditor now [])
  let signature ← node.auditorSignature hash
  return input.finding auditor now signature

def settlementFindingClass (result : SettlementVerificationResult) : FindingClass :=
  if result.settled then .checkpoint_valid
  else if result.error = some "TSL_SETTLEMENT_MISMATCH" then .settlement_mismatch
  else .settlement_missing

def settlementResult (S : CheckpointRegistry) (checkpoint : BatchCheckpointV1) :
    SettlementVerificationResult :=
  match node.settlement with
  | some backend => backend.verifyCheckpointSettlement node.noble S checkpoint
  | none => ⟨false, some "TSL_SETTLEMENT_BACKEND_MISSING"⟩

/-- The hash that a finding names: the one in the request, or that of the checkpoint. -/
def requestedHash (request : AuditRequest) : Js Hex32 :=
  match request.checkpoint_hash with
  | some hash => return hash
  | none => checkpointHash node.noble request.checkpoint

/-- The finding that `POST /v1/audit/checkpoint` signs. -/
def checkpointFinding (S : CheckpointRegistry) (now : RFC3339) (request : AuditRequest) :
    Js AuditFindingV1 := do
  let settlementResult := node.settlementResult S request.checkpoint
  let checkpoint_hash ← node.requestedHash request
  node.signedFinding now {
    checkpoint_hash
    epoch_start_ms := request.checkpoint.epoch_start_ms
    shard := request.checkpoint.shard
    finding_class := settlementFindingClass settlementResult
    severity := if settlementResult.settled then .info else .warning
    evidence_commitment := request.evidence_commitment.getD ZERO_HASH }

def auditCheckpoint (S : CheckpointRegistry) (now : RFC3339) (request : AuditRequest) :
    Js AuditResponse := do
  let finding ← node.checkpointFinding S now request
  node.rememberFinding finding
  let status := if (node.settlementResult S request.checkpoint).settled then js "accepted"
    else js "rejected"
  return ⟨status, finding⟩

/-- What the auditor compares of two checkpoints. -/
def conflict (existing incoming : BatchCheckpointV1) : Bool :=
  existing.event_root != incoming.event_root || existing.receipt_root != incoming.receipt_root ||
    existing.attestation_root != incoming.attestation_root ||
    existing.revocation_root != incoming.revocation_root ||
    existing.previous_checkpoint != incoming.previous_checkpoint

def auditCheckpointConflict (now : RFC3339) (request : AuditRequest) : Sql ConflictResponse := do
  match node.repo with
  | none => lift (throw "TSL_DATABASE_URL or DATABASE_URL is required")
  | some repo => do
    let incoming := request.checkpoint
    let existing ← repo.getCheckpoint incoming.epoch_start_ms incoming.shard
    if existing.any (conflict · incoming) then
      let checkpoint_hash ← lift (node.requestedHash request)
      let finding ← lift (node.signedFinding now {
        checkpoint_hash
        epoch_start_ms := incoming.epoch_start_ms
        shard := incoming.shard
        finding_class := .checkpoint_conflict
        severity := .critical
        evidence_commitment := request.evidence_commitment.getD ZERO_HASH })
      lift (node.rememberFinding finding)
      pure ⟨js "rejected", true, some finding⟩
    else pure ⟨js "accepted", false, none⟩

end AuditorNode

/-- The computation does not fail with the message. -/
def Spares (message : String) (x : Js α) : Prop := x ≠ .error message

section Messages

variable {message : String}

theorem Spares.ok (a : α) : Spares message (.ok a : Js α) := nofun

theorem Spares.throw (h : text ≠ message) : Spares message (throw text : Js α) := by
  intro he
  exact h (Except.error.inj he)

theorem Spares.bind {x : Js α} {f : α → Js β} (hx : Spares message x)
    (hf : ∀ a, Spares message (f a)) : Spares message (x >>= f) := by
  cases x with
  | error text => exact fun he => hx (congrArg Except.error (Except.error.inj he))
  | ok a => exact hf a

theorem Spares.map {x : Js α} (hx : Spares message x) (f : α → β) : Spares message (f <$> x) := by
  cases x with
  | error text => exact fun he => hx (congrArg Except.error (Except.error.inj he))
  | ok a => exact Spares.ok (f a)

theorem Spares.ite {c : Prop} [Decidable c] {x y : Js α} (hx : Spares message x)
    (hy : Spares message y) : Spares message (if c then x else y) := by
  split
  · exact hx
  · exact hy

theorem joinFields_spares {fields : List (JsString × Js JsString)}
    (h : ∀ f ∈ fields, Spares message f.2) : Spares message (joinFields fields) := by
  induction fields with
  | nil => exact Spares.ok []
  | cons f rest ih =>
    rw [List.forall_mem_cons] at h
    exact h.1.bind fun _ => (ih h.2).bind fun _ => Spares.ok _

end Messages

/-- The text that the auditor compares the backend's error with. -/
abbrev MISMATCH : String := "TSL_SETTLEMENT_MISMATCH"

theorem fieldText_spares {entry : JsString × JsValue} (hp : entry.2.isObject = false)
    (hu : entry.2.isUndefined = false) : Spares MISMATCH (fieldText entry) := by
  obtain ⟨key, child⟩ := entry
  cases child with
  | null => exact Spares.ok _
  | undefined => cases hu
  | bool b => exact Spares.ok _
  | num n =>
    have htext : fieldText (key, .num n) = encodeNumber n := rfl
    rw [htext]
    unfold encodeNumber
    refine Spares.ite (Spares.throw (by decide)) ?_
    split
    · exact Spares.throw (by decide)
    · exact Spares.ok _
  | str s => exact Spares.ok _
  | arr items => cases hp
  | obj fields => cases hp

theorem checkpointHash_spares (N : Noble) (c : BatchCheckpointV1) :
    Spares MISMATCH (checkpointHash N c) := by
  rw [checkpointHash_eq, checkpointObjectHash, checkpointPayload, canonicalBytes, canonicalize,
    encodeCanonical, encodeFields_eq_map]
  refine Spares.bind (Spares.bind (Spares.bind (joinFields_spares ?_) fun _ => Spares.ok _)
    fun _ => Spares.ok _) fun _ => Spares.ok _
  intro f hf
  obtain ⟨entry, hentry, rfl⟩ := List.mem_map.mp ((sortKeys_perm _).mem_iff.mp hf)
  obtain ⟨hmem, -, hdefined⟩ := mem_coveredFields.mp hentry
  exact fieldText_spares ((toFields_checkpointObject c).primitive entry hmem) hdefined

theorem bigInt_spares (n : JsNumber) : Spares MISMATCH (bigInt n) := by
  rw [bigInt]
  split
  · exact Spares.ok _
  · exact Spares.throw (by decide)

theorem bytesLike_spares (text : JsString) : Spares MISMATCH (Abi.bytesLike text) :=
  Spares.ite (Spares.ok _) (Spares.throw (by decide))

theorem bytes32_spares (text : JsString) : Spares MISMATCH (Abi.bytes32 text) :=
  (bytesLike_spares text).bind fun _ => Spares.ite (Spares.throw (by decide)) (Spares.ok _)

theorem uint64_spares (z : Int) : Spares MISMATCH (Abi.uint64 z) :=
  Spares.ite (Spares.throw (by decide)) (Spares.ok _)

theorem uint32_spares (n : JsNumber) : Spares MISMATCH (Abi.uint32 n) := by
  refine Spares.bind ?_ fun _ => Spares.ok _
  rw [encodeUint]
  split
  · exact Spares.ite (Spares.throw (by decide))
      (Spares.ite (Spares.throw (by decide)) (Spares.ok _))
  · exact Spares.throw (by decide)

theorem shardToBytes32_spares (shard : JsString) : Spares MISMATCH (shardToBytes32 shard) :=
  Spares.ite (Spares.throw (by decide))
    ((bytesLike_spares _).bind fun _ => Spares.ite (Spares.throw (by decide)) (Spares.ok _))

theorem encode_spares (input : ContractInput) : Spares MISMATCH input.encode :=
  (uint64_spares _).bind fun _ => (uint32_spares _).bind fun _ => (bytes32_spares _).bind fun _ =>
    (bytes32_spares _).bind fun _ => (bytes32_spares _).bind fun _ => (bytes32_spares _).bind fun _ =>
    (bytes32_spares _).bind fun _ => (uint64_spares _).bind fun _ => (uint64_spares _).bind fun _ =>
    (bytes32_spares _).bind fun _ => (bytes32_spares _).bind fun _ => (bytes32_spares _).bind fun _ =>
    (bytes32_spares _).bind fun _ => Spares.ok _

namespace CheckpointBackend

variable {B : CheckpointBackend} {N : Noble} {c : BatchCheckpointV1}

/-- The registry has a record of the checkpoint's epoch and shard. -/
def Records (B : CheckpointBackend) (S : CheckpointRegistry) (checkpoint : BatchCheckpointV1)
    (stored : ContractCheckpoint) : Prop :=
  B.readStoredCheckpoint S checkpoint.epoch_start_ms checkpoint.shard = .ok stored ∧
    stored.submittedAt ≠ 0

/-- The fields in which a record differs from the checkpoint. -/
def recordDifferences (B : CheckpointBackend) (N : Noble) (checkpoint : BatchCheckpointV1)
    (stored : ContractCheckpoint) : Js (List String) := do
  let comparableCheckpoint := { checkpoint with
    settlement_backend := some (checkpoint.settlement_backend.getD B.settlementBackendId) }
  let mismatches ← B.checkpointMismatches N comparableCheckpoint stored
  let identityHash ← checkpointHash N comparableCheckpoint
  let input ← B.toContractCheckpointInput N comparableCheckpoint
  let call ← input.encode
  let fieldsHash := wordText (contractCheckpointFieldsHash B.evm call)
  return if stored.checkpointIdentityHash ≠ identityHash ∨
      stored.contractCheckpointFieldsHash ≠ fieldsHash then
    mismatches ++ ["checkpoint_identity_hash"] else mismatches

/-- The packages that the backend calls have messages of their own. -/
structure OwnMessages (B : CheckpointBackend) : Prop where
  id : ∀ text, Spares MISMATCH (B.ethers.id text)
  receipt : ∀ checkpoint, Spares MISMATCH (B.receiptSucceeded checkpoint)

theorem toContractCheckpointInput_spares (h : B.OwnMessages) (N : Noble) (c : BatchCheckpointV1) :
    Spares MISMATCH (B.toContractCheckpointInput N c) := by
  have hrelay : Spares MISMATCH (B.relayIdToBytes32 c.relay_id) :=
    Spares.ite (Spares.ok _) ((h.id _).map _)
  have hbackend : Spares MISMATCH (B.backendToBytes32 c.settlement_backend) :=
    Spares.ite ((h.id _).map _) (Spares.ok _)
  exact (bigInt_spares _).bind fun _ => (shardToBytes32_spares _).bind fun _ =>
    (bigInt_spares _).bind fun _ => (bigInt_spares _).bind fun _ =>
    (checkpointHash_spares N c).bind fun _ => hrelay.bind fun _ => hbackend.bind fun _ => Spares.ok _

theorem recordDifferences_spares (h : B.OwnMessages) (N : Noble) (c : BatchCheckpointV1)
    (stored : ContractCheckpoint) : Spares MISMATCH (B.recordDifferences N c stored) :=
  ((toContractCheckpointInput_spares h N _).bind fun _ => Spares.ok _).bind fun _ =>
    (checkpointHash_spares N _).bind fun _ => (toContractCheckpointInput_spares h N _).bind fun _ =>
    (encode_spares _).bind fun _ => Spares.ok _

/-- What is made of a record that was found. -/
theorem verifyCheckpointSettlement_record (h : B.Records S c stored) :
    B.verifyCheckpointSettlement N S c =
      match B.recordDifferences N c stored with
      | .error message => ⟨false, some message⟩
      | .ok [] => match B.receiptSucceeded c with
        | .ok settled => ⟨settled, none⟩
        | .error message => ⟨false, some message⟩
      | .ok mismatches =>
        ⟨false, some ("TSL_SETTLEMENT_MISMATCH:" ++ ",".intercalate mismatches)⟩ := by
  unfold verifyCheckpointSettlement recordDifferences
  simp only [h.1, ok_bind, if_neg h.2]
  generalize ({ c with settlement_backend := some _ } : BatchCheckpointV1) = comparableCheckpoint
  cases B.checkpointMismatches N comparableCheckpoint stored with
  | error message => rfl
  | ok mismatches =>
    cases checkpointHash N comparableCheckpoint with
    | error message => rfl
    | ok identityHash =>
      cases B.toContractCheckpointInput N comparableCheckpoint with
      | error message => rfl
      | ok input =>
        cases hcall : input.encode with
        | error message =>
          simp only [ok_bind, hcall]
          rfl
        | ok call =>
          simp only [ok_bind, hcall]
          by_cases hidentity : stored.checkpointIdentityHash ≠ identityHash ∨
              stored.contractCheckpointFieldsHash ≠ wordText (contractCheckpointFieldsHash B.evm call)
          · simp only [if_pos hidentity]
            cases mismatches with
            | nil => rfl
            | cons field rest => rfl
          · simp only [if_neg hidentity]
            cases mismatches with
            | nil => cases B.receiptSucceeded c <;> rfl
            | cons field rest => rfl

end CheckpointBackend

theorem FindingClass.text_injective : Function.Injective FindingClass.text := by
  intro a b h
  cases a <;> cases b <;> first
    | rfl
    | exact absurd h (by decide)

theorem FindingInput.finding_reports (input : FindingInput) (auditor : TrustID)
    (issued_at : RFC3339) (signature : HexSig) :
    (input.finding auditor issued_at signature).Reports reported ↔ input.finding_class = reported := by
  have hclass : (input.finding auditor issued_at signature).finding_class =
      some input.finding_class.text := rfl
  rw [AuditFindingV1.Reports, hclass, Option.some.injEq, FindingClass.text_injective.eq_iff]

namespace AuditorNode

variable {node : AuditorNode} {B : CheckpointBackend} {N : Noble}

theorem signedFinding_reports {input : FindingInput}
    (h : node.signedFinding now input = .ok finding) :
    finding.Reports reported ↔ input.finding_class = reported := by
  simp only [signedFinding, bind_eq_ok] at h
  obtain ⟨_, -, signature, -, h⟩ := h
  cases h
  exact input.finding_reports _ _ _

theorem checkpointFinding_reports (h : node.checkpointFinding S now request = .ok finding) :
    finding.Reports reported ↔
      settlementFindingClass (node.settlementResult S request.checkpoint) = reported := by
  obtain ⟨_, -, h⟩ := bind_eq_ok.mp h
  exact signedFinding_reports h

section Settlement

/-- The error of a backend that has found differences is never the bare code. -/
theorem mismatch_error_ne (fields : String) : "TSL_SETTLEMENT_MISMATCH:" ++ fields ≠ MISMATCH := by
  intro h
  have hlength := congrArg String.length h
  rw [String.length_append] at hlength
  have hcode : "TSL_SETTLEMENT_MISMATCH:".length = MISMATCH.length + 1 := by decide
  omega

/-- A record that was found is reported as valid or as missing. -/
theorem settlementFindingClass_record (hm : B.OwnMessages) (h : B.Records S c stored) :
    settlementFindingClass (B.verifyCheckpointSettlement N S c) =
      if B.recordDifferences N c stored = .ok [] ∧ B.receiptSucceeded c = .ok true then
        .checkpoint_valid
      else .settlement_missing := by
  have hdifferences := CheckpointBackend.recordDifferences_spares hm N c stored
  have hreceipt := hm.receipt c
  rw [CheckpointBackend.verifyCheckpointSettlement_record h]
  cases hd : B.recordDifferences N c stored with
  | error message =>
    rw [hd] at hdifferences
    have hmessage : message ≠ MISMATCH := fun he => hdifferences (congrArg Except.error he)
    simp [settlementFindingClass, hmessage]
  | ok differences =>
    cases differences with
    | nil =>
      cases hr : B.receiptSucceeded c with
      | error message =>
        rw [hr] at hreceipt
        have hmessage : message ≠ MISMATCH := fun he => hreceipt (congrArg Except.error he)
        simp [settlementFindingClass, hmessage]
      | ok settled => cases settled <;> simp [settlementFindingClass]
    | cons field rest => simp [settlementFindingClass, mismatch_error_ne]

/-- The finding says what the backend found on chain. -/
structure SettlementReported (node : AuditorNode) (S : CheckpointRegistry)
    (checkpoint : BatchCheckpointV1) (finding : AuditFindingV1) : Prop where
  mismatch : ∀ backend ∈ node.settlement, ∀ stored, backend.Records S checkpoint stored →
    ∀ differences, backend.recordDifferences node.noble checkpoint stored = .ok differences →
      differences ≠ [] → finding.Reports .settlement_mismatch
  missing : finding.Reports .settlement_missing →
    ∀ backend ∈ node.settlement, ∀ stored, ¬backend.Records S checkpoint stored

theorem settlementReported_iff (hm : ∀ backend ∈ node.settlement, backend.OwnMessages)
    (h : node.checkpointFinding S now request = .ok finding) :
    node.SettlementReported S request.checkpoint finding ↔
      ∀ backend ∈ node.settlement, ∀ stored, backend.Records S request.checkpoint stored →
        backend.recordDifferences node.noble request.checkpoint stored = .ok [] ∧
          backend.receiptSucceeded request.checkpoint = .ok true := by
  have hclass {backend stored} (hb : backend ∈ node.settlement)
      (hr : backend.Records S request.checkpoint stored) :
      settlementFindingClass (node.settlementResult S request.checkpoint) =
        if backend.recordDifferences node.noble request.checkpoint stored = .ok [] ∧
            backend.receiptSucceeded request.checkpoint = .ok true then .checkpoint_valid
        else .settlement_missing := by
    rw [settlementResult, Option.mem_def.mp hb]
    exact settlementFindingClass_record (hm backend hb) hr
  constructor
  · intro hreported backend hb stored hr
    by_contra hnot
    have hmissing : finding.Reports .settlement_missing := by
      rw [checkpointFinding_reports h, hclass hb hr, if_neg hnot]
    exact hreported.missing hmissing backend hb stored hr
  · intro hgood
    refine ⟨?_, ?_⟩
    · intro backend hb stored hr differences hd hne
      rw [(hgood backend hb stored hr).1] at hd
      exact absurd (Except.ok.inj hd).symm hne
    · intro hmissing backend hb stored hr
      rw [checkpointFinding_reports h, hclass hb hr, if_pos (hgood backend hb stored hr)] at hmissing
      cases hmissing

end Settlement

section Conflict

/-- What the auditor compares agrees. -/
structure SameLinks (existing incoming : BatchCheckpointV1) : Prop where
  event_root : existing.event_root = incoming.event_root
  receipt_root : existing.receipt_root = incoming.receipt_root
  attestation_root : existing.attestation_root = incoming.attestation_root
  revocation_root : existing.revocation_root = incoming.revocation_root
  previous_checkpoint : existing.previous_checkpoint = incoming.previous_checkpoint

/-- What the hash of a checkpoint covers and the auditor does not compare agrees. -/
structure SameContents (existing incoming : BatchCheckpointV1) : Prop where
  epoch_duration_ms : existing.epoch_duration_ms = incoming.epoch_duration_ms
  event_count : existing.event_count = incoming.event_count
  receipt_count : existing.receipt_count = incoming.receipt_count
  relay_id : existing.relay_id = incoming.relay_id
  settlement_backend : existing.settlement_backend = incoming.settlement_backend

variable {existing incoming : BatchCheckpointV1}

theorem conflict_iff : conflict existing incoming = true ↔ ¬SameLinks existing incoming := by
  rw [← Bool.not_eq_false, not_iff_not]
  simp only [conflict, Bool.or_eq_false_iff, bne_eq_false_iff_eq]
  exact ⟨fun ⟨⟨⟨⟨he, hr⟩, ha⟩, hv⟩, hp⟩ => ⟨he, hr, ha, hv, hp⟩, fun h =>
    ⟨⟨⟨⟨h.event_root, h.receipt_root⟩, h.attestation_root⟩, h.revocation_root⟩,
      h.previous_checkpoint⟩⟩

theorem definedField_settlement_backend (c : BatchCheckpointV1) :
    definedField c.toFields (js "settlement_backend") = c.settlement_backend.map .str := by
  obtain ⟨epoch, duration, shard, events, receipts, attestations, revocations, eventCount,
    receiptCount, previous, identity, backend, tx, relay, signature⟩ := c
  cases identity <;> cases backend <;> cases tx <;> rfl

/-- The fields that the hash covers agree. -/
def SameCovered (existing incoming : BatchCheckpointV1) : Prop :=
  ∀ key ∉ UNCOVERED_FIELDS, definedField existing.toFields key = definedField incoming.toFields key

theorem SameCovered.required (h : SameCovered existing incoming) (f : BatchCheckpointV1 → JsValue)
    (hk : key ∉ UNCOVERED_FIELDS) (hf : ∀ c : BatchCheckpointV1, (key, f c) ∈ c.toFields)
    (hd : ∀ c, (f c).isUndefined = false) : f existing = f incoming := by
  have hfield (c : BatchCheckpointV1) : definedField c.toFields key = some (f c) :=
    (definedField_some (toFields_checkpointObject c).keys).mpr ⟨hf c, hd c⟩
  have hsame := h key hk
  rw [hfield, hfield] at hsame
  exact Option.some.inj hsame

theorem SameCovered.text (h : SameCovered existing incoming) (f : BatchCheckpointV1 → JsString)
    (hk : key ∉ UNCOVERED_FIELDS) (hf : ∀ c : BatchCheckpointV1, (key, .str (f c)) ∈ c.toFields) :
    f existing = f incoming :=
  JsValue.str.inj (h.required (.str ∘ f) hk hf fun _ => rfl)

theorem SameCovered.number (h : SameCovered existing incoming) (f : BatchCheckpointV1 → JsNumber)
    (hk : key ∉ UNCOVERED_FIELDS) (hf : ∀ c : BatchCheckpointV1, (key, .num (f c)) ∈ c.toFields) :
    f existing = f incoming :=
  JsValue.num.inj (h.required (.num ∘ f) hk hf fun _ => rfl)

theorem SameCovered.links (h : SameCovered existing incoming) : SameLinks existing incoming where
  event_root := h.text BatchCheckpointV1.event_root (show js "event_root" ∉ _ by decide) fun c => by
    simp [BatchCheckpointV1.toFields]
  receipt_root := h.text BatchCheckpointV1.receipt_root (show js "receipt_root" ∉ _ by decide)
    fun c => by simp [BatchCheckpointV1.toFields]
  attestation_root := h.text BatchCheckpointV1.attestation_root
    (show js "attestation_root" ∉ _ by decide) fun c => by simp [BatchCheckpointV1.toFields]
  revocation_root := h.text BatchCheckpointV1.revocation_root
    (show js "revocation_root" ∉ _ by decide) fun c => by simp [BatchCheckpointV1.toFields]
  previous_checkpoint := h.text BatchCheckpointV1.previous_checkpoint
    (show js "previous_checkpoint" ∉ _ by decide) fun c => by simp [BatchCheckpointV1.toFields]

theorem SameCovered.contents (h : SameCovered existing incoming) :
    SameContents existing incoming where
  epoch_duration_ms := h.number BatchCheckpointV1.epoch_duration_ms
    (show js "epoch_duration_ms" ∉ _ by decide) fun c => by simp [BatchCheckpointV1.toFields]
  event_count := h.number BatchCheckpointV1.event_count (show js "event_count" ∉ _ by decide)
    fun c => by simp [BatchCheckpointV1.toFields]
  receipt_count := h.number BatchCheckpointV1.receipt_count
    (show js "receipt_count" ∉ _ by decide) fun c => by simp [BatchCheckpointV1.toFields]
  relay_id := h.text BatchCheckpointV1.relay_id (show js "relay_id" ∉ _ by decide) fun c => by
    simp [BatchCheckpointV1.toFields]
  settlement_backend := by
    have hsame := h (js "settlement_backend") (by decide)
    rw [definedField_settlement_backend, definedField_settlement_backend] at hsame
    exact Option.map_injective (fun _ _ => JsValue.str.inj) hsame

theorem checkpointHash_eq_iff (hslot : existing.epoch_start_ms = incoming.epoch_start_ms)
    (hshard : existing.shard = incoming.shard) (hs : checkpointHash N existing = .ok stored)
    (hi : checkpointHash N incoming = .ok given)
    (hinj : Set.InjOn (hashDomain N DOMAIN_TAGS.CHECKPOINT_V1)
      (CheckpointTexts existing.toFields incoming.toFields)) :
    stored = given ↔ SameLinks existing incoming ∧ SameContents existing incoming := by
  constructor
  · rintro rfl
    have hsame : SameCovered existing incoming := fun _ hk =>
      checkpointObjectHash_binds hinj (toFields_checkpointObject existing)
        (toFields_checkpointObject incoming) hs hi hk
    exact ⟨hsame.links, hsame.contents⟩
  · rintro ⟨hl, hc⟩
    have hsame : incoming = { existing with
        relay_signature := incoming.relay_signature
        settlement_tx := incoming.settlement_tx
        checkpoint_identity_hash := incoming.checkpoint_identity_hash } := by
      simp only [hslot, hshard, hl.event_root, hl.receipt_root, hl.attestation_root,
        hl.revocation_root, hl.previous_checkpoint, hc.epoch_duration_ms, hc.event_count,
        hc.receipt_count, hc.relay_id, hc.settlement_backend]
    rw [hsame, checkpointHash_rewritten, hs] at hi
    exact Except.ok.inj hi

/-- An answer about a stored checkpoint says whether the compared fields differ. -/
theorem auditCheckpointConflict_conflict {repo : PostgresRepository} (hrepo : repo ∈ node.repo)
    (hget : ((repo.getCheckpoint request.checkpoint.epoch_start_ms
      request.checkpoint.shard).run db).1 = .ok (some existing))
    (h : ((node.auditCheckpointConflict now request).run db).1 = .ok response) :
    response.conflict = conflict existing request.checkpoint := by
  rw [auditCheckpointConflict, Option.mem_def.mp hrepo] at h
  simp only [run_bind] at h
  split at h
  · next answer t hrun =>
    rw [hrun] at hget
    obtain rfl : answer = some existing := Except.ok.inj hget
    cases hconflict : conflict existing request.checkpoint with
    | false =>
      simp only [Option.any_some, hconflict, Bool.false_eq_true, if_false] at h
      cases h
      rfl
    | true =>
      simp only [Option.any_some, hconflict, if_true, run_bind, run_lift] at h
      -- a step that fails leaves no answer
      cases hhash : node.requestedHash request with
      | error e => simp [hhash] at h
      | ok checkpoint_hash =>
        simp only [hhash] at h
        split at h
        · split at h
          · cases h
            rfl
          · cases h
        · cases h
  · next e t hrun =>
    rw [hrun] at hget
    cases hget

end Conflict

/-- A finding about a settlement says what is on chain exactly when there is no record, or one that
agrees and has succeeded; a conflict is reported exactly when the hashes differ, except between
checkpoints with the same links and other contents. -/
theorem reported_iff (node : AuditorNode) :
    (∀ S now request finding, (∀ backend ∈ node.settlement, backend.OwnMessages) →
      node.checkpointFinding S now request = .ok finding →
      (node.SettlementReported S request.checkpoint finding ↔
        ∀ backend ∈ node.settlement, ∀ stored, backend.Records S request.checkpoint stored →
          backend.recordDifferences node.noble request.checkpoint stored = .ok [] ∧
            backend.receiptSucceeded request.checkpoint = .ok true)) ∧
    ∀ repo ∈ node.repo, ∀ now request db response existing stored given,
      ((repo.getCheckpoint request.checkpoint.epoch_start_ms request.checkpoint.shard).run db).1 =
        .ok (some existing) →
      existing.epoch_start_ms = request.checkpoint.epoch_start_ms →
      existing.shard = request.checkpoint.shard →
      ((node.auditCheckpointConflict now request).run db).1 = .ok response →
      checkpointHash node.noble existing = .ok stored →
      checkpointHash node.noble request.checkpoint = .ok given →
      Set.InjOn (hashDomain node.noble DOMAIN_TAGS.CHECKPOINT_V1)
        (CheckpointTexts existing.toFields request.checkpoint.toFields) →
      ((response.conflict = true ↔ stored ≠ given) ↔
        (SameLinks existing request.checkpoint → SameContents existing request.checkpoint)) := by
  refine ⟨fun S now request finding hm h => settlementReported_iff hm h, ?_⟩
  intro repo hrepo now request db response existing stored given hget hslot hshard h hs hi hinj
  rw [auditCheckpointConflict_conflict hrepo hget h, conflict_iff, ne_eq, not_iff_not,
    checkpointHash_eq_iff hslot hshard hs hi hinj, iff_self_and]

/-- Two hashes that differ leave nothing for the hash to collide on. -/
theorem injOn_of_hash_ne (hs : checkpointHash N existing = .ok stored)
    (hi : checkpointHash N incoming = .ok given) (hne : stored ≠ given) :
    Set.InjOn (hashDomain N DOMAIN_TAGS.CHECKPOINT_V1)
      (CheckpointTexts existing.toFields incoming.toFields) := by
  obtain ⟨a, ha, rfl⟩ := checkpointObjectHash_ok hs
  obtain ⟨b, hb, rfl⟩ := checkpointObjectHash_ok hi
  rintro x (hx | hx) y (hy | hy) he
  · exact Except.ok.inj (hx.symm.trans hy)
  · obtain rfl := Except.ok.inj (hx.symm.trans ha)
    obtain rfl := Except.ok.inj (hy.symm.trans hb)
    exact absurd he hne
  · obtain rfl := Except.ok.inj (hx.symm.trans hb)
    obtain rfl := Except.ok.inj (hy.symm.trans ha)
    exact absurd he.symm hne
  · exact Except.ok.inj (hx.symm.trans hy)

end AuditorNode

section Sample

/-- The checkpoint that the auditor is asked about: the registry's own answer for a settled one. -/
def auditRequest : AuditRequest where
  checkpoint := CheckpointBackend.readback settledCheckpoint relayWord
  checkpoint_hash := none
  evidence_commitment := none

def auditTime : RFC3339 := js "2026-05-25T00:00:00.000Z"

def missingFinding : FindingInput where
  checkpoint_hash := js "0x580238b45d07bde43efdfc7ab91fdffc8dd5a298cb029d02e650192f9a385fd8"
  epoch_start_ms := settledCheckpoint.epoch_start_ms
  shard := settledCheckpoint.shard
  finding_class := .settlement_missing
  severity := .warning
  evidence_commitment := ZERO_HASH

/-- The settled checkpoint with other events counted. -/
def countedCheckpoint : BatchCheckpointV1 := { settledCheckpoint with event_count := .ofNat 2 }

def auditNoble : Noble :=
  let finding := missingFinding.finding (js "did:tsl:auditor:local") auditTime []
  recorded
    [(domainMessage DOMAIN_TAGS.CHECKPOINT_V1 (checkpointText settledCheckpoint.toFields),
        wordBytes settledIdentity),
      (domainMessage DOMAIN_TAGS.CHECKPOINT_V1 (checkpointText auditRequest.checkpoint.toFields),
        bigEndian 32 0x580238b45d07bde43efdfc7ab91fdffc8dd5a298cb029d02e650192f9a385fd8),
      (domainMessage DOMAIN_TAGS.CHECKPOINT_V1 (checkpointText countedCheckpoint.toFields),
        bigEndian 32 0xa157990ea29d2b19221e8629a36d800588f9d41327f9f6f0c14366c7ad0618c6),
      (domainMessage DOMAIN_TAGS.AUDIT_FINDING_V1
          (valueBytes (.obj (withoutSignature finding.toFields))),
        bigEndian 32 0x8d2e490320bd9e3d7212eae1bb860d892969a8bf0acb82723466ebf9c9622fdb)]
    [(bigEndian 32 0xd4e1f35c1af98a17bd17a17ef71a0678369550909c771751781b1cb01561be45 ++
        bigEndian 32 0x5a486817f8515745a92b4a8c3cd7c788442c6441a056bdb77c673fd1663cc904,
      bigEndian 32 0x8d2e490320bd9e3d7212eae1bb860d892969a8bf0acb82723466ebf9c9622fdb,
      bigEndian 32 0x8139770ea87d175f56a35466c34c7ecccb8d8a91b4ee37a25df60f5b8fc9b394)]
    fun _ => List.replicate 32 255

def auditorNode : AuditorNode where
  noble := auditNoble
  env name :=
    if name = js "TSL_AUDITOR_SEED_HEX" then
      some (js "0202020202020202020202020202020202020202020202020202020202020202")
    else none
  readFile _ := .error "ENOENT: no such file or directory"
  repo := some (samplePostgres auditNoble)
  settlement := some settledBackend
  rememberFinding _ := .ok ()

/-- The registry once the checkpoint is settled. -/
def auditChain : CheckpointRegistry := settledRegistry.record settledEvm 1 12 settledCall

def settledRow : CheckpointRow where
  checkpoint_hash := wordText settledIdentity
  epoch_start_ms := 1779667200000
  epoch_duration_ms := 60000
  shard := js "0daa"
  event_root := ZERO_HASH
  receipt_root := ZERO_HASH
  attestation_root := ZERO_HASH
  revocation_root := ZERO_HASH
  event_count := 0
  receipt_count := 0
  previous_checkpoint := ZERO_HASH
  relay_id := js "did:tsl:relay"
  relay_signature := js "0x00"
  settlement_backend := some (js "eip155:31337")
  settlement_tx := none
  settlement_status := js "settled"

def auditDatabase : Database := { emptyDatabase with checkpoints := [settledRow] }

def countedRequest : AuditRequest := ⟨countedCheckpoint, none, none⟩

/-- The node signs that a settlement is missing where the registry has another record. -/
theorem auditorNode_finding :
    ∃ finding stored, auditorNode.checkpointFinding auditChain auditTime auditRequest =
        .ok finding ∧
      settledBackend.Records auditChain auditRequest.checkpoint stored ∧
      settledBackend.recordDifferences auditNoble auditRequest.checkpoint stored =
        .ok ["checkpoint_identity_hash"] ∧
      finding.Reports .settlement_missing ∧ ¬finding.Reports .settlement_mismatch := by
  have hrecord : (do
      let stored ← settledBackend.readStoredCheckpoint auditChain
        auditRequest.checkpoint.epoch_start_ms auditRequest.checkpoint.shard
      let differences ← settledBackend.recordDifferences auditNoble auditRequest.checkpoint stored
      return (stored.submittedAt, differences) : Js (Nat × List String)) =
        .ok (12, ["checkpoint_identity_hash"]) := by
    decide +kernel
  obtain ⟨stored, hread, hrecord⟩ := bind_eq_ok.mp hrecord
  obtain ⟨differences, hdifferences, hrecord⟩ := bind_eq_ok.mp hrecord
  obtain ⟨htime, rfl⟩ := Prod.mk.inj (Except.ok.inj hrecord)
  have hrecords : settledBackend.Records auditChain auditRequest.checkpoint stored :=
    ⟨hread, by omega⟩
  have hresult : auditorNode.settlementResult auditChain auditRequest.checkpoint =
      ⟨false, some "TSL_SETTLEMENT_MISMATCH:checkpoint_identity_hash"⟩ := by
    have hverify := CheckpointBackend.verifyCheckpointSettlement_record (N := auditNoble) hrecords
    rw [hdifferences] at hverify
    exact hverify
  have hclass : (do
      let checkpoint_hash ← auditorNode.requestedHash auditRequest
      auditorNode.signedFinding auditTime { missingFinding with checkpoint_hash } :
      Js AuditFindingV1).map AuditFindingV1.finding_class =
        .ok (some (js "settlement_missing")) := by
    decide +kernel
  have hrun : auditorNode.checkpointFinding auditChain auditTime auditRequest =
      (do
        let checkpoint_hash ← auditorNode.requestedHash auditRequest
        auditorNode.signedFinding auditTime { missingFinding with checkpoint_hash }) := by
    rw [AuditorNode.checkpointFinding, hresult]
    rfl
  rw [← hrun] at hclass
  obtain ⟨finding, hfinding, hclass⟩ := map_eq_ok.mp hclass
  refine ⟨finding, stored, hfinding, hrecords, hdifferences, hclass, ?_⟩
  rw [AuditFindingV1.Reports, hclass]
  decide

/-- The node answers that a checkpoint with another hash is no conflict. -/
theorem auditorNode_conflict :
    ∃ existing response stored given,
      (((samplePostgres auditNoble).getCheckpoint countedCheckpoint.epoch_start_ms
        countedCheckpoint.shard).run auditDatabase).1 = .ok (some existing) ∧
      existing.epoch_start_ms = countedCheckpoint.epoch_start_ms ∧
      existing.shard = countedCheckpoint.shard ∧
      ((auditorNode.auditCheckpointConflict auditTime countedRequest).run auditDatabase).1 =
        .ok response ∧
      checkpointHash auditNoble existing = .ok stored ∧
      checkpointHash auditNoble countedCheckpoint = .ok given ∧
      stored ≠ given ∧ response.conflict = false := by
  have hanswer : ((auditorNode.auditCheckpointConflict auditTime countedRequest).run
      auditDatabase).1.map ConflictResponse.conflict = .ok false := by
    decide +kernel
  have hstored : (((samplePostgres auditNoble).getCheckpoint countedCheckpoint.epoch_start_ms
      countedCheckpoint.shard).run auditDatabase).1.map (Option.map fun existing =>
        (existing.epoch_start_ms, existing.shard, checkpointHash auditNoble existing)) =
      .ok (some (countedCheckpoint.epoch_start_ms, countedCheckpoint.shard,
        .ok (wordText settledIdentity))) := by
    decide +kernel
  have hgiven : checkpointHash auditNoble countedCheckpoint =
      .ok (js "0xa157990ea29d2b19221e8629a36d800588f9d41327f9f6f0c14366c7ad0618c6") := by
    decide +kernel
  obtain ⟨response, hresponse, hconflict⟩ := map_eq_ok.mp hanswer
  obtain ⟨found, hget, hfound⟩ := map_eq_ok.mp hstored
  obtain ⟨existing, rfl, hexisting⟩ := Option.map_eq_some_iff.mp hfound
  simp only [Prod.mk.injEq] at hexisting
  obtain ⟨hepoch, hshard, hhash⟩ := hexisting
  exact ⟨existing, response, _, _, hget, hepoch, hshard, hresponse, hhash, hgiven, by decide +kernel,
    hconflict⟩

/-- A record that differs is reported as missing, and another count of events as no conflict. -/
theorem settled_reported_missing :
    (∃ finding stored, auditorNode.checkpointFinding auditChain auditTime auditRequest =
        .ok finding ∧
      settledBackend.Records auditChain auditRequest.checkpoint stored ∧
      settledBackend.recordDifferences auditNoble auditRequest.checkpoint stored =
        .ok ["checkpoint_identity_hash"] ∧
      finding.Reports .settlement_missing ∧ ¬finding.Reports .settlement_mismatch) ∧
    ∃ existing response stored given,
      (((samplePostgres auditNoble).getCheckpoint countedCheckpoint.epoch_start_ms
        countedCheckpoint.shard).run auditDatabase).1 = .ok (some existing) ∧
      existing.epoch_start_ms = countedCheckpoint.epoch_start_ms ∧
      existing.shard = countedCheckpoint.shard ∧
      ((auditorNode.auditCheckpointConflict auditTime countedRequest).run auditDatabase).1 =
        .ok response ∧
      checkpointHash auditNoble existing = .ok stored ∧
      checkpointHash auditNoble countedCheckpoint = .ok given ∧
      stored ≠ given ∧ response.conflict = false :=
  ⟨auditorNode_finding, auditorNode_conflict⟩

theorem reported_iff_sample :
    (∃ finding, auditorNode.checkpointFinding auditChain auditTime auditRequest = .ok finding ∧
      ¬auditorNode.SettlementReported auditChain auditRequest.checkpoint finding) ∧
    ∃ existing response stored given,
      (((samplePostgres auditNoble).getCheckpoint countedCheckpoint.epoch_start_ms
        countedCheckpoint.shard).run auditDatabase).1 = .ok (some existing) ∧
      ((auditorNode.auditCheckpointConflict auditTime countedRequest).run auditDatabase).1 =
        .ok response ∧
      checkpointHash auditNoble existing = .ok stored ∧
      checkpointHash auditNoble countedCheckpoint = .ok given ∧
      (response.conflict = true → stored ≠ given) ∧
      ¬(AuditorNode.SameLinks existing countedCheckpoint →
        AuditorNode.SameContents existing countedCheckpoint) := by
  refine ⟨?_, ?_⟩
  · obtain ⟨finding, stored, hfinding, hrecords, hdifferences, -⟩ := auditorNode_finding
    have hmessages : ∀ backend ∈ auditorNode.settlement, backend.OwnMessages := by
      rintro backend ⟨⟩
      exact ⟨fun _ => Spares.ok _, fun _ => Spares.ok _⟩
    refine ⟨finding, hfinding, fun hreported => ?_⟩
    have hagrees := ((AuditorNode.reported_iff auditorNode).1 auditChain auditTime auditRequest finding
      hmessages hfinding).mp hreported settledBackend rfl stored hrecords
    rw [auditorNode, hdifferences] at hagrees
    exact absurd hagrees.1 (by simp)
  · obtain ⟨existing, response, stored, given, hget, hepoch, hshard, hresponse, hs, hi, hne,
      hconflict⟩ := auditorNode_conflict
    have hreports := (AuditorNode.reported_iff auditorNode).2 (samplePostgres auditNoble) rfl auditTime
      countedRequest auditDatabase response existing stored given hget hepoch hshard hresponse hs hi
      (AuditorNode.injOn_of_hash_ne hs hi hne)
    refine ⟨existing, response, stored, given, hget, hresponse, hs, hi, fun _ => hne, fun h => ?_⟩
    have hreported := (hreports.mpr h).mpr hne
    rw [hconflict] at hreported
    cases hreported

end Sample

end Continuity
