import Continuity.CheckpointReadback
import Continuity.DriftReport

namespace Continuity
open Collections LocalEvmSettlementBackend
set_option autoImplicit true

structure CheckpointImportValidationInput where
  checkpoint : BatchCheckpointV1
  resolver : TrustResolver
  previous_checkpoint : Option BatchCheckpointV1
  existing_checkpoint : Option BatchCheckpointV1
  authorized_relays : Option (List TrustID)
  require_authorized_relay : Option Bool
  require_settlement_evidence_for_settled : Option Bool
  settlement_evidence : Option (List SettlementEvidenceV1)
  at_time : Option RFC3339

structure CheckpointImportValidationResult where
  ok : Bool
  checkpoint_hash : Hex32
  error_code : Option String
  errors : List String

namespace CheckpointImport

def errorWhen (failed : Bool) (code : String) : List String := if failed then [code] else []

section Import

variable (B : LocalEvmSettlementBackend) (H : Host)

/-- Why a piece of evidence does not settle the checkpoint, `none` when it does. -/
def settlementEvidenceError (checkpoint : BatchCheckpointV1) (checkpointHashValue : Hex32)
    (evidence : Option SettlementEvidenceV1) : Js (Option String) := do
  let some e := evidence | return some "TSL_SETTLEMENT_EVIDENCE_INVALID"
  if !(H.validateSchema .settlementEvidenceV1 e.toJs).valid then
    return some "TSL_SETTLEMENT_EVIDENCE_INVALID"
  if e.status ≠ .settled ∨ e.receipt_status ≠ some .success then
    return some "TSL_SETTLEMENT_EVIDENCE_INVALID"
  if e.checkpoint_hash ≠ checkpointHashValue ∨ e.checkpoint_identity_hash ≠ checkpointHashValue then
    return some "TSL_SETTLEMENT_EVIDENCE_INVALID"
  let fieldsHash ← B.contractCheckpointFieldsHashForCheckpoint H.noble checkpoint
  if e.contract_checkpoint_fields_hash ≠ fieldsHash then
    return some "TSL_SETTLEMENT_EVIDENCE_INVALID"
  if truthy checkpoint.settlement_backend ∧
      some e.settlement_backend ≠ checkpoint.settlement_backend then
    return some "TSL_SETTLEMENT_EVIDENCE_INVALID"
  if truthy checkpoint.settlement_tx ∧ some e.settlement_tx ≠ checkpoint.settlement_tx then
    return some "TSL_SETTLEMENT_EVIDENCE_INVALID"
  if !truthy e.transaction_receipt_hash || !truthy e.block_hash || !truthy e.receipt_root ||
      !truthy e.receipt_proof_source_commitment || !truthy e.finality_source_commitment then
    return some "TSL_SETTLEMENT_EVIDENCE_INVALID"
  return none

/-- A candidate that has one of the three names of the checkpoint. -/
def named (checkpoint : BatchCheckpointV1) (checkpoint_hash : Hex32)
    (candidate : SettlementEvidenceV1) : Bool :=
  candidate.checkpoint_identity_hash = checkpoint_hash ||
    candidate.checkpoint_hash = checkpoint_hash ||
    some candidate.settlement_tx = checkpoint.settlement_tx

/-- The settlement part of `validateCheckpointImport`. -/
def settlementErrors (input : CheckpointImportValidationInput) (checkpoint_hash : Hex32) :
    Js (List String) :=
  if truthy input.checkpoint.settlement_tx &&
      isOn input.require_settlement_evidence_for_settled then do
    let evidence := (input.settlement_evidence.getD []).find?
      (named input.checkpoint checkpoint_hash)
    let evidenceError ← settlementEvidenceError B H input.checkpoint checkpoint_hash evidence
    return evidenceError.toList
  else return []

/-- The errors of the checkpoint itself, of its place in the chain and of its relay. -/
def checkpointErrors (input : CheckpointImportValidationInput) (checkpoint_hash : Hex32) :
    Js (List String) := do
  let checkpoint := input.checkpoint
  let schemaErrors := errorWhen
    (!(H.validateSchema .checkpoint (.obj checkpoint.toFields)).valid) "TSL_CHECKPOINT_SCHEMA_INVALID"
  let identityErrors := errorWhen (truthy checkpoint.checkpoint_identity_hash &&
    checkpoint.checkpoint_identity_hash != some checkpoint_hash) "TSL_CHECKPOINT_IDENTITY_MISMATCH"
  let conflictErrors ← match input.existing_checkpoint with
    | some existing => do
      let hash ← checkpointHash H.noble existing
      pure (errorWhen (hash != checkpoint_hash) "TSL_CHECKPOINT_CONFLICT")
    | none => pure []
  let chainErrors ← match input.previous_checkpoint with
    | some previous => do
      let hash ← checkpointHash H.noble previous
      pure (errorWhen (checkpoint.previous_checkpoint != hash) "TSL_CHECKPOINT_CHAIN_BROKEN")
    | none => pure []
  let atTime ← match input.at_time with
    | some atTime => pure atTime
    | none => isoTime checkpoint.epoch_start_ms
  let relayIdentity ← input.resolver checkpoint.relay_id atTime
  let relayKey := relayIdentity.bind fun identity => identity.verification_methods.find? fun method =>
    method.type = .ed25519 && keyActiveAt H method atTime && notRevokedAt H method atTime
  let signed ← match relayKey with
    | some key => verifyEd25519 H.noble key.public_key checkpoint_hash checkpoint.relay_signature
    | none => pure false
  return schemaErrors ++ identityErrors ++ conflictErrors ++ chainErrors ++
    errorWhen (!signed) "TSL_CHECKPOINT_SIGNATURE_INVALID" ++
    errorWhen (isOn input.require_authorized_relay &&
      !(input.authorized_relays.getD []).contains checkpoint.relay_id) "TSL_RELAY_NOT_AUTHORIZED"

def validateCheckpointImport (input : CheckpointImportValidationInput) :
    Js CheckpointImportValidationResult := do
  let checkpoint_hash ← checkpointHash H.noble input.checkpoint
  let own ← checkpointErrors H input checkpoint_hash
  let settlement ← settlementErrors B H input checkpoint_hash
  let errors := own ++ settlement
  return {
    ok := errors.isEmpty
    checkpoint_hash
    error_code := errors.head?
    errors }

end Import

section Selection

/-- Where everything valid matches, taking the first match finds something valid whenever there is
something exactly if no invalid match stands before the first valid entry. -/
theorem first_match_valid_iff (xs : List α) {matches_ : α → Bool} {Valid : α → Prop}
    (hv : ∀ x ∈ xs, Valid x → matches_ x = true) :
    ((∃ x, xs.find? matches_ = some x ∧ Valid x) ↔ ∃ x ∈ xs, Valid x) ↔
      ∀ pre x post, xs = pre ++ x :: post → Valid x → (∀ y ∈ pre, ¬Valid y) →
        ∀ y ∈ pre, matches_ y = false := by
  constructor
  · intro h pre x post he hx hpre y hy
    obtain ⟨z, hfind, hz⟩ := h.mpr ⟨x, by simp [he], hx⟩
    obtain ⟨-, before, after, he', hbefore⟩ := List.find?_eq_some_iff_append.mp hfind
    rw [he'] at he
    -- the match stands at the valid entry or before it, and not before it since it is valid
    rcases List.append_eq_append_iff.mp he with ⟨rest, hrest, hcons⟩ | ⟨rest, hrest, -⟩
    · cases rest with
      | nil =>
        rw [List.append_nil] at hrest
        simpa using hbefore y (hrest ▸ hy)
      | cons w rest =>
        rw [List.cons_append, List.cons.injEq] at hcons
        exact absurd hz (hpre z (by simp [hrest, hcons.1]))
    · simpa using hbefore y (by simp [hrest, hy])
  · intro h
    refine ⟨fun ⟨x, hfind, hx⟩ => ⟨x, List.mem_of_find?_eq_some hfind, hx⟩, ?_⟩
    rintro ⟨x, hmem, hx⟩
    classical
    have hsome : (xs.find? fun y => decide (Valid y)).isSome = true :=
      List.find?_isSome.mpr ⟨x, hmem, decide_eq_true hx⟩
    obtain ⟨z, hfind⟩ := Option.isSome_iff_exists.mp hsome
    obtain ⟨hz, pre, post, he, hpre⟩ := List.find?_eq_some_iff_append.mp hfind
    have hz : Valid z := of_decide_eq_true hz
    have hno : ∀ y ∈ pre, matches_ y = false :=
      h pre z post he hz fun y hy => by simpa using hpre y hy
    refine ⟨z, List.find?_eq_some_iff_append.mpr ⟨hv z (by simp [he]) hz, pre, post, he, ?_⟩, hz⟩
    intro y hy
    rw [hno y hy]
    rfl

end Selection

section Settlement

variable {B : LocalEvmSettlementBackend} {H : Host} {input : CheckpointImportValidationInput}
  {checkpoint_hash : Hex32}

/-- The evidence settles the checkpoint. -/
def Settles (B : LocalEvmSettlementBackend) (H : Host) (checkpoint : BatchCheckpointV1)
    (checkpoint_hash : Hex32) (evidence : SettlementEvidenceV1) : Prop :=
  settlementEvidenceError B H checkpoint checkpoint_hash (some evidence) = .ok none

/-- What settles a checkpoint has its hash, so it is a candidate. -/
theorem Settles.named (h : Settles B H checkpoint checkpoint_hash e) :
    named checkpoint checkpoint_hash e = true := by
  rw [Settles, settlementEvidenceError] at h
  have hhash : e.checkpoint_hash = checkpoint_hash := by
    by_contra hne
    rw [if_pos (Or.inl hne)] at h
    split_ifs at h <;> cases h
  rw [CheckpointImport.named, hhash]
  simp

/-- The settlement part accepts exactly when the first candidate settles the checkpoint. -/
theorem settlementErrors_nil_iff (input : CheckpointImportValidationInput)
    (htx : truthy input.checkpoint.settlement_tx = true)
    (hr : isOn input.require_settlement_evidence_for_settled = true) :
    settlementErrors B H input checkpoint_hash = .ok [] ↔
      ∃ e, (input.settlement_evidence.getD []).find? (named input.checkpoint checkpoint_hash) =
        some e ∧ Settles B H input.checkpoint checkpoint_hash e := by
  rw [settlementErrors, htx, hr, Bool.and_self, if_pos rfl]
  dsimp only
  cases hfind : (input.settlement_evidence.getD []).find?
      (named input.checkpoint checkpoint_hash) with
  | none =>
    have hnone : settlementEvidenceError B H input.checkpoint checkpoint_hash none =
        .ok (some "TSL_SETTLEMENT_EVIDENCE_INVALID") := rfl
    rw [hnone]
    refine iff_of_false (fun h => ?_) fun ⟨_, hsome, _⟩ => Option.some_ne_none _ hsome.symm
    exact List.cons_ne_nil _ _ (Except.ok.inj h)
  | some e =>
    simp only [Option.some.injEq, exists_eq_left', Settles]
    cases settlementEvidenceError B H input.checkpoint checkpoint_hash (some e) with
    | error code => exact iff_of_false (fun h => by cases h) fun h => by cases h
    | ok error =>
      cases error with
      | none => exact iff_of_true rfl rfl
      | some code =>
        exact iff_of_false (fun h => List.cons_ne_nil _ _ (Except.ok.inj h)) fun h => by cases h

/-- No candidate that does not settle the checkpoint stands before the first evidence that does. -/
def NothingInTheWay (B : LocalEvmSettlementBackend) (H : Host) (checkpoint : BatchCheckpointV1)
    (checkpoint_hash : Hex32) (evidence : List SettlementEvidenceV1) : Prop :=
  ∀ pre e post, evidence = pre ++ e :: post → Settles B H checkpoint checkpoint_hash e →
    (∀ candidate ∈ pre, ¬Settles B H checkpoint checkpoint_hash candidate) →
    ∀ candidate ∈ pre, named checkpoint checkpoint_hash candidate = false

/-- An import is accepted when the checkpoint has no error of its own and the settlement part
accepts. -/
theorem validateCheckpointImport_ok_iff
    (h : validateCheckpointImport B H input = .ok R) :
    R.ok = true ↔ ∃ hash, checkpointHash H.noble input.checkpoint = .ok hash ∧
      checkpointErrors H input hash = .ok [] ∧ settlementErrors B H input hash = .ok [] := by
  obtain ⟨hash, hhash, h⟩ := bind_eq_ok.mp h
  obtain ⟨own, hown, h⟩ := bind_eq_ok.mp h
  obtain ⟨settlement, hsettlement, h⟩ := bind_eq_ok.mp h
  cases h
  simp only [hhash, Except.ok.injEq, exists_eq_left', hown, hsettlement, List.isEmpty_iff,
    List.append_eq_nil_iff]

/-- The settlement part finds evidence whenever there is some exactly when nothing stands in its
way; then further evidence and another order lose nothing while that stays so. -/
theorem settlement_some_evidence_iff (htx : truthy input.checkpoint.settlement_tx = true)
    (hr : isOn input.require_settlement_evidence_for_settled = true) :
    ((settlementErrors B H input checkpoint_hash = .ok [] ↔
        ∃ e ∈ input.settlement_evidence.getD [],
          Settles B H input.checkpoint checkpoint_hash e) ↔
      NothingInTheWay B H input.checkpoint checkpoint_hash (input.settlement_evidence.getD [])) ∧
    ∀ evidence, (∀ e ∈ input.settlement_evidence.getD [], e ∈ evidence) →
      NothingInTheWay B H input.checkpoint checkpoint_hash evidence →
      settlementErrors B H input checkpoint_hash = .ok [] →
      settlementErrors B H { input with settlement_evidence := some evidence } checkpoint_hash =
        .ok [] := by
  have hnamed (evidence : List SettlementEvidenceV1) : ∀ e ∈ evidence,
      Settles B H input.checkpoint checkpoint_hash e →
        named input.checkpoint checkpoint_hash e = true := fun _ _ h => h.named
  refine ⟨?_, fun evidence hsub hway haccepts => ?_⟩
  · rw [settlementErrors_nil_iff input htx hr]
    exact first_match_valid_iff _ (hnamed _)
  · obtain ⟨e, hfind, he⟩ := (settlementErrors_nil_iff input htx hr).mp haccepts
    have hmem : e ∈ evidence := hsub e (List.mem_of_find?_eq_some hfind)
    exact (settlementErrors_nil_iff { input with settlement_evidence := some evidence } htx hr).mpr
      (((first_match_valid_iff _ (hnamed evidence)).mpr hway).mpr ⟨e, hmem, he⟩)

end Settlement

section Sample

def importedCheckpoint : BatchCheckpointV1 :=
  { settledCheckpoint with settlement_tx := some (hex32 1) }

/-- Evidence for the imported checkpoint, in a state of its transaction. -/
def transactionEvidence (status : SettlementState) : SettlementEvidenceV1 where
  checkpoint_hash := wordText settledIdentity
  checkpoint_identity_hash := wordText settledIdentity
  settlement_backend := js "eip155:31337"
  chain_id := .ofNat 31337
  contract_address := js "0x5fbdb2315678afecb367f032d93f642f64180aa3"
  contract_checkpoint_hash := none
  contract_checkpoint_fields_hash :=
    js "0x080705278f97076a84bf41c663f6b57cdefdc94f599c279df80ddcc1756504d8"
  settlement_tx := hex32 1
  evidence_kind := .rpc_attested_receipt
  block_header_rlp := none
  receipt_rlp := none
  receipt_proof_nodes := none
  finality_proof := none
  transaction_receipt_hash := some (hex32 3)
  block_hash := some (hex32 4)
  block_number := some (.ofNat 12)
  receipt_root := some (hex32 5)
  transaction_index := some (.ofNat 0)
  receipt_status := some .success
  chain_proof_commitment := some (hex32 8)
  settlement_event_hash := some (hex32 9)
  settlement_event_index := some (.ofNat 0)
  event_topic_hash := some (hex32 10)
  event_topics := none
  event_data := none
  log_index := some (.ofNat 0)
  receipt_proof_source_commitment := some (hex32 6)
  finality_source_commitment := some (hex32 7)
  submitter := js "0x70997970c51812dc3a010c7d01b50e0d17dc79c8"
  submitted_at := js "2026-05-25T00:00:00Z"
  status

def importInput (evidence : List SettlementEvidenceV1) : CheckpointImportValidationInput where
  checkpoint := importedCheckpoint
  resolver _ _ := .ok none
  previous_checkpoint := none
  existing_checkpoint := none
  authorized_relays := none
  require_authorized_relay := none
  require_settlement_evidence_for_settled := some true
  settlement_evidence := some evidence
  at_time := some (js "2026-05-25T00:00:00Z")

theorem importInput_runs :
    let B := settledBackend.toLocalEvmSettlementBackend
    let H := sampleHost settledNoble
    let submitted := transactionEvidence .submitted
    let settled := transactionEvidence .settled
    (checkpointHash settledNoble importedCheckpoint).toOption = some (wordText settledIdentity) ∧
      (settlementEvidenceError B H importedCheckpoint (wordText settledIdentity)
        (some settled)).toOption = some none ∧
      (settlementErrors B H (importInput [submitted, settled]) (wordText settledIdentity)).toOption =
        some ["TSL_SETTLEMENT_EVIDENCE_INVALID"] ∧
      (settlementErrors B H (importInput [settled, submitted]) (wordText settledIdentity)).toOption =
        some [] := by
  refine ⟨?_, ?_, ?_, ?_⟩ <;> decide +kernel

theorem ok_of_toOption {x : Js α} (h : x.toOption = some a) : x = .ok a := by
  cases x with
  | error e => cases h
  | ok b =>
    cases h
    rfl

theorem settled_settles :
    Settles settledBackend.toLocalEvmSettlementBackend (sampleHost settledNoble) importedCheckpoint
      (wordText settledIdentity) (transactionEvidence .settled) :=
  ok_of_toOption importInput_runs.2.1

/-- Evidence of the transaction as it was submitted, before its receipt came, is in the way of the
evidence that it is settled. -/
theorem submitted_in_the_way :
    ¬∀ (B : LocalEvmSettlementBackend) (H : Host) (input : CheckpointImportValidationInput)
        (checkpoint_hash : Hex32), truthy input.checkpoint.settlement_tx = true →
      isOn input.require_settlement_evidence_for_settled = true →
      checkpointHash H.noble input.checkpoint = .ok checkpoint_hash →
      (settlementErrors B H input checkpoint_hash = .ok [] ↔
        ∃ e ∈ input.settlement_evidence.getD [],
          Settles B H input.checkpoint checkpoint_hash e) := by
  intro h
  obtain ⟨hhash, -, hrejected, -⟩ := importInput_runs
  have haccepted := (h settledBackend.toLocalEvmSettlementBackend (sampleHost settledNoble)
    (importInput [transactionEvidence .submitted, transactionEvidence .settled])
    (wordText settledIdentity) rfl rfl (ok_of_toOption hhash)).mpr
    ⟨transactionEvidence .settled, List.mem_cons_of_mem _ List.mem_cons_self, settled_settles⟩
  rw [haccepted] at hrejected
  cases hrejected

theorem settlement_some_evidence_iff_sample :
    settlementErrors settledBackend.toLocalEvmSettlementBackend (sampleHost settledNoble)
      (importInput [transactionEvidence .settled, transactionEvidence .submitted])
      (wordText settledIdentity) = .ok [] := by
  refine ((settlement_some_evidence_iff rfl rfl).1.mpr ?_).mpr
    ⟨transactionEvidence .settled, List.mem_cons_self, settled_settles⟩
  intro pre e post he _ hpre candidate hmem
  cases pre with
  | nil => cases hmem
  | cons first pre =>
    have hfirst : transactionEvidence .settled = first := (List.cons.inj he).1
    exact absurd settled_settles (hfirst ▸ hpre first List.mem_cons_self)

end Sample

end CheckpointImport

end Continuity
