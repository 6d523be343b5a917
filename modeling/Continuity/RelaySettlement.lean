import Continuity.MerkleComplete
import Continuity.RelayLog

namespace Continuity
open Collections Frames
set_option autoImplicit true

/-- The clock in one synchronous stretch, and what the backend does with a checkpoint it is sent
in it. -/
structure Moment extends Clock where
  submitCheckpoint : BatchCheckpointV1 → Js BatchCheckpointV1

def Relay.during (R : Relay) (m : Moment) : Relay :=
  { R.at m.toClock with
    options := { R.options with
      settlement_backend := R.options.settlement_backend.map fun backend =>
        { backend with submitCheckpoint := m.submitCheckpoint } } }

/-- The backend returns the checkpoint with nothing but a transaction added. -/
def Moment.AddsTransaction (m : Moment) : Prop :=
  ∀ checkpoint settled, m.submitCheckpoint checkpoint = .ok settled →
    ∃ tx, settled = { checkpoint with settlement_tx := some tx }

def RelaySystem.stepIn (R : Relay) (s : RelaySystem) (entry : Moment × RelayAction) :
    RelaySystem :=
  s.act (R.during entry.1) entry.2

/-- What the language says of `String(value)`: no colon, and another text for another number. -/
structure NumberText (H : Host) : Prop where
  plain : ∀ n, 58 ∉ numberString H n
  same : ∀ m n, m.strictEq n = true → numberString H m = numberString H n
  unique : ∀ m n, numberString H m = numberString H n → m.strictEq n = true ∨ m = n

/-- The commitments of the accepted events of a segment. -/
def segmentCommitments (epoch : JsNumber) (shard : JsString) (accepted : List AcceptedEvent) :
    List Hex32 :=
  (acceptedIn epoch shard accepted).map fun a => a.commitment_hash

/-- The checkpoint counts the commitments and carries the root of their tree. -/
structure Settles (N : Noble) (commitments : List Hex32) (checkpoint : BatchCheckpointV1) :
    Prop where
  root : ∃ tree, buildMerkleTree N commitments = .ok tree ∧ checkpoint.event_root = tree.root
  count : checkpoint.event_count = .ofNat commitments.length
  hash : ∃ hash, checkpointHash N checkpoint = .ok hash

/-- An event goes to the log only while no checkpoint of its segment is being settled. -/
def QuietSettlement (R : Relay) (s : RelaySystem) (entry : Moment × RelayAction) : Prop :=
  ∀ n call, entry.2 = .resumeEvent n → s.pending[n]? = some call → Admitted R s.store call →
    ∀ p ∈ s.submitting,
      ¬((R.epochStart (some call.eventTime)).strictEq p.epoch_start_ms = true ∧
        shardForTrustID R.noble call.event.sender = p.shard)

/-- What a step asks for so that a settled checkpoint stands for its segment. -/
def OrderlyStep (R : Relay) (s : RelaySystem) (entry : Moment × RelayAction) : Prop :=
  FreshResume R s (entry.1.toClock, entry.2) ∧ QuietSettlement R s entry

/-- A settled checkpoint stands for all the accepted events of its segment. -/
structure SettlementInvariant (R : Relay) (s : RelaySystem) : Prop where
  log : LogInvariant R s
  keyed : ∀ c a, s.store.events.get? c = some a → a.commitment_hash = c
  committed : ∀ a ∈ s.accepted, commitmentHash R.noble a.event = .ok a.commitment_hash
  timed : ∀ a ∈ s.accepted, a.epoch_start_ms.strictEq a.epoch_start_ms = true
  closed : ∀ key, s.store.closedSegments.has key = s.store.settledCheckpoints.has key
  settled : ∀ epoch shard checkpoint,
    s.store.settledCheckpoints.get? (checkpointStoreKey R.host epoch shard) = some checkpoint →
      Settles R.noble (segmentCommitments epoch shard s.accepted) checkpoint ∧
      s.store.closedSegments.get? (checkpointStoreKey R.host epoch shard) =
        some (segmentCommitments epoch shard s.accepted)
  submitting : ∀ call ∈ s.submitting, ∀ checkpoint, call.settled = .ok checkpoint →
    Settles R.noble (segmentCommitments call.epoch_start_ms call.shard s.accepted) checkpoint

section Keys

variable {H : Host}

/-- A key of the store names one segment. -/
theorem checkpointStoreKey_unique (hn : NumberText H)
    (h : checkpointStoreKey H e shard = checkpointStoreKey H e' shard') :
    (e.strictEq e' = true ∨ e = e') ∧ shard = shard' := by
  have hc : js ":" = [58] := by decide
  simp only [checkpointStoreKey, hc, List.append_assoc, List.singleton_append] at h
  obtain ⟨ht, hs⟩ := separator_split (hn.plain e) (hn.plain e') h
  exact ⟨hn.unique e e' ht, hs⟩

theorem acceptedIn_eq (h : e.strictEq e' = true ∨ e = e') :
    acceptedIn e shard accepted = acceptedIn e' shard accepted := by
  rcases h with h | rfl
  · exact segmentOf_congr h shard
  · rfl

theorem segmentCommitments_key (hn : NumberText H)
    (h : checkpointStoreKey H e shard = checkpointStoreKey H e' shard') :
    segmentCommitments e shard accepted = segmentCommitments e' shard' accepted := by
  obtain ⟨he, rfl⟩ := checkpointStoreKey_unique hn h
  rw [segmentCommitments, segmentCommitments, acceptedIn_eq he]

/-- An event of another segment changes nothing here. -/
theorem segmentCommitments_append (h : inSegment e shard a.toAcceptedLogObject = false) :
    segmentCommitments e shard (accepted ++ [a]) = segmentCommitments e shard accepted := by
  simp [segmentCommitments, acceptedIn, List.filter_append, h]

end Keys

section Checkpoints

variable {R : Relay} {S : InMemoryRelayStore}

theorem withoutField_foldl_append (fields : List JsString) (a b : JsObject) :
    fields.foldl withoutField (a ++ b) =
      fields.foldl withoutField a ++ fields.foldl withoutField b := by
  induction fields generalizing a b with
  | nil => rfl
  | cons field rest ih => simp only [List.foldl_cons, withoutField, List.filter_append, ih]

/-- The hash of a checkpoint leaves out what signing and settling it add. -/
theorem checkpointHash_unsigned (N : Noble) (checkpoint : BatchCheckpointV1)
    (identity : Option Hex32) (tx : Option JsString) (signature : HexSig) :
    checkpointHash N { checkpoint with
      checkpoint_identity_hash := identity
      settlement_tx := tx
      relay_signature := signature } = checkpointHash N checkpoint := by
  let fields := [js "relay_signature", js "settlement_tx", js "checkpoint_identity_hash"]
  have hi (v : Option Hex32) :
      fields.foldl withoutField (optField (js "checkpoint_identity_hash") .str v) = [] := by
    cases v <;> rfl
  have ht (v : Option JsString) :
      fields.foldl withoutField (optField (js "settlement_tx") .str v) = [] := by
    cases v <;> rfl
  have hs (id : TrustID) (s : HexSig) : fields.foldl withoutField
      [(js "relay_id", .str id), (js "relay_signature", .str s)] = [(js "relay_id", .str id)] := rfl
  simp only [checkpointHash, checkpointPayload, BatchCheckpointV1.toFields,
    withoutField_foldl_append]
  simp only [hi, ht, hs, fields]

@[simp] theorem checkpointStoreKey_during (R : Relay) (m : Moment) :
    checkpointStoreKey (R.during m).host = checkpointStoreKey R.host := rfl

@[simp] theorem Relay.during_noble (R : Relay) (m : Moment) : (R.during m).noble = R.noble := rfl

theorem commitmentHash_hex (h : commitmentHash N event = .ok c) : ∃ bytes, c = bytesToHex bytes := by
  simp only [commitmentHash, commitmentHashFromParts, bind_eq_ok] at h
  obtain ⟨_, -, _, -, _, -, h⟩ := h
  cases h
  exact ⟨_, rfl⟩

theorem Relay.during_backend (h : (R.during m).options.settlement_backend = some backend) :
    backend.submitCheckpoint = m.submitCheckpoint := by
  obtain ⟨original, -, rfl⟩ := Option.map_eq_some_iff.mp h
  rfl

theorem checkpointFor_during (R : Relay) (m : Moment) (S : InMemoryRelayStore) :
    S.checkpointFor (R.during m) = S.checkpointFor R := by
  obtain ⟨host, tools, ⟨_, _, _, _, _, backend⟩⟩ := R
  cases backend <;> rfl

theorem Settles.settle (h : Settles N commitments checkpoint) (tx : Option JsString) :
    Settles N commitments { checkpoint with settlement_tx := tx } := by
  obtain ⟨hash, hh⟩ := h.hash
  rw [← checkpointHash_unsigned N checkpoint checkpoint.checkpoint_identity_hash tx
    checkpoint.relay_signature] at hh
  exact ⟨h.root, h.count, hash, hh⟩

/-- The checkpoint of an open segment stands for the events in it. -/
theorem unsignedCheckpoint_settles (hu : S.unsignedCheckpoint R epoch shard = .ok unsigned)
    (hs : InMemoryRelayStore.signCheckpoint R unsigned = .ok checkpoint) :
    Settles R.noble (S.eventCommitments epoch shard) checkpoint := by
  obtain ⟨tree, _, _, _, hash, ht, -, -, -, hr, -, -, -, hc, hh⟩ := unsignedCheckpoint_ok hu
  obtain ⟨signature, rfl⟩ := signCheckpoint_ok hs
  have hx := checkpointHash_unsigned R.noble unsigned
  refine ⟨⟨tree, ht, hr⟩, hc, hash, ?_⟩
  rw [hx unsigned.checkpoint_identity_hash unsigned.settlement_tx signature, ← hh]
  exact (hx none unsigned.settlement_tx unsigned.relay_signature).symm

end Checkpoints

section Invariant

variable {R : Relay} {s t : RelaySystem}

theorem LogInvariant.eventCommitments (h : LogInvariant R s) (epoch : JsNumber)
    (shard : JsString) :
    s.store.eventCommitments epoch shard = segmentCommitments epoch shard s.accepted := by
  rw [InMemoryRelayStore.eventCommitments, eventsFor_eq h.stored h.dense,
    commitmentsOf, List.map_map]
  rfl

/-- A step that leaves events and settlements alone keeps the invariant. -/
theorem SettlementInvariant.of_same (h : SettlementInvariant R s) (hl : LogInvariant R t)
    (hs : SameLog s t) (hc : t.store.closedSegments = s.store.closedSegments)
    (hd : t.store.settledCheckpoints = s.store.settledCheckpoints)
    (hp : ∀ call ∈ t.submitting, call ∈ s.submitting) : SettlementInvariant R t where
  log := hl
  keyed := by
    rw [hs.events]
    exact h.keyed
  committed := by
    rw [hs.accepted]
    exact h.committed
  timed := by
    rw [hs.accepted]
    exact h.timed
  closed := by
    rw [hc, hd]
    exact h.closed
  settled := by
    rw [hs.accepted, hc, hd]
    exact h.settled
  submitting := by
    rw [hs.accepted]
    intro call hm
    exact h.submitting call (hp call hm)

/-- An accepted event is found under its commitment. -/
theorem SettlementInvariant.get_accepted (h : SettlementInvariant R s) (ha : a ∈ s.accepted) :
    s.store.events.get? a.commitment_hash = some a := by
  rw [← h.log.stored] at ha
  obtain ⟨c, hc⟩ := OrderedMap.mem_values.mp ha
  rw [h.keyed c a hc, hc]

/-- The checkpoint a submission starts from stands for the events of the segment. -/
theorem SettlementInvariant.checkpointFor (h : SettlementInvariant R s)
    (hc : s.store.checkpointFor R epoch shard = .ok checkpoint) :
    Settles R.noble (segmentCommitments epoch shard s.accepted) checkpoint := by
  rcases checkpointFor_ok hc with hs | ⟨-, unsigned, hu, hs⟩
  · exact (h.settled epoch shard checkpoint hs).1
  · rw [← h.log.eventCommitments]
    exact unsignedCheckpoint_settles hu hs

theorem SettlementInvariant.submitted (h : SettlementInvariant R s)
    (ht : Settles R.noble (segmentCommitments call.epoch_start_ms call.shard s.accepted)
      checkpoint)
    (hc : ∀ settled, call.settled = .ok settled →
      ∃ tx, settled = { checkpoint with settlement_tx := some tx })
    (hl : LogInvariant R { s with submitting := s.submitting ++ [call] }) :
    SettlementInvariant R { s with submitting := s.submitting ++ [call] } where
  log := hl
  keyed := h.keyed
  committed := h.committed
  timed := h.timed
  closed := h.closed
  settled := h.settled
  submitting := by
    intro p hm settled hs
    rcases List.mem_append.mp hm with hm | hm
    · exact h.submitting p hm settled hs
    · rw [List.mem_singleton.mp hm] at hs ⊢
      obtain ⟨tx, rfl⟩ := hc settled hs
      exact ht.settle (some tx)

/-- The events of the segment are still those of the checkpoint when the backend has answered. -/
theorem SettlementInvariant.closes (h : SettlementInvariant R s) (hn : NumberText R.host)
    (hc : s.submitting[n]? = some call)
    (hok : s.store.finishSubmitCheckpoint (R.during m) call = .ok (checkpoint, store))
    (hl : LogInvariant R { s with store, submitting := s.submitting.eraseIdx n }) :
    SettlementInvariant R { s with store, submitting := s.submitting.eraseIdx n } := by
  obtain ⟨hs, rfl⟩ := finishSubmitCheckpoint_ok hok
  have ht := h.submitting call (List.mem_of_getElem? hc) checkpoint hs
  refine ⟨hl, h.keyed, h.committed, h.timed, ?_, ?_, ?_⟩
  · intro key
    have hk := h.closed key
    simp only [OrderedMap.has, OrderedMap.get?_set] at hk ⊢
    split
    · rfl
    · exact hk
  · intro epoch shard settled hget
    simp only [OrderedMap.get?_set, checkpointStoreKey_during] at hget ⊢
    by_cases he : checkpointStoreKey R.host epoch shard =
        checkpointStoreKey R.host call.epoch_start_ms call.shard
    · rw [if_pos he] at hget ⊢
      cases hget
      rw [segmentCommitments_key hn he, h.log.eventCommitments]
      exact ⟨ht, rfl⟩
    · rw [if_neg he] at hget ⊢
      exact h.settled epoch shard settled hget
  · intro p hm
    exact h.submitting p (List.mem_of_mem_eraseIdx hm)

/-- An event of a segment that is open and not being settled leaves every settlement alone. -/
theorem SettlementInvariant.logged (h : SettlementInvariant R s) (hn : NumberText R.host)
    (hok : s.store.finishAcceptEvent (R.during m) call = .ok (accepted, store))
    (hcommit : commitmentHash R.noble call.event = .ok accepted.commitment_hash)
    (hq : ∀ p ∈ s.submitting, inSegment p.epoch_start_ms p.shard
      accepted.toAcceptedLogObject = false)
    (hl : LogInvariant R { s with
      store
      pending := s.pending.eraseIdx n
      accepted := s.accepted ++ [accepted] }) :
    SettlementInvariant R { s with
      store
      pending := s.pending.eraseIdx n
      accepted := s.accepted ++ [accepted] } := by
  obtain ⟨verification, -, -, -, hevent, hepoch, -, hopen, -, rfl⟩ := finishAcceptEvent_ok hok
  have hseg (epoch : JsNumber) (shard : JsString)
      (hs : s.store.settledCheckpoints.has (checkpointStoreKey R.host epoch shard) = true) :
      inSegment epoch shard accepted.toAcceptedLogObject = false := by
    by_contra hin
    simp only [Bool.not_eq_false, inSegment, Bool.and_eq_true, beq_iff_eq] at hin
    simp only [InMemoryRelayStore.segmentClosed, checkpointStoreKey_during, h.closed] at hopen
    rw [← hin.2, checkpointStoreKey, ← hn.same _ _ hin.1, ← checkpointStoreKey, hopen] at hs
    cases hs
  refine ⟨hl, ?_, ?_, ?_, h.closed, ?_, ?_⟩
  · intro c a hget
    rw [OrderedMap.get?_set] at hget
    split at hget
    · next he =>
      cases hget
      exact he.symm
    · exact h.keyed c a hget
  · intro a ha
    rcases List.mem_append.mp ha with ha | ha
    · exact h.committed a ha
    · rw [List.mem_singleton.mp ha, hevent]
      exact hcommit
  · intro a ha
    rcases List.mem_append.mp ha with ha | ha
    · exact h.timed a ha
    · rw [List.mem_singleton.mp ha, hepoch]
      exact JsNumber.strictEq_ofInt_self _
  · intro epoch shard checkpoint hget
    rw [segmentCommitments_append (hseg epoch shard (by simp [OrderedMap.has, hget]))]
    exact h.settled epoch shard checkpoint hget
  · intro p hp checkpoint hs
    rw [segmentCommitments_append (hq p hp)]
    exact h.submitting p hp checkpoint hs

/-- One step that meets both conditions. -/
theorem SettlementInvariant.step (h : SettlementInvariant R s) (hn : NumberText R.host)
    (ha : m.AddsTransaction) (hf : FreshResume R s (m.toClock, action))
    (hq : QuietSettlement R s (m, action)) :
    SettlementInvariant R (s.stepIn R (m, action)) := by
  have hl : LogInvariant R (s.stepIn R (m, action)) := h.log.act (R.during_noble m) hf
  have ht : Transition (R.during m) s action (s.stepIn R (m, action)) := act_transition _ s action
  generalize s.stepIn R (m, action) = t at hl ht
  cases ht with
  | unchanged => exact h
  | resolved resolver => exact h.of_same hl ⟨rfl, rfl, rfl⟩ rfl rfl fun _ => id
  | begun hb => exact h.of_same hl ⟨rfl, rfl, rfl⟩ rfl rfl fun _ => id
  | refused => exact h.of_same hl ⟨rfl, rfl, rfl⟩ rfl rfl fun _ => id
  | @logged _ call accepted store hc hok =>
    obtain ⟨verification, hv, hverified, hcommit, -, hepoch, hshard, hopen, -⟩ :=
      finishAcceptEvent_ok hok
    rw [hepoch, hshard] at hopen
    have hadmitted : Admitted R s.store call := ⟨⟨verification, hv, hverified⟩, hopen⟩
    have hhonest := h.log.honest call (List.mem_of_getElem? hc) verification _ hv hcommit
    refine h.logged hn hok hhonest ?_ hl
    intro p hp
    have hother := hq _ call rfl hc hadmitted p hp
    simp only [inSegment, hepoch, hshard]
    by_contra hin
    simp only [Bool.not_eq_false, Bool.and_eq_true, beq_iff_eq] at hin
    exact hother hin
  | receipt hok =>
    obtain ⟨_, -, -, rfl⟩ := acceptReceipt_ok hok
    exact h.of_same hl ⟨rfl, rfl, rfl⟩ rfl rfl fun _ => id
  | attestation hok =>
    obtain ⟨_, -, -, rfl⟩ := acceptAttestation_ok hok
    exact h.of_same hl ⟨rfl, rfl, rfl⟩ rfl rfl fun _ => id
  | revocation hok =>
    obtain ⟨_, -, -, rfl⟩ := acceptRevocation_ok hok
    exact h.of_same hl ⟨rfl, rfl, rfl⟩ rfl rfl fun _ => id
  | submitted hok =>
    obtain ⟨backend, checkpoint, hb, hc, rfl⟩ := beginSubmitCheckpoint_ok hok
    rw [checkpointFor_during] at hc
    refine h.submitted (h.checkpointFor hc) ?_ hl
    intro settled hs
    rw [Relay.during_backend hb] at hs
    exact ha checkpoint settled hs
  | unsettled =>
    exact h.of_same hl ⟨rfl, rfl, rfl⟩ rfl rfl fun _ hm => List.mem_of_mem_eraseIdx hm
  | settled hc hok => exact h.closes hn hc hok hl

theorem SettlementInvariant.init (R : Relay) (resolver : MemoryTrustResolver) :
    SettlementInvariant R (.idle (.blank resolver)) := by
  have hl : LogInvariant R (.idle (.blank resolver)) := LogInvariant.init R resolver
  refine ⟨hl, ?_, ?_, ?_, fun _ => rfl, ?_, ?_⟩
  · intro c a hget
    cases hget
  · intro a ha
    cases ha
  · intro a ha
    cases ha
  · intro epoch shard checkpoint hget
    cases hget
  · intro call hm
    cases hm

/-- The list of a closed segment is that of all its accepted events. -/
theorem SettlementInvariant.closed_eq (h : SettlementInvariant R s)
    (hL : s.store.closedSegments.get? (checkpointStoreKey R.host epoch shard) = some L) :
    L = segmentCommitments epoch shard s.accepted := by
  have hc := h.closed (checkpointStoreKey R.host epoch shard)
  simp only [OrderedMap.has, hL, Option.isSome_some] at hc
  obtain ⟨checkpoint, hs⟩ := Option.isSome_iff_exists.mp hc.symm
  obtain ⟨-, he⟩ := h.settled epoch shard checkpoint hs
  rw [hL] at he
  exact Option.some.inj he

/-- A closed segment stays as it was closed. -/
theorem SettlementInvariant.stays_closed (h : SettlementInvariant R s) (hn : NumberText R.host)
    (hL : s.store.closedSegments.get? (checkpointStoreKey R.host epoch shard) = some L)
    (entry : Moment × RelayAction) :
    (s.stepIn R entry).store.closedSegments.get? (checkpointStoreKey R.host epoch shard) =
      some L := by
  have ht : Transition (R.during entry.1) s entry.2 (s.stepIn R entry) := act_transition _ s _
  generalize s.stepIn R entry = t at ht
  generalize entry.2 = action at ht
  cases ht with
  | logged hc hok =>
    obtain ⟨_, -, -, -, -, -, -, -, -, rfl⟩ := finishAcceptEvent_ok hok
    exact hL
  | receipt hok =>
    obtain ⟨_, -, -, rfl⟩ := acceptReceipt_ok hok
    exact hL
  | attestation hok =>
    obtain ⟨_, -, -, rfl⟩ := acceptAttestation_ok hok
    exact hL
  | revocation hok =>
    obtain ⟨_, -, -, rfl⟩ := acceptRevocation_ok hok
    exact hL
  | @settled _ call _ _ hc hok =>
    obtain ⟨-, rfl⟩ := finishSubmitCheckpoint_ok hok
    simp only [OrderedMap.get?_set, checkpointStoreKey_during]
    by_cases he : checkpointStoreKey R.host epoch shard =
        checkpointStoreKey R.host call.epoch_start_ms call.shard
    · rw [if_pos he, h.log.eventCommitments, h.closed_eq hL, segmentCommitments_key hn he]
    · rw [if_neg he, hL]
  | _ => exact hL

/-- The place of an accepted event in its segment is its index. -/
theorem LogInvariant.indexed (h : LogInvariant R s) (ha : a ∈ acceptedIn epoch shard s.accepted) :
    (segmentCommitments epoch shard s.accepted)[a.log_index]? = some a.commitment_hash := by
  have hd : DenseIndices AcceptedEvent.toAcceptedLogObject s.accepted := h.dense
  have hget : (acceptedIn epoch shard s.accepted)[a.log_index]? = some a := hd.indexed ha
  rw [segmentCommitments, List.getElem?_map, hget, Option.map_some]

/-- Whenever its segment has a checkpoint, an accepted event has a proof under it. -/
theorem SettlementInvariant.proofFor (h : SettlementInvariant R s) (ha : a ∈ s.accepted)
    (hc : s.store.checkpointFor R a.epoch_start_ms a.shard = .ok checkpoint) :
    ∃ proof, s.store.proofFor R a.commitment_hash = .ok (some (proof, checkpoint)) ∧
      verifyInclusion R.noble proof = .ok true ∧ proof.commitment = a.commitment_hash ∧
      proof.root = checkpoint.event_root ∧
      checkpointHash R.noble checkpoint = .ok proof.checkpoint_hash := by
  have hin : a ∈ acceptedIn a.epoch_start_ms a.shard s.accepted := by
    simp [acceptedIn, inSegment, ha, h.timed a ha]
  let commitments := segmentCommitments a.epoch_start_ms a.shard s.accepted
  have hlist : (s.store.closedSegments.get? (checkpointStoreKey R.host a.epoch_start_ms
      a.shard)).getD (s.store.eventCommitments a.epoch_start_ms a.shard) = commitments := by
    cases hL : s.store.closedSegments.get? (checkpointStoreKey R.host a.epoch_start_ms a.shard) with
    | none => exact h.log.eventCommitments _ _
    | some L => exact h.closed_eq hL
  obtain ⟨⟨tree, ht, hroot⟩, -, hash, hhash⟩ := h.checkpointFor hc
  have hat := h.log.indexed hin
  obtain ⟨hi, hget⟩ := List.getElem?_eq_some_iff.mp hat
  have hne : commitments ≠ [] := List.ne_nil_of_length_pos (Nat.zero_lt_of_lt hi)
  obtain ⟨hl, hb⟩ := buildMerkleTree_bytes hne ht
  have hnil : a.commitment_hash ≠ [] := by
    obtain ⟨bytes, he⟩ := commitmentHash_hex (h.committed a ha)
    rw [he]
    exact bytesToHex_ne_nil bytes
  let input : InclusionProofInput := {
    commitments
    leaf_index := .ofNat a.log_index
    tree_kind := .event
    epoch_start_ms := a.epoch_start_ms
    epoch_duration_ms := a.epoch_duration_ms
    shard := a.shard
    checkpoint_hash := some hash }
  obtain ⟨tree', proof, ht', hp, hr, hpc, hph, -, hv⟩ :=
    buildInclusionProof_verifies input (N := R.noble) hb hl hi rfl (hget ▸ hnil)
  rw [show input.commitments = commitments from rfl, ht, Except.ok.injEq] at ht'
  subst ht'
  refine ⟨proof, ?_, hv, hpc.trans hget, hr.trans hroot.symm, ?_⟩
  · simp only [InMemoryRelayStore.proofFor, h.get_accepted ha, hlist, hc, hhash, bind, Except.bind]
    rw [show buildInclusionProof R.noble _ = .ok proof from hp]
    rfl
  · rw [hph]
    exact hhash

theorem SettlementInvariant.run (h : SettlementInvariant R s) (hn : NumberText R.host)
    (ha : ∀ entry ∈ actions, entry.1.AddsTransaction)
    (hg : Guarded (RelaySystem.stepIn R) (OrderlyStep R) s actions) :
    SettlementInvariant R (run (RelaySystem.stepIn R) s actions) :=
  run_guarded (fun _ _ hg hs => hs.step hn hg.1 hg.2.1 hg.2.2) (hg.with_all ha) h

theorem SettlementInvariant.run_closed (h : SettlementInvariant R s) (hn : NumberText R.host)
    (ha : ∀ entry ∈ actions, entry.1.AddsTransaction)
    (hg : Guarded (RelaySystem.stepIn R) (OrderlyStep R) s actions)
    (hL : s.store.closedSegments.get? (checkpointStoreKey R.host epoch shard) = some L) :
    (Frames.run (RelaySystem.stepIn R) s actions).store.closedSegments.get?
      (checkpointStoreKey R.host epoch shard) = some L := by
  refine (run_guarded (I := fun t => SettlementInvariant R t ∧ t.store.closedSegments.get?
    (checkpointStoreKey R.host epoch shard) = some L) ?_ (hg.with_all ha) ⟨h, hL⟩).2
  intro t entry hg ht
  exact ⟨ht.1.step hn hg.1 hg.2.1 hg.2.2, ht.1.stays_closed hn ht.2 entry⟩

theorem resumeSubmit_closes (hc : s.submitting[n]? = some call)
    (hok : s.store.finishSubmitCheckpoint (R.during m) call = .ok (checkpoint, store)) :
    (s.stepIn R (m, .resumeSubmit n)).store.closedSegments.get?
        (checkpointStoreKey R.host call.epoch_start_ms call.shard) =
      some (s.store.eventCommitments call.epoch_start_ms call.shard) := by
  obtain ⟨-, hstore⟩ := finishSubmitCheckpoint_ok hok
  simp only [RelaySystem.stepIn, RelaySystem.act, RelaySystem.resumeSubmit, hc, hok,
    RelaySystem.withStore, Functor.map, Except.map, hstore, checkpointStoreKey_during,
    OrderedMap.get?_set_self]

/-- A closed segment has the checkpoint that settles it. -/
theorem SettlementInvariant.closed_settled (h : SettlementInvariant R s)
    (hL : s.store.closedSegments.get? (checkpointStoreKey R.host epoch shard) = some L) :
    ∃ checkpoint, s.store.checkpointFor R epoch shard = .ok checkpoint ∧
      Settles R.noble L checkpoint := by
  have hc := h.closed (checkpointStoreKey R.host epoch shard)
  simp only [OrderedMap.has, hL, Option.isSome_some] at hc
  obtain ⟨checkpoint, hs⟩ := Option.isSome_iff_exists.mp hc.symm
  refine ⟨checkpoint, ?_, ?_⟩
  · simp only [InMemoryRelayStore.checkpointFor, hs]
    rfl
  · rw [h.closed_eq hL]
    exact (h.settled epoch shard checkpoint hs).1

theorem Settles.event_root_eq (h : Settles N L checkpoint) (h' : Settles N L settled) :
    settled.event_root = checkpoint.event_root := by
  obtain ⟨tree, ht, hr⟩ := h.root
  obtain ⟨tree', ht', hr'⟩ := h'.root
  rw [ht, Except.ok.injEq] at ht'
  rw [hr, hr', ht']

end Invariant

/-- When no event enters a segment while it is being settled, the checkpoint that the call returns
counts the events of the segment, and each of them keeps a proof under it. -/
theorem submitCheckpoint_overlap (hn : NumberText R.host)
    (h : InMemoryRelayStore.create R = .ok store)
    (ha : ∀ entry ∈ before ++ (m, .resumeSubmit n) :: after, entry.1.AddsTransaction)
    (hg : Guarded (RelaySystem.stepIn R) (OrderlyStep R) (.idle store)
      (before ++ (m, .resumeSubmit n) :: after))
    (hc : (run (RelaySystem.stepIn R) (.idle store) before).submitting[n]? = some call)
    (hok : (run (RelaySystem.stepIn R) (.idle store) before).store.finishSubmitCheckpoint
      (R.during m) call = .ok (checkpoint, closed)) :
    let s := run (RelaySystem.stepIn R) (.idle store) (before ++ (m, .resumeSubmit n) :: after)
    checkpoint.event_count =
        .ofNat (acceptedIn call.epoch_start_ms call.shard s.accepted).length ∧
      ∀ a ∈ acceptedIn call.epoch_start_ms call.shard s.accepted, ∃ proof settled,
        s.store.proofFor R a.commitment_hash = .ok (some (proof, settled)) ∧
        verifyInclusion R.noble proof = .ok true ∧ proof.root = settled.event_root ∧
        settled.event_root = checkpoint.event_root ∧
        settled.event_count = checkpoint.event_count := by
  obtain ⟨resolver, rfl⟩ := create_ok h
  intro s
  obtain ⟨hgb, hgm, hga⟩ := hg.append
  have hb := (SettlementInvariant.init R resolver).run hn
    (fun e he => ha e (List.mem_append_left _ he)) hgb
  have hm := hb.step hn (ha (m, .resumeSubmit n) (by simp)) hgm.1 hgm.2
  have hL := resumeSubmit_closes hc hok
  rw [hb.log.eventCommitments] at hL
  have haa : ∀ entry ∈ after, entry.1.AddsTransaction := fun e he => ha e (by simp [he])
  have hrun : s = run (RelaySystem.stepIn R) ((run (RelaySystem.stepIn R) _ before).stepIn R
      (m, .resumeSubmit n)) after := run_append _ _ before _
  have hs := hm.run hn haa hga
  have hLs := hm.run_closed hn haa hga hL
  rw [← hrun] at hs hLs
  have hsettles := hb.submitting call (List.mem_of_getElem? hc) checkpoint
    (finishSubmitCheckpoint_ok hok).1
  have hL' := hs.closed_eq hLs
  refine ⟨?_, ?_⟩
  · rw [hsettles.count, hL', segmentCommitments, List.length_map]
  · intro a hin
    obtain ⟨hacc, hseg⟩ := List.mem_filter.mp hin
    simp only [inSegment, Bool.and_eq_true, beq_iff_eq] at hseg
    have hkey : checkpointStoreKey R.host a.epoch_start_ms a.shard =
        checkpointStoreKey R.host call.epoch_start_ms call.shard := by
      rw [checkpointStoreKey, hn.same _ _ hseg.1, hseg.2, ← checkpointStoreKey]
    rw [← hkey] at hLs
    obtain ⟨settled, hfor, hset⟩ := hs.closed_settled hLs
    obtain ⟨proof, hp, hv, -, hroot, -⟩ := hs.proofFor hacc hfor
    exact ⟨proof, settled, hp, hv, hroot, hsettles.event_root_eq hset,
      hset.count.trans hsettles.count.symm⟩

/-- The text of a fraction, that of an integer as the language has it. -/
def ratText (q : ℚ) : JsString :=
  intText q.num ++ if q.den = 1 then [] else 47 :: natText q.den

theorem ratText_injective : Function.Injective ratText := by
  intro p q h
  have hstop (q : ℚ) : Stop (if q.den = 1 then [] else 47 :: natText q.den) := by
    split
    · exact True.intro
    · exact rfl
  obtain ⟨hz, hd⟩ := intText_unique (hstop p) (hstop q) h
  have hden : p.den = q.den := by
    split_ifs at hd with hp hq hq
    · rw [hp, hq]
    · simp only [List.cons.injEq, true_and] at hd
      exact natText_injective hd
  exact Rat.ext hz hden

theorem intText_units (z : Int) : ∀ u ∈ intText z, isDigitUnit u = true ∨ u = 45 := by
  intro u hu
  unfold intText at hu
  split at hu
  · rcases List.mem_cons.mp hu with hu | hu
    · exact .inr hu
    · exact .inl (natText_digits _ u hu)
  · exact .inl (natText_digits _ u hu)

theorem ratText_units (q : ℚ) : ∀ u ∈ ratText q, isDigitUnit u = true ∨ u = 45 ∨ u = 47 := by
  intro u hu
  rcases List.mem_append.mp hu with hu | hu
  · exact (intText_units _ u hu).imp_right .inl
  · split at hu
    · cases hu
    · rcases List.mem_cons.mp hu with hu | hu
      · exact .inr (.inr hu)
      · exact .inl (natText_digits _ u hu)

theorem ratText_ne {q : ℚ} (hu : u ∈ t) (hd : isDigitUnit u = false) (h45 : u ≠ 45) (h47 : u ≠ 47) :
    ratText q ≠ t := by
  rintro rfl
  rcases ratText_units q u hu with h | h | h
  · rw [h] at hd
    cases hd
  · exact h45 h
  · exact h47 h

theorem numberText_ratText (hH : H.numberText = ratText) : NumberText H := by
  have hzero : ratText 0 = js "0" := by decide
  have hnan (q : ℚ) : ratText q ≠ js "NaN" :=
    ratText_ne (u := 78) (by decide) rfl (by decide) (by decide)
  have hinf (q : ℚ) : ratText q ≠ js "Infinity" :=
    ratText_ne (u := 73) (by decide) rfl (by decide) (by decide)
  have hneg (q : ℚ) : ratText q ≠ js "-Infinity" :=
    ratText_ne (u := 73) (by decide) rfl (by decide) (by decide)
  refine ⟨?_, ?_, ?_⟩
  · intro n
    cases n with
    | fin q =>
      simp only [numberString, hH]
      intro hm
      rcases ratText_units q 58 hm with h | h | h <;> exact absurd h (by decide)
    | _ =>
      simp only [numberString]
      decide
  · intro m n h
    cases m <;> cases n <;> simp_all [JsNumber.strictEq, JsNumber.value?, numberString]
  · intro m n h
    cases m <;> cases n <;> simp only [numberString, hH] at h
    all_goals first
      | exact .inr rfl
      | exact absurd h (by decide)
      | exact absurd h (hnan _)
      | exact absurd h (hinf _)
      | exact absurd h (hneg _)
      | exact absurd h.symm (hnan _)
      | exact absurd h.symm (hinf _)
      | exact absurd h.symm (hneg _)
      | skip
    · exact .inr (by rw [ratText_injective h])
    · exact .inl (by rw [ratText_injective (h.trans hzero.symm)]; rfl)
    · exact .inl (by rw [← ratText_injective (hzero.trans h)]; rfl)

/-- A relay that settles its checkpoints, with a backend that adds a transaction. -/
def settlingRelay (N : Noble) : Relay where
  host := { sampleHost N with numberText := ratText }
  tools := sampleTools
  options := { (sampleRelay N).options with
    settlement_backend := some {
      settlementBackendId := none
      submitCheckpoint := fun checkpoint => return checkpoint
      verifyCheckpointSettlement := fun _ => return { settled := true, error := none }
      isKeyRevokedAt := none
      isProviderActive := none
      isModelRegistered := none } }

def sampleMoment : Moment where
  toClock := sampleClock
  submitCheckpoint checkpoint := return { checkpoint with settlement_tx := some (js "0xsettled") }

theorem sampleMoment_addsTransaction : sampleMoment.AddsTransaction := by
  intro checkpoint settled h
  cases h
  exact ⟨_, rfl⟩

/-- The checkpoint of the sample segment with the events of one log and nothing else. -/
def segmentCheckpoint (event_root : Hex32) (events : Nat) : BatchCheckpointV1 :=
  { sampleCheckpoint with
    event_root
    revocation_root := ZERO_HASH
    event_count := .ofNat events
    checkpoint_identity_hash := none
    relay_signature := js "0x00" }

/-- The digests of a checkpoint and of the pseudo signature under it. -/
def checkpointDigests (checkpoint : BatchCheckpointV1) (hash payload event signature : Nat) :
    List (Bytes × Bytes) :=
  [(domainMessage DOMAIN_TAGS.CHECKPOINT_V1 (valueBytes (checkpointPayload checkpoint.toFields
      [js "relay_signature", js "settlement_tx", js "checkpoint_identity_hash"])),
      bigEndian 32 hash),
    (domainMessage (js "tsl.relay.signature.payload.v1") (valueBytes (signaturePayload
      checkpoint.epoch_start_ms checkpoint.shard checkpoint.event_root)), bigEndian 32 payload),
    (domainMessage DOMAIN_TAGS.EVENT_V1 (valueBytes (.obj (withoutSignature
      (pseudoEvent (hex32 payload)).toFields))), bigEndian 32 event),
    (domainMessage DOMAIN_TAGS.COMMITMENT_V1 (bigEndian 32 event ++ [0]),
      bigEndian 32 signature)]

def settlementDigests : List (Bytes × Bytes) :=
  logDigests ++
    checkpointDigests (segmentCheckpoint ZERO_HASH 0)
      0x0f01760eca0342c6062c76190e787c238cb62291980c67ec3b44c8dfada983af
      0x30f4b43f06c369cd97e5f20ac88886fa25c5391522f975ec7ce6a62561cf1668
      0x33944423891cada638c5f5a792c730ba2e30dfd52dff5ac030dac8c046bae38f
      0xfee257bf90a851437d65b05ac8fd53e049da862f1317926719fecf38708a5aca ++
    checkpointDigests (segmentCheckpoint sampleEventRoot 1)
      0x3ccb7937890a1aa8f8b70f3f1dc59db970d67a5770bd1136e68245e21ba566cc
      0x43c21dabcfeb84e612101b5b002b310f50802c26cc5f8aa6f22c9cb0e4840fda
      0x25fafef41fc1eb13362b905c47a079d10814911d6ea3156fddd93f596ecbb609
      0x3d18c42e98773dba625034b80d75f8b761b8f67f7a19b1e64943e9fc52b72178

def settlementNoble : Noble := recorded settlementDigests sampleSignatures longDigest

/-- An event arrives while the checkpoint of its segment is being settled. -/
def lateEventActions : List (Moment × RelayAction) :=
  [.upsertIdentity aliceIdentity, .beginSubmit (.ofNat 1779667200000) (js "0daa"),
    .beginEvent sampleEnvelope, .resumeEvent 0].map fun action => (sampleMoment, action)

/-- The settled checkpoint knows nothing of the event, and the proof that the store gives for it
leads to another root. -/
theorem submitCheckpoint_overlap_late :
    let R := settlingRelay settlementNoble
    let s := run (RelaySystem.stepIn R) (.idle (.blank ⟨.empty⟩)) lateEventActions
    let t := s.stepIn R (sampleMoment, .resumeSubmit 0)
    InMemoryRelayStore.create R = .ok (.blank ⟨.empty⟩) ∧
      (s.submitting.map fun call => (fun result => result.1.event_count) <$>
        s.store.finishSubmitCheckpoint (R.during sampleMoment) call) = [.ok (.ofNat 0)] ∧
      ((acceptedIn (.ofNat 1779667200000) (js "0daa") t.accepted).map fun a =>
        a.commitment_hash) = [sampleCommitment] ∧
      ((Option.map fun result => (result.1.root, result.2.event_root)) <$>
        t.store.proofFor R sampleCommitment) = .ok (some (sampleEventRoot, ZERO_HASH)) ∧
      sampleEventRoot ≠ ZERO_HASH := by
  refine ⟨rfl, ?_⟩
  decide +kernel

theorem orderlyStep_of_ne (h : ∀ n, action ≠ .resumeEvent n) : OrderlyStep R s (m, action) :=
  ⟨fun n _ he => absurd he (h n), fun n _ he => absurd he (h n)⟩

theorem orderlyStep_of_empty (hn : s.store.nonces = ∅) (he : s.store.events.entries = [])
    (hs : s.submitting = []) (entry : Moment × RelayAction) : OrderlyStep R s entry := by
  refine ⟨freshResume_of_empty hn he _, ?_⟩
  intro n call _ _ _ p hp
  rw [hs] at hp
  cases hp

/-- The event arrives before the checkpoint of its segment is computed. -/
def earlyEventActions : List (Moment × RelayAction) :=
  [.upsertIdentity aliceIdentity, .beginEvent sampleEnvelope, .resumeEvent 0,
    .beginSubmit (.ofNat 1779667200000) (js "0daa")].map fun action => (sampleMoment, action)

theorem earlyEventActions_orderly (R : Relay)
    (hn : (run (RelaySystem.stepIn R) (.idle (.blank ⟨.empty⟩))
      (earlyEventActions.take 2)).store.nonces = ∅)
    (he : (run (RelaySystem.stepIn R) (.idle (.blank ⟨.empty⟩))
      (earlyEventActions.take 2)).store.events.entries.length = 0)
    (hs : (run (RelaySystem.stepIn R) (.idle (.blank ⟨.empty⟩))
      (earlyEventActions.take 2)).submitting.length = 0) :
    Guarded (RelaySystem.stepIn R) (OrderlyStep R) (.idle (.blank ⟨.empty⟩))
      (earlyEventActions ++ [(sampleMoment, .resumeSubmit 0)]) :=
  ⟨orderlyStep_of_ne nofun, orderlyStep_of_ne nofun,
    orderlyStep_of_empty hn (List.eq_nil_of_length_eq_zero he)
      (List.eq_nil_of_length_eq_zero hs) _,
    orderlyStep_of_ne nofun, orderlyStep_of_ne nofun, True.intro⟩

def settledRelay : Relay := settlingRelay settlementNoble

def earlyState : RelaySystem :=
  run (RelaySystem.stepIn settledRelay) (.idle (.blank ⟨.empty⟩)) earlyEventActions

theorem earlyState_submitting :
    ∃ call checkpoint closed, earlyState.submitting = [call] ∧
      call.epoch_start_ms = .ofNat 1779667200000 ∧ call.shard = js "0daa" ∧
      earlyState.store.finishSubmitCheckpoint (settledRelay.during sampleMoment) call =
        .ok (checkpoint, closed) ∧ checkpoint.event_count = .ofNat 1 := by
  have hcalls : (earlyState.submitting.map fun call => (call.epoch_start_ms, call.shard,
      (fun result => result.1.event_count) <$> earlyState.store.finishSubmitCheckpoint
        (settledRelay.during sampleMoment) call)) =
      [(.ofNat 1779667200000, js "0daa", .ok (.ofNat 1))] := by
    decide +kernel
  obtain ⟨call, hcall, he⟩ := List.map_eq_singleton_iff.mp hcalls
  simp only [Prod.mk.injEq] at he
  obtain ⟨⟨checkpoint, closed⟩, hok, hcount⟩ := map_eq_ok.mp he.2.2
  exact ⟨call, checkpoint, closed, hcall, he.1, he.2.1, hok, hcount⟩

theorem earlyEventActions_addTransaction :
    ∀ entry ∈ earlyEventActions ++ [(sampleMoment, RelayAction.resumeSubmit 0)],
      entry.1.AddsTransaction := by
  intro entry hm
  simp only [earlyEventActions, List.map_cons, List.map_nil, List.cons_append, List.nil_append,
    List.mem_cons, List.not_mem_nil, or_false] at hm
  rcases hm with rfl | rfl | rfl | rfl | rfl
  all_goals exact sampleMoment_addsTransaction

theorem submitCheckpoint_overlap_sample :
    ∃ call checkpoint closed, earlyState.submitting = [call] ∧
      earlyState.store.finishSubmitCheckpoint (settledRelay.during sampleMoment) call =
        .ok (checkpoint, closed) ∧
      let s := run (RelaySystem.stepIn settledRelay) (.idle (.blank ⟨.empty⟩))
        (earlyEventActions ++ [(sampleMoment, .resumeSubmit 0)])
      checkpoint.event_count = .ofNat 1 ∧
        checkpoint.event_count =
          .ofNat (acceptedIn call.epoch_start_ms call.shard s.accepted).length ∧
        ∀ a ∈ acceptedIn call.epoch_start_ms call.shard s.accepted, ∃ proof settled,
          s.store.proofFor settledRelay a.commitment_hash = .ok (some (proof, settled)) ∧
          verifyInclusion settlementNoble proof = .ok true ∧ proof.root = settled.event_root := by
  obtain ⟨call, checkpoint, closed, hcall, -, -, hok, hcount⟩ := earlyState_submitting
  have hget : earlyState.submitting[0]? = some call := by rw [hcall]; rfl
  obtain ⟨hlen, hproofs⟩ := submitCheckpoint_overlap (R := settledRelay)
    (numberText_ratText rfl) rfl earlyEventActions_addTransaction
    (earlyEventActions_orderly settledRelay (by decide) (by decide)
      (by decide)) hget hok
  refine ⟨call, checkpoint, closed, hcall, hok, hcount, hlen, ?_⟩
  intro a ha
  obtain ⟨proof, settled, hp, hv, hroot, -, -⟩ := hproofs a ha
  exact ⟨proof, settled, hp, hv, hroot⟩

end Continuity
