import Continuity.Frames
import Continuity.RelayStore

namespace Continuity
open Collections Frames
set_option autoImplicit true

/-- The readings of the clock in one synchronous stretch of the code. -/
structure Clock where
  now : Int
  nowText : RFC3339

def Relay.at (R : Relay) (clock : Clock) : Relay :=
  { R with host := { R.host with now := clock.now, nowText := clock.nowText } }

@[simp] theorem Relay.at_noble (R : Relay) (clock : Clock) : (R.at clock).noble = R.noble := rfl

@[simp] theorem Relay.at_options (R : Relay) (clock : Clock) :
    (R.at clock).options = R.options := rfl

/-- What runs in one synchronous stretch; a call that awaits something is two of them. -/
inductive RelayAction where
  | upsertIdentity (identity : IdentityDocumentV1)
  | revokeKey (trustId : TrustID) (keyId : JsString)
  | beginEvent (event : EventCommitmentV1)
  | resumeEvent (call : Nat)
  | acceptReceipt (receipt : ReceiptCommitmentV1)
  | acceptAttestation (attestation : AttestationV1)
  | acceptRevocation (revocation : RevocationV1)
  | beginSubmit (epoch_start_ms : JsNumber) (shard : JsString)
  | resumeSubmit (call : Nat)

/-- A store with the calls that are under way. -/
structure RelaySystem where
  store : InMemoryRelayStore
  pending : List PendingEvent
  submitting : List PendingCheckpoint
  /-- The results of the `acceptEvent` calls that returned, in that order. -/
  accepted : List AcceptedEvent

namespace RelaySystem

/-- A store without any call. -/
def idle (store : InMemoryRelayStore) : RelaySystem where
  store
  pending := []
  submitting := []
  accepted := []

/-- A failed call changes nothing. -/
def withStore (s : RelaySystem) (store : Js InMemoryRelayStore) : RelaySystem :=
  match store with
  | .ok store => { s with store }
  | .error _ => s

def beginEvent (R : Relay) (s : RelaySystem) (event : EventCommitmentV1) : RelaySystem :=
  match s.store.beginAcceptEvent R event with
  | .ok call => { s with pending := s.pending ++ [call] }
  | .error _ => s

def resumeEvent (R : Relay) (s : RelaySystem) (n : Nat) : RelaySystem :=
  match s.pending[n]? with
  | none => s
  | some call =>
    match s.store.finishAcceptEvent R call with
    | .ok (accepted, store) =>
      { s with
        store
        pending := s.pending.eraseIdx n
        accepted := s.accepted ++ [accepted] }
    | .error _ => { s with pending := s.pending.eraseIdx n }

def beginSubmit (R : Relay) (s : RelaySystem) (epoch_start_ms : JsNumber) (shard : JsString) :
    RelaySystem :=
  match s.store.beginSubmitCheckpoint R epoch_start_ms shard with
  | .ok call => { s with submitting := s.submitting ++ [call] }
  | .error _ => s

def resumeSubmit (R : Relay) (s : RelaySystem) (n : Nat) : RelaySystem :=
  match s.submitting[n]? with
  | none => s
  | some call =>
    { s.withStore (Prod.snd <$> s.store.finishSubmitCheckpoint R call) with
      submitting := s.submitting.eraseIdx n }

def act (R : Relay) (s : RelaySystem) : RelayAction → RelaySystem
  | .upsertIdentity identity => s.withStore (s.store.upsertIdentity R identity)
  | .revokeKey trustId keyId =>
    { s with store := { s.store with resolver := s.store.resolver.revokeKey trustId keyId } }
  | .beginEvent event => s.beginEvent R event
  | .resumeEvent n => s.resumeEvent R n
  | .acceptReceipt receipt => s.withStore (Prod.snd <$> s.store.acceptReceipt R receipt)
  | .acceptAttestation attestation =>
    s.withStore (Prod.snd <$> s.store.acceptAttestation R attestation)
  | .acceptRevocation revocation =>
    s.withStore (Prod.snd <$> s.store.acceptRevocation R revocation)
  | .beginSubmit epoch_start_ms shard => s.beginSubmit R epoch_start_ms shard
  | .resumeSubmit n => s.resumeSubmit R n

def step (R : Relay) (s : RelaySystem) (entry : Clock × RelayAction) : RelaySystem :=
  s.act (R.at entry.1) entry.2

end RelaySystem

/-- The states of a store that any interleaving of calls leads to. -/
def RelayReachable (R : Relay) (s : RelaySystem) : Prop :=
  ∃ store actions, InMemoryRelayStore.create R = .ok store ∧
    run (RelaySystem.step R) (.idle store) actions = s

/-- What every step keeps and the new store has holds in every reachable state. -/
theorem RelayReachable.invariant {I : RelaySystem → Prop} (h : RelayReachable R s)
    (hinit : ∀ store, InMemoryRelayStore.create R = .ok store → I (.idle store))
    (hstep : ∀ s entry, I s → I (s.step R entry)) : I s := by
  obtain ⟨store, actions, hs, rfl⟩ := h
  exact run_invariant hstep actions (hinit store hs)

/-- The object is the next one of its segment in a log. -/
structure NextEntry (R : Relay) (S : InMemoryRelayStore)
    (items : OrderedMap Hex32 AcceptedLogObject) (commitment : Hex32) (time : Option Int)
    (shard : JsString) (accepted : AcceptedLogObject) : Prop where
  commitment_hash : accepted.commitment_hash = commitment
  epoch : accepted.epoch_start_ms = R.epochStart time
  shard : accepted.shard = shard
  index : accepted.log_index = (objectsFor items accepted.epoch_start_ms accepted.shard).length
  segment_open : S.segmentClosed R accepted.epoch_start_ms accepted.shard = false

section Calls

variable {R : Relay} {S S' : InMemoryRelayStore}

theorem create_ok (h : InMemoryRelayStore.create R = .ok S) :
    ∃ resolver, S = .blank resolver := by
  obtain ⟨identity, -, h⟩ := bind_eq_ok.mp h
  cases h
  exact ⟨_, rfl⟩

theorem upsertIdentity_ok (h : S.upsertIdentity R identity = .ok S') :
    ∃ resolver, S' = { S with resolver } := by
  unfold InMemoryRelayStore.upsertIdentity at h
  split at h
  · cases h
    exact ⟨_, rfl⟩
  · cases h

/-- What an event was checked for before the verifier is called, and what it is called with. -/
theorem beginAcceptEvent_ok (h : S.beginAcceptEvent R event = .ok call) :
    call.event = event ∧ R.host.parse event.timestamp = some call.eventTime ∧
      nonceKey event ∉ S.nonces ∧
      call.verification = verifyTSL R.host R.tools (eventInput event) S.resolver.resolveTrustID
        emptyPolicy none := by
  unfold InMemoryRelayStore.beginAcceptEvent at h
  split at h
  · cases h
  split at h
  · cases h
  split at h
  · cases h
  split at h
  · cases h
  · next time ht hw hn =>
    cases h
    exact ⟨rfl, ht, hn, rfl⟩

/-- What an accepted event was checked for, and what it leaves behind. -/
theorem finishAcceptEvent_ok (h : S.finishAcceptEvent R call = .ok (accepted, S')) :
    ∃ verification, call.verification = .ok verification ∧ verification.verified = true ∧
      verification.commitment_hash = some accepted.commitment_hash ∧
      accepted.event = call.event ∧ accepted.epoch_start_ms = R.epochStart (some call.eventTime) ∧
      accepted.shard = shardForTrustID R.noble call.event.sender ∧
      S.segmentClosed R accepted.epoch_start_ms accepted.shard = false ∧
      accepted.log_index = (S.eventsFor accepted.epoch_start_ms accepted.shard).length ∧
      S' = { S with
        nonces := insert (nonceKey call.event) S.nonces
        events := S.events.set accepted.commitment_hash accepted } := by
  obtain ⟨verification, hv, h⟩ := bind_eq_ok.mp h
  split at h
  · cases h
  · next hok =>
    simp only [Bool.or_eq_true, Bool.not_eq_true', not_or, Bool.not_eq_false] at hok
    obtain ⟨commitment, hc, -⟩ := truthy_iff.mp hok.2
    dsimp only at h
    split at h
    · cases h
    · next hopen =>
      cases h
      rw [hc, Option.getD_some]
      exact ⟨verification, hv, hok.1, hc, rfl, rfl, rfl, Bool.eq_false_iff.mpr hopen, rfl, rfl⟩

theorem acceptLogObject_next (h : S.acceptLogObject R items commitment (R.epochStart time) shard =
    .ok accepted) : NextEntry R S items commitment time shard accepted := by
  unfold InMemoryRelayStore.acceptLogObject at h
  split at h
  · cases h
  · next hopen =>
    cases h
    exact ⟨rfl, rfl, rfl, rfl, Bool.eq_false_iff.mpr hopen⟩

theorem acceptReceipt_ok (h : S.acceptReceipt R receipt = .ok (accepted, S')) :
    ∃ commitment, receiptHash R.noble receipt = .ok commitment ∧
      NextEntry R S S.receipts commitment (R.host.parse receipt.timestamp)
        (shardForTrustID R.noble receipt.receiver) accepted ∧
      S' = { S with receipts := S.receipts.set commitment accepted } := by
  obtain ⟨commitment, hc, h⟩ := bind_eq_ok.mp h
  obtain ⟨item, hi, h⟩ := bind_eq_ok.mp h
  cases h
  exact ⟨commitment, hc, acceptLogObject_next hi, rfl⟩

theorem acceptAttestation_ok (h : S.acceptAttestation R attestation = .ok (accepted, S')) :
    ∃ commitment, attestationHash R.noble attestation = .ok commitment ∧
      NextEntry R S S.attestations commitment (R.host.parse attestation.issued_at)
        (shardForTrustID R.noble attestation.issuer) accepted ∧
      S' = { S with attestations := S.attestations.set commitment accepted } := by
  obtain ⟨commitment, hc, h⟩ := bind_eq_ok.mp h
  obtain ⟨item, hi, h⟩ := bind_eq_ok.mp h
  cases h
  exact ⟨commitment, hc, acceptLogObject_next hi, rfl⟩

theorem acceptRevocation_ok (h : S.acceptRevocation R revocation = .ok (accepted, S')) :
    ∃ commitment, revocationHash R.noble revocation = .ok commitment ∧
      NextEntry R S S.revocations commitment (R.host.parse revocation.effective_at)
        (shardForTrustID R.noble revocation.trust_id) accepted ∧
      S' = { S with revocations := S.revocations.set commitment accepted } := by
  obtain ⟨commitment, hc, h⟩ := bind_eq_ok.mp h
  obtain ⟨item, hi, h⟩ := bind_eq_ok.mp h
  cases h
  exact ⟨commitment, hc, acceptLogObject_next hi, rfl⟩

/-- The roots of an open segment are those of its four logs. -/
theorem unsignedCheckpoint_ok (h : S.unsignedCheckpoint R epoch shard = .ok checkpoint) :
    ∃ events receipts attestations revocations hash,
      buildMerkleTree R.noble (S.eventCommitments epoch shard) = .ok events ∧
      buildMerkleTree R.noble (commitmentsOf (objectsFor S.receipts epoch shard)) =
        .ok receipts ∧
      buildMerkleTree R.noble (commitmentsOf (objectsFor S.attestations epoch shard)) =
        .ok attestations ∧
      buildMerkleTree R.noble (commitmentsOf (objectsFor S.revocations epoch shard)) =
        .ok revocations ∧
      checkpoint.event_root = events.root ∧ checkpoint.receipt_root = receipts.root ∧
      checkpoint.attestation_root = attestations.root ∧
      checkpoint.revocation_root = revocations.root ∧
      checkpoint.event_count = .ofNat (S.eventCommitments epoch shard).length ∧
      checkpointHash R.noble { checkpoint with checkpoint_identity_hash := none } = .ok hash := by
  simp only [InMemoryRelayStore.unsignedCheckpoint, bind_eq_ok] at h
  obtain ⟨events, he, receipts, hr, attestations, ha, revocations, hv, _, -, hash, hh, h⟩ := h
  cases h
  exact ⟨events, receipts, attestations, revocations, hash, he, hr, ha, hv, rfl, rfl, rfl, rfl,
    rfl, hh⟩

theorem signCheckpoint_ok (h : InMemoryRelayStore.signCheckpoint R checkpoint = .ok signed) :
    ∃ relay_signature, signed = { checkpoint with relay_signature } := by
  unfold InMemoryRelayStore.signCheckpoint at h
  split at h
  · simp only [signCheckpointWithSeed, bind_eq_ok] at h
    obtain ⟨hash, -, signature, -, h⟩ := h
    cases h
    exact ⟨signature, rfl⟩
  · obtain ⟨signature, -, h⟩ := bind_eq_ok.mp h
    cases h
    exact ⟨signature, rfl⟩

theorem checkpointFor_ok (h : S.checkpointFor R epoch shard = .ok checkpoint) :
    S.settledCheckpoints.get? (checkpointStoreKey R.host epoch shard) = some checkpoint ∨
      S.settledCheckpoints.get? (checkpointStoreKey R.host epoch shard) = none ∧
        ∃ unsigned, S.unsignedCheckpoint R epoch shard = .ok unsigned ∧
          InMemoryRelayStore.signCheckpoint R unsigned = .ok checkpoint := by
  unfold InMemoryRelayStore.checkpointFor at h
  split at h
  · next settled hs =>
    cases h
    exact .inl hs
  · next hs =>
    obtain ⟨unsigned, hu, h⟩ := bind_eq_ok.mp h
    exact .inr ⟨hs, unsigned, hu, h⟩

theorem beginSubmitCheckpoint_ok (h : S.beginSubmitCheckpoint R epoch shard = .ok call) :
    ∃ backend checkpoint, R.options.settlement_backend = some backend ∧
      S.checkpointFor R epoch shard = .ok checkpoint ∧
      call = ⟨epoch, shard, backend.submitCheckpoint checkpoint⟩ := by
  unfold InMemoryRelayStore.beginSubmitCheckpoint at h
  split at h
  · cases h
  · next backend hb =>
    obtain ⟨checkpoint, hc, h⟩ := bind_eq_ok.mp h
    cases h
    exact ⟨backend, checkpoint, hb, hc, rfl⟩

theorem finishSubmitCheckpoint_ok (h : S.finishSubmitCheckpoint R call = .ok (settled, S')) :
    call.settled = .ok settled ∧ S' = { S with
      closedSegments := S.closedSegments.set
        (checkpointStoreKey R.host call.epoch_start_ms call.shard)
        (S.eventCommitments call.epoch_start_ms call.shard)
      settledCheckpoints := S.settledCheckpoints.set
        (checkpointStoreKey R.host call.epoch_start_ms call.shard) settled } := by
  obtain ⟨checkpoint, hc, h⟩ := bind_eq_ok.mp h
  obtain ⟨conflict, -, h⟩ := bind_eq_ok.mp h
  split at h
  · cases h
  · cases h
    exact ⟨hc, rfl⟩

end Calls

/-- The outcomes of an action: nothing happens, or one of the calls goes on. -/
inductive Transition (R : Relay) (s : RelaySystem) : RelayAction → RelaySystem → Prop where
  | unchanged : Transition R s action s
  | resolved (resolver : MemoryTrustResolver) :
    Transition R s action { s with store := { s.store with resolver } }
  | begun (h : s.store.beginAcceptEvent R event = .ok call) :
    Transition R s (.beginEvent event) { s with pending := s.pending ++ [call] }
  | refused : Transition R s (.resumeEvent n) { s with pending := s.pending.eraseIdx n }
  | logged (hc : s.pending[n]? = some call)
    (h : s.store.finishAcceptEvent R call = .ok (accepted, store)) :
    Transition R s (.resumeEvent n) { s with
      store
      pending := s.pending.eraseIdx n
      accepted := s.accepted ++ [accepted] }
  | receipt (h : s.store.acceptReceipt R receipt = .ok (accepted, store)) :
    Transition R s (.acceptReceipt receipt) { s with store }
  | attestation (h : s.store.acceptAttestation R attestation = .ok (accepted, store)) :
    Transition R s (.acceptAttestation attestation) { s with store }
  | revocation (h : s.store.acceptRevocation R revocation = .ok (accepted, store)) :
    Transition R s (.acceptRevocation revocation) { s with store }
  | submitted (h : s.store.beginSubmitCheckpoint R epoch shard = .ok call) :
    Transition R s (.beginSubmit epoch shard) { s with submitting := s.submitting ++ [call] }
  | unsettled : Transition R s (.resumeSubmit n) { s with submitting := s.submitting.eraseIdx n }
  | settled (hc : s.submitting[n]? = some call)
    (h : s.store.finishSubmitCheckpoint R call = .ok (checkpoint, store)) :
    Transition R s (.resumeSubmit n) { s with store, submitting := s.submitting.eraseIdx n }

theorem withStore_transition {x : Js InMemoryRelayStore}
    (h : ∀ S, x = .ok S → Transition R s action { s with store := S }) :
    Transition R s action (s.withStore x) := by
  cases x with
  | error e => exact .unchanged
  | ok S => exact h S rfl

theorem act_transition (R : Relay) (s : RelaySystem) (action : RelayAction) :
    Transition R s action (s.act R action) := by
  cases action with
  | upsertIdentity identity =>
    apply withStore_transition
    intro S hS
    obtain ⟨resolver, rfl⟩ := upsertIdentity_ok hS
    exact .resolved resolver
  | revokeKey trustId keyId => exact .resolved _
  | beginEvent event =>
    simp only [RelaySystem.act, RelaySystem.beginEvent]
    split
    · next call hok => exact .begun hok
    · exact .unchanged
  | resumeEvent n =>
    simp only [RelaySystem.act, RelaySystem.resumeEvent]
    split
    · exact .unchanged
    · next call hc =>
      split
      · next accepted store hok => exact .logged hc hok
      · exact .refused
  | acceptReceipt receipt =>
    apply withStore_transition
    intro S hS
    obtain ⟨⟨accepted, S'⟩, hok, rfl⟩ := map_eq_ok.mp hS
    exact .receipt hok
  | acceptAttestation attestation =>
    apply withStore_transition
    intro S hS
    obtain ⟨⟨accepted, S'⟩, hok, rfl⟩ := map_eq_ok.mp hS
    exact .attestation hok
  | acceptRevocation revocation =>
    apply withStore_transition
    intro S hS
    obtain ⟨⟨accepted, S'⟩, hok, rfl⟩ := map_eq_ok.mp hS
    exact .revocation hok
  | beginSubmit epoch shard =>
    simp only [RelaySystem.act, RelaySystem.beginSubmit]
    split
    · next call hok => exact .submitted hok
    · exact .unchanged
  | resumeSubmit n =>
    simp only [RelaySystem.act, RelaySystem.resumeSubmit]
    split
    · exact .unchanged
    · next call hc =>
      cases hok : s.store.finishSubmitCheckpoint R call with
      | error e => exact .unsettled
      | ok result =>
        obtain ⟨checkpoint, store⟩ := result
        exact .settled hc hok

/-- A call that waits was waiting before, or has just begun. -/
theorem Transition.pending (h : Transition R s action t) : ∀ call ∈ t.pending,
    call ∈ s.pending ∨ ∃ event, s.store.beginAcceptEvent R event = .ok call := by
  intro call hm
  cases h with
  | begun h =>
    rcases List.mem_append.mp hm with hm | hm
    · exact .inl hm
    · rw [List.mem_singleton.mp hm]
      exact .inr ⟨_, h⟩
  | refused => exact .inl (List.mem_of_mem_eraseIdx hm)
  | logged hc h => exact .inl (List.mem_of_mem_eraseIdx hm)
  | _ => exact .inl hm

/-- The part of the system that `acceptEvent` writes is the same. -/
structure SameLog (s t : RelaySystem) : Prop where
  events : t.store.events = s.store.events
  nonces : t.store.nonces = s.store.nonces
  accepted : t.accepted = s.accepted

/-- Every step but the resumption of an accepted event leaves the log alone. -/
theorem Transition.log (h : Transition R s action t) : SameLog s t ∨
    ∃ n call accepted store, action = .resumeEvent n ∧ s.pending[n]? = some call ∧
      s.store.finishAcceptEvent R call = .ok (accepted, store) ∧
      t = { s with
        store
        pending := s.pending.eraseIdx n
        accepted := s.accepted ++ [accepted] } := by
  cases h with
  | unchanged => exact .inl ⟨rfl, rfl, rfl⟩
  | resolved resolver => exact .inl ⟨rfl, rfl, rfl⟩
  | begun h => exact .inl ⟨rfl, rfl, rfl⟩
  | refused => exact .inl ⟨rfl, rfl, rfl⟩
  | logged hc h => exact .inr ⟨_, _, _, _, rfl, hc, h, rfl⟩
  | receipt h =>
    obtain ⟨_, -, -, rfl⟩ := acceptReceipt_ok h
    exact .inl ⟨rfl, rfl, rfl⟩
  | attestation h =>
    obtain ⟨_, -, -, rfl⟩ := acceptAttestation_ok h
    exact .inl ⟨rfl, rfl, rfl⟩
  | revocation h =>
    obtain ⟨_, -, -, rfl⟩ := acceptRevocation_ok h
    exact .inl ⟨rfl, rfl, rfl⟩
  | submitted h => exact .inl ⟨rfl, rfl, rfl⟩
  | unsettled => exact .inl ⟨rfl, rfl, rfl⟩
  | settled hc h =>
    obtain ⟨-, rfl⟩ := finishSubmitCheckpoint_ok h
    exact .inl ⟨rfl, rfl, rfl⟩

end Continuity
