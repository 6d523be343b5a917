import Continuity.DurableRevocation

namespace Continuity
open Collections Frames Statements Program
set_option autoImplicit true

/-- The calls of the routes to the database; each may fail. -/
structure Durability where
  ready : Js Unit
  getIdentity : TrustID → Js (Option IdentityDocumentV1)
  insertEvent : EventCommitmentV1 → AcceptedEvent → Js Unit
  insertRevocation : RevocationV1 → Js Unit

/-- The repository on a database, for the next call of each kind. -/
def PostgresRepository.durability (P : PostgresRepository) (R : Relay) (db : Database) :
    Durability where
  ready := return ()
  getIdentity d := ((P.getIdentity d).run db).1
  insertEvent event accepted :=
    (fun _ => ()) <$> ((P.insertEvent event accepted.relay_id accepted.epoch_start_ms).run db).1
  insertRevocation revocation :=
    (fun _ => ()) <$> ((P.insertRevocation revocation R.relay_id R.epoch_duration_ms).run db).1

/-- A route on the store in memory; a call that throws leaves the store as it is by then. -/
abbrev Route (α : Type) := Program InMemoryRelayStore String α

/-- A call of the store that returns nothing. -/
def callStore (f : InMemoryRelayStore → Js InMemoryRelayStore) : Route Unit :=
  query fun S => (fun S => ((), S)) <$> f S

/-- The identity that the resolvers find: that of memory, else that of the database. -/
def Durability.resolve (D : Durability) (known : Option IdentityDocumentV1) (d : TrustID) :
    Js (Option IdentityDocumentV1) :=
  match known with
  | some identity => return some identity
  | none => D.getIdentity d

section Routes

variable (R : Relay) (D : Durability)

/-- `POST /v1/commitments` up to the database. -/
def acceptCommitment (event : EventCommitmentV1) : Route AcceptedEvent := do
  lift D.ready
  let durable ← lift (D.getIdentity event.sender)
  callStore fun S => S.refreshIdentity R durable
  query fun S => S.acceptEvent R event

def postCommitments (event : EventCommitmentV1) : Route AcceptedEvent := do
  let accepted ← acceptCommitment R D event
  lift (D.insertEvent event accepted)
  return accepted

/-- `POST /v1/keys/revoke` up to the database. -/
def acceptRevoke (revocation : RevocationV1) : Route Unit := do
  let call ← select fun S => S.beginRevoke R .revoke revocation none
  let identity ← lift (D.resolve call.identity revocation.trust_id)
  callStore fun S => S.finishRevoke R { call with identity }

/-- The database's part of `POST /v1/keys/revoke`. -/
def storeRevocation (revocation : RevocationV1) : Js Unit := do
  D.ready
  D.insertRevocation revocation

def postRevoke (revocation : RevocationV1) : Route Unit := do
  acceptRevoke R D revocation
  lift (storeRevocation D revocation)

end Routes

/-- A request that writes to memory first and to the database then. -/
inductive WriteRequest where
  | commitments (event : EventCommitmentV1)
  | revoke (revocation : RevocationV1)

namespace WriteRequest

def serve (R : Relay) (D : Durability) : WriteRequest → Route Unit
  | .commitments event => do
    let _ ← postCommitments R D event
    return ()
  | .revoke revocation => postRevoke R D revocation

/-- The request gets as far as the database, which throws. -/
def InsertThrows (R : Relay) (D : Durability) (S : InMemoryRelayStore) (error : String) :
    WriteRequest → Prop
  | .commitments event => ∃ accepted S', (acceptCommitment R D event).run S = (.ok accepted, S') ∧
    D.insertEvent event accepted = .error error
  | .revoke revocation => ∃ S', (acceptRevoke R D revocation).run S = (.ok (), S') ∧
    storeRevocation D revocation = .error error

end WriteRequest

/-- The statuses of the keys of an identity, in order. -/
def InMemoryRelayStore.keyStatuses (S : InMemoryRelayStore) (d : TrustID) :
    Option (List (JsString × VerificationKeyStatus)) :=
  (S.resolver.identities.get? d).map fun identity =>
    identity.verification_methods.map fun key => (key.id, key.status)

/-- What a failed request has to leave as it was. -/
structure SameStore (S S' : InMemoryRelayStore) : Prop where
  nonces : S'.nonces = S.nonces
  events : S'.events = S.events
  revocations : S'.revocations = S.revocations
  statuses : S'.keyStatuses = S.keyStatuses

/-- The entry that the log in memory would get for the revocation now. -/
def entryNow (R : Relay) (S : InMemoryRelayStore) (revocation : RevocationV1) (hash : Hex32) :
    AcceptedLogObject where
  commitment_hash := hash
  shard := shardForTrustID R.noble revocation.trust_id
  epoch_start_ms := R.epochStart (R.host.parse revocation.effective_at)
  epoch_duration_ms := R.duration
  log_index := (objectsFor S.revocations (R.epochStart (R.host.parse revocation.effective_at))
    (shardForTrustID R.noble revocation.trust_id)).length
  accepted_at := R.host.nowText

/-- The log in memory holds the revocation as it would be entered now. -/
def LoggedNow (R : Relay) (S : InMemoryRelayStore) (revocation : RevocationV1) : Prop :=
  ∃ hash, revocationHash R.noble revocation = .ok hash ∧
    S.revocations.get? hash = some (entryNow R S revocation hash)

/-- The request has nothing to write to memory: the revocation is in the log already and the key is
revoked. An event that is accepted always is new. -/
def WriteRequest.NothingNew (R : Relay) (S : InMemoryRelayStore) : WriteRequest → Prop
  | .commitments _ => False
  | .revoke revocation => LoggedNow R S revocation ∧
    NothingToRevoke S.resolver revocation.trust_id revocation.revoked_key

theorem callStore_run {f : InMemoryRelayStore → Js InMemoryRelayStore} :
    (callStore f).run S = (.ok (), S') ↔ f S = .ok S' := by
  rw [callStore, run_query_ok]
  cases f S with
  | ok result => simp [Functor.map, Except.map]
  | error e => simp [Functor.map, Except.map]

section Revocations

variable {R : Relay} {S S' : InMemoryRelayStore}

theorem find_statuses (methods : List VerificationMethodV1) (k : JsString) :
    ((methods.map fun key => (key.id, key.status)).find? fun entry => entry.1 == k).map Prod.snd =
      (methods.find? fun key => key.id == k).map fun key => key.status := by
  rw [List.find?_map, Option.map_map]
  rfl

/-- Marking a key changes no status exactly where there is nothing to revoke. -/
theorem revokeKey_statuses {resolver : MemoryTrustResolver} {d : TrustID} {k : JsString} :
    (∀ other, ((resolver.revokeKey d k).identities.get? other).map
        (fun identity => identity.verification_methods.map fun key => (key.id, key.status)) =
      (resolver.identities.get? other).map
        fun identity => identity.verification_methods.map fun key => (key.id, key.status)) ↔
      NothingToRevoke resolver d k := by
  constructor
  · intro h identity hi key hk
    have hd := h d
    rw [revokeKey_get?, if_pos rfl, hi, Option.map_some, Option.map_some, Option.map_some,
      Option.some.injEq] at hd
    have hfound := congrArg (fun entries => (entries.find? fun entry : JsString × _ =>
      entry.1 == k).map Prod.snd) hd
    rw [find_statuses, find_statuses, IdentityDocumentV1.revoking, find_revokeMethod,
      Option.map_map] at hfound
    have hkey : (identity.verification_methods.find? fun key => key.id == k) = some key := hk
    rw [hkey] at hfound
    exact (Option.some.inj hfound).symm
  · intro h other
    rw [revokeKey_get?]
    split
    · next he =>
      subst he
      cases hi : resolver.identities.get? other with
      | none => rfl
      | some identity =>
        rw [Option.map_some, IdentityDocumentV1.revoking, revokeMethod_same (h identity hi)]
    · rfl

/-- What a revocation that is accepted leaves in memory. -/
theorem finishRevoke_entry (h : S.finishRevoke R call = .ok S') :
    ∃ hash, revocationHash R.noble call.revocation = .ok hash ∧
      S' = { S with
        revocations := S.revocations.set hash (entryNow R S call.revocation hash)
        resolver := S.resolver.revokeKey call.revocation.trust_id call.revocation.revoked_key } := by
  obtain ⟨signed, -, h⟩ := bind_eq_ok.mp h
  split at h
  · cases h
  · simp only [bind_eq_ok] at h
    obtain ⟨_, -, ⟨accepted, S₁⟩, ha, h⟩ := h
    cases h
    obtain ⟨hash, hh, ha⟩ := bind_eq_ok.mp ha
    obtain ⟨item, hi, ha⟩ := bind_eq_ok.mp ha
    cases ha
    unfold InMemoryRelayStore.acceptLogObject at hi
    split at hi
    · cases hi
    · cases hi
      exact ⟨hash, hh, rfl⟩

theorem beginRevoke_revocation (h : S.beginRevoke R route revocation durable = .ok call) :
    call.revocation = revocation := by
  unfold InMemoryRelayStore.beginRevoke at h
  split at h
  · cases h
  · obtain ⟨_, -, h⟩ := bind_eq_ok.mp h
    cases h
    rfl

theorem acceptRevoke_entry (h : (acceptRevoke R D revocation).run S = (.ok (), S')) :
    ∃ hash, revocationHash R.noble revocation = .ok hash ∧
      S' = { S with
        revocations := S.revocations.set hash (entryNow R S revocation hash)
        resolver := S.resolver.revokeKey revocation.trust_id revocation.revoked_key } := by
  obtain ⟨call, hcall, h⟩ := run_select_bind_ok.mp h
  obtain ⟨identity, -, h⟩ := run_lift_bind_ok.mp h
  have hentry := finishRevoke_entry (callStore_run.mp h)
  rw [← beginRevoke_revocation hcall]
  exact hentry

end Revocations

section Commitments

variable {R : Relay} {S S' : InMemoryRelayStore}

theorem refreshIdentity_nonces (h : S.refreshIdentity R durable = .ok S') :
    S'.nonces = S.nonces := by
  cases durable with
  | none =>
    cases h
    rfl
  | some identity =>
    obtain ⟨resolver, rfl⟩ := upsertIdentity_ok h
    rfl

/-- The nonce of an event that is accepted is new, and is taken then. -/
theorem acceptCommitment_nonce (h : (acceptCommitment R D event).run S = (.ok accepted, S')) :
    nonceKey event ∉ S.nonces ∧ S'.nonces = insert (nonceKey event) S.nonces := by
  obtain ⟨_, -, h⟩ := run_lift_bind_ok.mp h
  obtain ⟨durable, -, h⟩ := run_lift_bind_ok.mp h
  obtain ⟨_, S₁, hrefresh, h⟩ := run_bind_ok.mp h
  have hnonces := refreshIdentity_nonces (callStore_run.mp hrefresh)
  obtain ⟨call, hbegin, hfinish⟩ := bind_eq_ok.mp (run_query_ok.mp h)
  obtain ⟨hevent, -, hnew, -⟩ := beginAcceptEvent_ok hbegin
  obtain ⟨_, -, -, -, -, -, -, -, -, rfl⟩ := finishAcceptEvent_ok hfinish
  rw [hnonces] at hnew
  refine ⟨hnew, ?_⟩
  dsimp only
  rw [hevent, hnonces]

end Commitments

/-- A request whose insert throws leaves the store in memory as it was exactly where it had nothing
to write to it; an event that was accepted never does. -/
theorem failed_insert_restores_iff {R : Relay} {D : Durability} {S : InMemoryRelayStore}
    {request : WriteRequest} (h : request.InsertThrows R D S error) :
    ((request.serve R D).run S).1 = .error error ∧
      (SameStore S ((request.serve R D).run S).2 ↔ request.NothingNew R S) := by
  cases request with
  | commitments event =>
    obtain ⟨accepted, S', hrun, hthrow⟩ := h
    have hserve : ((WriteRequest.commitments event).serve R D).run S = (.error error, S') := by
      rw [WriteRequest.serve, run_bind, postCommitments, run_bind, hrun]
      simp [run_lift_bind, hthrow]
    rw [hserve]
    refine ⟨rfl, ?_⟩
    obtain ⟨hnew, hnonces⟩ := acceptCommitment_nonce hrun
    constructor
    · intro hsame
      apply hnew
      rw [← hsame.nonces, hnonces]
      exact Finset.mem_insert_self _ _
    · exact False.elim
  | revoke revocation =>
    obtain ⟨S', hrun, hthrow⟩ := h
    have hserve : ((WriteRequest.revoke revocation).serve R D).run S = (.error error, S') := by
      rw [WriteRequest.serve, postRevoke, run_bind, hrun]
      simp [hthrow]
    rw [hserve]
    refine ⟨rfl, ?_⟩
    obtain ⟨hash, hhash, rfl⟩ := acceptRevoke_entry hrun
    constructor
    · intro hsame
      refine ⟨⟨hash, hhash, OrderedMap.set_eq_self.mp hsame.revocations⟩, ?_⟩
      exact revokeKey_statuses.mp (congrFun hsame.statuses)
    · rintro ⟨⟨hash', hhash', hlogged⟩, hrevoked⟩
      cases Except.ok.inj (hhash.symm.trans hhash')
      exact ⟨rfl, rfl, OrderedMap.set_eq_self.mpr hlogged,
        funext (revokeKey_statuses.mpr hrevoked)⟩

/-- Alice's segment, closed by another relay. -/
def closedDatabase : Database :=
  { emptyDatabase with
    checkpoints := [{
      checkpoint_hash := sampleCheckpointHash
      epoch_start_ms := 1779667200000
      epoch_duration_ms := 300000
      shard := js "0daa"
      event_root := ZERO_HASH
      receipt_root := ZERO_HASH
      attestation_root := ZERO_HASH
      revocation_root := ZERO_HASH
      event_count := 0
      receipt_count := 0
      previous_checkpoint := ZERO_HASH
      relay_id := js "did:tsl:relay:other"
      relay_signature := js "0x01"
      settlement_backend := none
      settlement_tx := none
      settlement_status := js "submitted" }] }

def closedRelay : Relay := (sampleRelay logNoble).at sampleClock

/-- What the relay answers to the sample event on each of the databases in turn. -/
def answers : InMemoryRelayStore → List Database → List (Js Unit)
  | _, [] => []
  | S, db :: rest =>
    let D := (samplePostgres logNoble).durability closedRelay db
    let served := ((WriteRequest.commitments sampleEnvelope).serve closedRelay D).run S
    served.1 :: answers served.2 rest

/-- An event that fails on a closed segment cannot be submitted again. -/
theorem failed_commitment_replays : answers aliceStore [closedDatabase, emptyDatabase] =
    [.error "TSL_LOG_SEGMENT_CLOSED", .error "TSL_NONCE_REPLAY: Duplicate sender/key/nonce"] := by
  decide +kernel

theorem failed_insert_restores_iff_sample :
    let D := (samplePostgres logNoble).durability closedRelay closedDatabase
    ¬SameStore aliceStore
      (((WriteRequest.commitments sampleEnvelope).serve closedRelay D).run aliceStore).2 := by
  intro D
  have hthrow : (match ((acceptCommitment closedRelay D sampleEnvelope).run aliceStore).1 with
      | .ok accepted => D.insertEvent sampleEnvelope accepted
      | .error _ => return ()) = .error "TSL_LOG_SEGMENT_CLOSED" := by
    decide +kernel
  rcases hrun : (acceptCommitment closedRelay D sampleEnvelope).run aliceStore with ⟨result, S'⟩
  rw [hrun] at hthrow
  cases result with
  | error e => cases hthrow
  | ok accepted =>
    have hinsert : (WriteRequest.commitments sampleEnvelope).InsertThrows closedRelay D aliceStore
        "TSL_LOG_SEGMENT_CLOSED" := ⟨accepted, S', hrun, hthrow⟩
    exact fun hsame => (failed_insert_restores_iff hinsert).2.mp hsame

end Continuity
