import Continuity.CheckpointIdentity
import Continuity.RelaySettlement

namespace Continuity
open Collections Frames
set_option autoImplicit true

/-- What the making of checkpoints rests on: the numbers in them have a canonical text, and a seed
that has a public key signs every message. -/
structure Relay.Operable (R : Relay) : Prop where
  numbers : NumberText R.host
  duration : R.duration.isSafeInteger = true
  epochs : ∀ text time, R.host.parse text = some time →
    (R.epochStart (some time)).isSafeInteger = true
  signs : ∀ seed key, R.noble.ed25519GetPublicKey seed = .ok key → ∀ message,
    ∃ signature, R.noble.ed25519Sign message seed = .ok signature

/-- The arrays of the entries of the logs exist: none is longer than the language allows. -/
structure InMemoryRelayStore.FitsArrays (S : InMemoryRelayStore) : Prop where
  events : S.events.values.length < 2 ^ 32
  receipts : S.receipts.values.length < 2 ^ 32
  attestations : S.attestations.values.length < 2 ^ 32
  revocations : S.revocations.values.length < 2 ^ 32

/-- Every commitment of the log is a hex text. -/
def HexLog (items : OrderedMap Hex32 AcceptedLogObject) : Prop :=
  ∀ item ∈ items.values, ∃ bytes, item.commitment_hash = bytesToHex bytes

section Totality

variable {R : Relay} {S : InMemoryRelayStore}

theorem buildMerkleTree_total (hb : ∀ c ∈ commitments, ∃ bytes, c = bytesToHex bytes)
    (hl : commitments.length ≤ 256 ^ 8) : ∃ tree, buildMerkleTree N commitments = .ok tree := by
  by_cases hn : commitments = []
  · subst hn
    exact ⟨_, rfl⟩
  · have hbytes : ∀ c ∈ commitments, hexToBytes c = .ok (hexBytes c) := by
      intro c hc
      obtain ⟨bytes, he⟩ := hb c hc
      exact hexText_bytes he
    obtain ⟨above, -, ht⟩ := buildMerkleTree_ok (N := N) hbytes hl hn
    exact ⟨_, ht⟩

theorem objectsFor_mem (h : item ∈ objectsFor items epoch shard) : item ∈ items.values := by
  simp only [objectsFor, segmentItems, List.mem_insertionSort, List.mem_filter] at h
  exact h.1

theorem objectsFor_length (items : OrderedMap Hex32 AcceptedLogObject) (epoch : JsNumber)
    (shard : JsString) : (objectsFor items epoch shard).length ≤ items.values.length := by
  rw [objectsFor, segmentItems, List.length_insertionSort]
  exact List.length_filter_le _ _

theorem HexLog.tree (h : HexLog items) (hl : items.values.length < 2 ^ 32) (N : Noble)
    (epoch : JsNumber) (shard : JsString) :
    ∃ tree, buildMerkleTree N (commitmentsOf (objectsFor items epoch shard)) = .ok tree := by
  have hle := objectsFor_length items epoch shard
  apply buildMerkleTree_total
  · intro c hc
    obtain ⟨item, hi, rfl⟩ := List.mem_map.mp hc
    exact h item (objectsFor_mem hi)
  · rw [commitmentsOf, List.length_map]
    omega

theorem unsignedCheckpoint_epoch (h : S.unsignedCheckpoint R epoch shard = .ok checkpoint) :
    checkpoint.epoch_start_ms = epoch := by
  simp only [InMemoryRelayStore.unsignedCheckpoint, bind_eq_ok] at h
  obtain ⟨_, -, _, -, _, -, _, -, _, -, _, -, h⟩ := h
  cases h
  rfl

theorem pseudoRelaySignature_total (h : Encodable (.num epoch)) (N : Noble) (shard : JsString)
    (event_root : Hex32) :
    ∃ signature, pseudoRelaySignature N epoch shard event_root = .ok signature := by
  obtain ⟨payload, hp⟩ := canonicalBytes_total (v := signaturePayload epoch shard event_root)
    ⟨h, True.intro, True.intro, True.intro⟩
  let event := pseudoEvent (hashDomain N (js "tsl.relay.signature.payload.v1") payload)
  have hfields : EncodableFields event.toFields :=
    ⟨True.intro, True.intro, True.intro, True.intro, True.intro, True.intro, True.intro,
      True.intro, True.intro, True.intro⟩
  obtain ⟨hash, hhash⟩ : ∃ hash, eventHash N event = .ok hash :=
    hashDomain_total (encodableFields_without hfields [js "signature"]) N DOMAIN_TAGS.EVENT_V1
  obtain ⟨bytes, rfl⟩ := hashSignedObject_hex hhash
  have hzero : hexToBytes event.signature = .ok [0] := by
    change hexToBytes (js "0x00") = .ok [0]
    decide
  simp only [pseudoRelaySignature, hp, bind, Except.bind]
  change ∃ signature, commitmentHash N event = .ok signature
  simp only [commitmentHash, commitmentHashFromParts, hhash, hzero, hexToBytes_bytesToHex, bind,
    Except.bind]
  exact ⟨_, rfl⟩

/-- A store that could be created can sign. -/
theorem signCheckpoint_total (hR : R.Operable) (hs : InMemoryRelayStore.create R = .ok store)
    (he : Encodable (.num checkpoint.epoch_start_ms))
    (hh : checkpointHash R.noble checkpoint = .ok (bytesToHex bytes)) :
    ∃ signed, InMemoryRelayStore.signCheckpoint R checkpoint = .ok signed := by
  unfold InMemoryRelayStore.signCheckpoint
  split
  · next seed hseed =>
    obtain ⟨identity, hi, -⟩ := bind_eq_ok.mp hs
    simp only [Relay.relay_identity, hseed] at hi
    obtain ⟨document, hd, -⟩ := map_eq_ok.mp hi
    simp only [buildIdentityFromSeed, deriveEd25519PublicKey, bind_eq_ok] at hd
    obtain ⟨_, ⟨secret, hsecret, key, hkey, -⟩, -⟩ := hd
    obtain ⟨signature, hsign⟩ := hR.signs secret key hkey bytes
    have hunsigned := checkpointHash_unsigned R.noble checkpoint
      checkpoint.checkpoint_identity_hash checkpoint.settlement_tx (js "0x00")
    rw [hh] at hunsigned
    simp only [signCheckpointWithSeed, hunsigned, signEd25519, hexToBytes_bytesToHex, hsecret,
      hsign, bind, Except.bind]
    exact ⟨_, rfl⟩
  · obtain ⟨signature, hp⟩ := pseudoRelaySignature_total he R.noble checkpoint.shard
      checkpoint.event_root
    simp only [hp, bind, Except.bind]
    exact ⟨_, rfl⟩

/-- The settled checkpoints before an epoch have a hash, so the last of them has one. -/
theorem previousCheckpointHash_total
    (h : ∀ checkpoint ∈ S.settledCheckpoints.values, ∃ hash,
      checkpointHash R.noble checkpoint = .ok hash) (epoch : JsNumber) (shard : JsString) :
    ∃ hash, S.previousCheckpointHash R epoch shard = .ok hash := by
  unfold InMemoryRelayStore.previousCheckpointHash
  dsimp only
  split
  · next previous rest hp =>
    apply h
    have hm : previous ∈ previous :: rest := List.mem_cons_self
    rw [← hp, List.mem_insertionSort, List.mem_filter] at hm
    exact hm.1
  · exact ⟨_, rfl⟩

/-- What a store keeps so that each of its segments has a checkpoint. -/
structure HexStore (N : Noble) (S : InMemoryRelayStore) : Prop where
  events : ∀ a ∈ S.events.values, ∃ bytes, a.commitment_hash = bytesToHex bytes
  receipts : HexLog S.receipts
  attestations : HexLog S.attestations
  revocations : HexLog S.revocations
  settled : ∀ checkpoint ∈ S.settledCheckpoints.values, ∃ hash,
    checkpointHash N checkpoint = .ok hash

theorem eventCommitments_tree (h : HexStore N S) (hl : S.events.values.length < 2 ^ 32)
    (epoch : JsNumber) (shard : JsString) :
    (S.eventCommitments epoch shard).length < 2 ^ 32 ∧
      ∃ tree, buildMerkleTree N (S.eventCommitments epoch shard) = .ok tree := by
  have hle : (S.eventCommitments epoch shard).length ≤ S.events.values.length := by
    simp only [InMemoryRelayStore.eventCommitments, commitmentsOf, List.length_map,
      InMemoryRelayStore.eventsFor, segmentItems, List.length_insertionSort]
    exact List.length_filter_le _ _
  refine ⟨by omega, ?_⟩
  apply buildMerkleTree_total
  · intro c hc
    simp only [InMemoryRelayStore.eventCommitments, commitmentsOf, List.map_map, List.mem_map,
      InMemoryRelayStore.eventsFor, segmentItems, List.mem_insertionSort, List.mem_filter] at hc
    obtain ⟨a, ⟨ha, -⟩, rfl⟩ := hc
    exact h.events a ha
  · omega

/-- Every segment at a safe epoch has a checkpoint. -/
theorem checkpointFor_total (hR : R.Operable) (hs : InMemoryRelayStore.create R = .ok store)
    (h : HexStore R.noble S) (hf : S.FitsArrays) (he : Encodable (.num epoch))
    (shard : JsString) : ∃ checkpoint, S.checkpointFor R epoch shard = .ok checkpoint := by
  unfold InMemoryRelayStore.checkpointFor
  split
  · exact ⟨_, rfl⟩
  · obtain ⟨hcount, htree⟩ := eventCommitments_tree h hf.events epoch shard
    have hevents : Encodable (.num (.ofNat (S.eventCommitments epoch shard).length)) :=
      encodable_ofNat (by omega)
    have hobjects : Encodable
        (.num (.ofNat (commitmentsOf (objectsFor S.receipts epoch shard)).length)) := by
      have hle := objectsFor_length S.receipts epoch shard
      have hlt := hf.receipts
      rw [commitmentsOf, List.length_map]
      exact encodable_ofNat (by omega)
    have hunsigned : ∃ checkpoint, S.unsignedCheckpoint R epoch shard = .ok checkpoint := by
      unfold InMemoryRelayStore.unsignedCheckpoint
      apply bind_total htree
      intro eventTree _
      apply bind_total (h.receipts.tree hf.receipts R.noble epoch shard)
      intro receiptTree _
      apply bind_total (h.attestations.tree hf.attestations R.noble epoch shard)
      intro attestationTree _
      apply bind_total (h.revocations.tree hf.revocations R.noble epoch shard)
      intro revocationTree _
      apply bind_total (previousCheckpointHash_total h.settled epoch shard)
      intro previous _
      refine bind_total (checkpointHash_total _ he ⟨hR.duration, ?_⟩ hevents hobjects R.noble) ?_
      · simp [Relay.duration, JsNumber.ofNat]
      · intro hash _
        exact ⟨_, rfl⟩
    apply bind_total hunsigned
    intro checkpoint hc
    obtain ⟨_, _, _, _, hash, -, -, -, -, -, -, -, -, -, hh⟩ := unsignedCheckpoint_ok hc
    obtain ⟨bytes, rfl⟩ := checkpointHash_hex hh
    rw [checkpointHash_unsigned R.noble checkpoint none checkpoint.settlement_tx
      checkpoint.relay_signature] at hh
    exact signCheckpoint_total hR hs (by rw [unsignedCheckpoint_epoch hc]; exact he) hh

end Totality

section Commitments

variable {N : Noble}

/-- The two messages that are hashed for the commitment of an event. -/
def commitmentMessages (N : Noble) (event : EventCommitmentV1) : List Bytes :=
  match canonicalBytes (.obj (withoutSignature event.toFields)), hexToBytes event.signature with
  | .ok payload, .ok signature =>
    let message := domainMessage DOMAIN_TAGS.EVENT_V1 payload
    [message, domainMessage DOMAIN_TAGS.COMMITMENT_V1 (N.sha256 message ++ signature)]
  | _, _ => []

theorem commitmentHash_messages (h : commitmentHash N event = .ok c) :
    ∃ payload signature, canonicalBytes (.obj (withoutSignature event.toFields)) = .ok payload ∧
      commitmentMessages N event = [domainMessage DOMAIN_TAGS.EVENT_V1 payload,
        domainMessage DOMAIN_TAGS.COMMITMENT_V1
          (N.sha256 (domainMessage DOMAIN_TAGS.EVENT_V1 payload) ++ signature)] ∧
      c = bytesToHex (N.sha256 (domainMessage DOMAIN_TAGS.COMMITMENT_V1
        (N.sha256 (domainMessage DOMAIN_TAGS.EVENT_V1 payload) ++ signature))) := by
  simp only [commitmentHash, eventHash, hashSignedObject, commitmentHashFromParts,
    bind_eq_ok] at h
  obtain ⟨hash, ⟨payload, hp, hh⟩, bytes, hb, signature, hs, hc⟩ := h
  cases hh
  simp only [hashDomain, sha256Hex, hexToBytes_bytesToHex, Except.ok.injEq] at hb
  subst hb
  cases hc
  refine ⟨payload, signature, hp, ?_, rfl⟩
  simp only [commitmentMessages, hp, hs]

/-- The fields that make up the nonce key of an event, in its canonical payload. -/
theorem event_fields (event : EventCommitmentV1) :
    ((withoutSignature event.toFields).filter fun f => f.1 == js "sender") =
        [(js "sender", .str event.sender)] ∧
      ((withoutSignature event.toFields).filter fun f => f.1 == js "signing_key_id") =
        [(js "signing_key_id", .str event.signing_key_id)] ∧
      ((withoutSignature event.toFields).filter fun f => f.1 == js "nonce") =
        [(js "nonce", .str event.nonce)] := by
  obtain ⟨_, _, _, receiver, _, metadata, previous, _, _, _, _⟩ := event
  cases receiver <;> cases metadata <;> cases previous <;> exact ⟨rfl, rfl, rfl⟩

/-- Without a collision among their messages, events with one commitment have one nonce key. -/
theorem commitmentHash_nonceKey {events : List EventCommitmentV1} (hd : Digest32 N)
    (hi : Set.InjOn N.sha256 {m | ∃ e ∈ events, m ∈ commitmentMessages N e})
    (ha : a ∈ events) (hb : b ∈ events) (hca : commitmentHash N a = .ok c)
    (hcb : commitmentHash N b = .ok c) : nonceKey a = nonceKey b := by
  obtain ⟨p, σ, hp, hm, hc⟩ := commitmentHash_messages hca
  obtain ⟨q, τ, hq, hm', hc'⟩ := commitmentHash_messages hcb
  have hsigned := hi ⟨a, ha, by simp [hm]⟩ ⟨b, hb, by simp [hm']⟩
    (bytesToHex_injective (hc.symm.trans hc'))
  have hhash := (List.append_inj (domainMessage_injective (by decide) hsigned)
    ((hd _).trans (hd _).symm)).1
  have hevent := hi ⟨a, ha, by simp [hm]⟩ ⟨b, hb, by simp [hm']⟩ hhash
  have hpayload := domainMessage_injective (by decide) hevent
  rw [← hpayload] at hq
  obtain ⟨hsender, hkey, hnonce⟩ := event_fields a
  obtain ⟨hsender', hkey', hnonce'⟩ := event_fields b
  have hs := canonicalBytes_field hp hq hsender hsender'
  have hk := canonicalBytes_field hp hq hkey hkey'
  have hn := canonicalBytes_field hp hq hnonce hnonce'
  simp only [normalize, JsValue.str.injEq] at hs hk hn
  rw [nonceKey, nonceKey, hs, hk, hn]

end Commitments

/-- A call of the store from its start to its end. -/
inductive RelayCall where
  | upsertIdentity (identity : IdentityDocumentV1)
  | acceptEvent (event : EventCommitmentV1)
  | acceptReceipt (receipt : ReceiptCommitmentV1)
  | acceptAttestation (attestation : AttestationV1)
  | acceptRevocation (revocation : RevocationV1)
  | submitCheckpoint (epoch_start_ms : JsNumber) (shard : JsString)

/-- The stretches of a call that no other call interrupts. -/
def RelayCall.stretches (first second : Moment) : RelayCall → List (Moment × RelayAction)
  | .upsertIdentity identity => [(first, .upsertIdentity identity)]
  | .acceptEvent event => [(first, .beginEvent event), (second, .resumeEvent 0)]
  | .acceptReceipt receipt => [(first, .acceptReceipt receipt)]
  | .acceptAttestation attestation => [(first, .acceptAttestation attestation)]
  | .acceptRevocation revocation => [(first, .acceptRevocation revocation)]
  | .submitCheckpoint epoch_start_ms shard =>
    [(first, .beginSubmit epoch_start_ms shard), (second, .resumeSubmit 0)]

def RelaySystem.serve (R : Relay) (s : RelaySystem) (entry : Moment × Moment × RelayCall) :
    RelaySystem :=
  run (RelaySystem.stepIn R) s (entry.2.2.stretches entry.1 entry.2.1)

/-- The events that the calls submit. -/
def submittedEvents (calls : List (Moment × Moment × RelayCall)) : List EventCommitmentV1 :=
  calls.filterMap fun entry => match entry.2.2 with
    | .acceptEvent event => some event
    | _ => none

/-- A store between two calls: all it has accepted was submitted, and has its proof. -/
structure ServingInvariant (R : Relay) (events : List EventCommitmentV1) (s : RelaySystem) :
    Prop where
  settlement : SettlementInvariant R s
  hex : HexStore R.noble s.store
  epochs : ∀ a ∈ s.accepted, Encodable (.num a.epoch_start_ms)
  submitted : ∀ a ∈ s.accepted, a.event ∈ events
  pending : s.pending = []
  submitting : s.submitting = []

/-- The actions of the calls that do not await anything. -/
def RelayAction.whole : RelayAction → Bool
  | .beginEvent _ | .resumeEvent _ | .beginSubmit _ _ | .resumeSubmit _ => false
  | _ => true

section Serving

variable {R : Relay} {s : RelaySystem}

theorem serve_whole (R : Relay) (s : RelaySystem) (first second : Moment) (call : RelayCall)
    (h : call.stretches first second = [(first, action)]) :
    s.serve R (first, second, call) = s.stepIn R (first, action) := by
  simp only [RelaySystem.serve, h, run, List.foldl_cons, List.foldl_nil]

/-- An event that is served alone is refused or goes to the log. -/
theorem serve_acceptEvent (R : Relay) (first second : Moment) (event : EventCommitmentV1)
    (hp : s.pending = []) :
    s.serve R (first, second, .acceptEvent event) = s ∨
      ∃ call accepted store, s.store.beginAcceptEvent (R.during first) event = .ok call ∧
        s.store.finishAcceptEvent (R.during second) call = .ok (accepted, store) ∧
        s.serve R (first, second, .acceptEvent event) =
          { s with store, accepted := s.accepted ++ [accepted] } := by
  obtain ⟨store, pending, submitting, log⟩ := s
  cases hp
  simp only [RelaySystem.serve, RelayCall.stretches, run, List.foldl_cons, List.foldl_nil,
    RelaySystem.stepIn, RelaySystem.act, RelaySystem.beginEvent]
  cases hb : store.beginAcceptEvent (R.during first) event with
  | error e => exact .inl rfl
  | ok call =>
    simp only [RelaySystem.resumeEvent, List.nil_append, List.getElem?_cons_zero,
      List.eraseIdx_cons_zero]
    cases hf : store.finishAcceptEvent (R.during second) call with
    | error e => exact .inl rfl
    | ok result =>
      obtain ⟨accepted, store'⟩ := result
      exact .inr ⟨call, accepted, store', rfl, hf, rfl⟩

/-- A submission that is served alone fails or closes its segment. -/
theorem serve_submitCheckpoint (R : Relay) (first second : Moment) (epoch : JsNumber)
    (shard : JsString) (hp : s.submitting = []) :
    s.serve R (first, second, .submitCheckpoint epoch shard) = s ∨
      ∃ call checkpoint store,
        s.store.beginSubmitCheckpoint (R.during first) epoch shard = .ok call ∧
        s.store.finishSubmitCheckpoint (R.during second) call = .ok (checkpoint, store) ∧
        s.serve R (first, second, .submitCheckpoint epoch shard) = { s with store } := by
  obtain ⟨store, pending, submitting, log⟩ := s
  cases hp
  simp only [RelaySystem.serve, RelayCall.stretches, run, List.foldl_cons, List.foldl_nil,
    RelaySystem.stepIn, RelaySystem.act, RelaySystem.beginSubmit]
  cases hb : store.beginSubmitCheckpoint (R.during first) epoch shard with
  | error e => exact .inl rfl
  | ok call =>
    simp only [RelaySystem.resumeSubmit, List.nil_append, List.getElem?_cons_zero,
      List.eraseIdx_cons_zero]
    cases hf : store.finishSubmitCheckpoint (R.during second) call with
    | error e => exact .inl rfl
    | ok result =>
      obtain ⟨checkpoint, store'⟩ := result
      exact .inr ⟨call, checkpoint, store', rfl, hf, rfl⟩

/-- A call that is served alone meets the conditions of an orderly run. -/
theorem ServingInvariant.orderly {call : RelayCall} (h : ServingInvariant R events s) (hd : Digest32 R.noble)
    (hi : Set.InjOn R.noble.sha256 {m | ∃ e ∈ events, m ∈ commitmentMessages R.noble e})
    (he : ∀ event, call = .acceptEvent event → event ∈ events) :
    Guarded (RelaySystem.stepIn R) (OrderlyStep R) s (call.stretches first second) := by
  cases call with
  | upsertIdentity identity => exact ⟨orderlyStep_of_ne nofun, True.intro⟩
  | acceptReceipt receipt => exact ⟨orderlyStep_of_ne nofun, True.intro⟩
  | acceptAttestation attestation => exact ⟨orderlyStep_of_ne nofun, True.intro⟩
  | acceptRevocation revocation => exact ⟨orderlyStep_of_ne nofun, True.intro⟩
  | submitCheckpoint epoch shard =>
    exact ⟨orderlyStep_of_ne nofun, orderlyStep_of_ne nofun, True.intro⟩
  | acceptEvent event =>
    refine ⟨orderlyStep_of_ne nofun, ?_, True.intro⟩
    simp only [RelaySystem.stepIn, RelaySystem.act, RelaySystem.beginEvent]
    cases hb : s.store.beginAcceptEvent (R.during first) event with
    | error e =>
      refine ⟨?_, ?_⟩
      · intro n call _ hc
        simp [h.pending] at hc
      · intro n call _ hc
        simp [h.pending] at hc
    | ok pending =>
      obtain ⟨hevent, -, hn, -⟩ := beginAcceptEvent_ok hb
      refine ⟨?_, ?_⟩
      · intro n call hr hc _
        cases hr
        simp only [h.pending, List.nil_append, List.getElem?_cons_zero, Option.some.injEq] at hc
        subst hc
        rw [hevent]
        refine ⟨hn, ?_⟩
        intro c hcommit
        by_contra hhas
        simp only [Bool.not_eq_false, OrderedMap.has, Option.isSome_iff_exists] at hhas
        obtain ⟨a, hget⟩ := hhas
        have ha : a ∈ s.accepted := by
          rw [← h.settlement.log.stored]
          exact OrderedMap.mem_values.mpr ⟨c, hget⟩
        have hc := h.settlement.committed a ha
        rw [h.settlement.keyed c a hget] at hc
        have hkey := commitmentHash_nonceKey hd hi (h.submitted a ha) (he event rfl) hc hcommit
        exact hn (hkey ▸ h.settlement.log.recorded a ha)
      · intro n call _ _ _ p hp
        simp only [h.submitting] at hp
        cases hp

theorem HexLog.set (h : HexLog items) (hc : accepted.commitment_hash = bytesToHex bytes)
    (commitment : Hex32) : HexLog (items.set commitment accepted) := by
  intro item hm
  rcases OrderedMap.mem_values_set hm with rfl | hm
  · exact ⟨bytes, hc⟩
  · exact h item hm

theorem ServingInvariant.of_store (h : ServingInvariant R events s)
    (hs : SettlementInvariant R { s with store }) (hx : HexStore R.noble store) :
    ServingInvariant R events { s with store } :=
  ⟨hs, hx, h.epochs, h.submitted, h.pending, h.submitting⟩

/-- A call that runs in one stretch, as far as it concerns the logs. -/
theorem ServingInvariant.act (h : ServingInvariant R events s) (m : Moment)
    (ha : action.whole = true) (hs : SettlementInvariant R (s.stepIn R (m, action))) :
    ServingInvariant R events (s.stepIn R (m, action)) := by
  have ht : Transition (R.during m) s action (s.stepIn R (m, action)) := act_transition _ s action
  generalize s.stepIn R (m, action) = t at hs ht
  cases ht with
  | unchanged => exact h
  | resolved resolver =>
    exact h.of_store hs ⟨h.hex.events, h.hex.receipts, h.hex.attestations, h.hex.revocations,
      h.hex.settled⟩
  | receipt hok =>
    obtain ⟨commitment, hc, hnext, rfl⟩ := acceptReceipt_ok hok
    obtain ⟨bytes, hbytes⟩ := hashSignedObject_hex hc
    exact h.of_store hs ⟨h.hex.events,
      h.hex.receipts.set (hnext.commitment_hash.trans hbytes) commitment, h.hex.attestations,
      h.hex.revocations, h.hex.settled⟩
  | attestation hok =>
    obtain ⟨commitment, hc, hnext, rfl⟩ := acceptAttestation_ok hok
    obtain ⟨bytes, hbytes⟩ := hashSignedObject_hex hc
    exact h.of_store hs ⟨h.hex.events, h.hex.receipts,
      h.hex.attestations.set (hnext.commitment_hash.trans hbytes) commitment,
      h.hex.revocations, h.hex.settled⟩
  | revocation hok =>
    obtain ⟨commitment, hc, hnext, rfl⟩ := acceptRevocation_ok hok
    obtain ⟨bytes, hbytes⟩ := hashSignedObject_hex hc
    exact h.of_store hs ⟨h.hex.events, h.hex.receipts, h.hex.attestations,
      h.hex.revocations.set (hnext.commitment_hash.trans hbytes) commitment, h.hex.settled⟩
  | begun => cases ha
  | refused => cases ha
  | logged => cases ha
  | submitted => cases ha
  | unsettled => cases ha
  | settled => cases ha

theorem ServingInvariant.logged (h : ServingInvariant R events s) (hR : R.Operable)
    (he : event ∈ events) (hb : s.store.beginAcceptEvent (R.during first) event = .ok call)
    (hf : s.store.finishAcceptEvent (R.during second) call = .ok (accepted, store))
    (hs : SettlementInvariant R { s with store, accepted := s.accepted ++ [accepted] }) :
    ServingInvariant R events { s with store, accepted := s.accepted ++ [accepted] } := by
  obtain ⟨hevent, htime, -, -⟩ := beginAcceptEvent_ok hb
  obtain ⟨_, -, -, -, hcall, hepoch, -, -, -, rfl⟩ := finishAcceptEvent_ok hf
  have hlast : accepted ∈ s.accepted ++ [accepted] := by simp
  refine ⟨hs, ⟨?_, h.hex.receipts, h.hex.attestations, h.hex.revocations, h.hex.settled⟩, ?_, ?_,
    h.pending, h.submitting⟩
  · intro a ha
    rcases OrderedMap.mem_values_set ha with rfl | ha
    · exact commitmentHash_hex (hs.committed _ hlast)
    · exact h.hex.events a ha
  · intro a ha
    rcases List.mem_append.mp ha with ha | ha
    · exact h.epochs a ha
    · rw [List.mem_singleton.mp ha, hepoch]
      exact ⟨hR.epochs _ _ htime, by simp [Relay.epochStart, JsNumber.ofInt]⟩
  · intro a ha
    rcases List.mem_append.mp ha with ha | ha
    · exact h.submitted a ha
    · rw [List.mem_singleton.mp ha, hcall, hevent]
      exact he

theorem ServingInvariant.closed (h : ServingInvariant R events s) (ha : first.AddsTransaction)
    (hb : s.store.beginSubmitCheckpoint (R.during first) epoch shard = .ok call)
    (hf : s.store.finishSubmitCheckpoint (R.during second) call = .ok (checkpoint, store))
    (hs : SettlementInvariant R { s with store }) :
    ServingInvariant R events { s with store } := by
  obtain ⟨backend, sent, hbackend, hsent, rfl⟩ := beginSubmitCheckpoint_ok hb
  rw [checkpointFor_during] at hsent
  obtain ⟨hsettled, rfl⟩ := finishSubmitCheckpoint_ok hf
  rw [Relay.during_backend hbackend] at hsettled
  obtain ⟨tx, rfl⟩ := ha sent checkpoint hsettled
  have hhash := ((h.settlement.checkpointFor hsent).settle (some tx)).hash
  refine h.of_store hs ⟨h.hex.events, h.hex.receipts, h.hex.attestations, h.hex.revocations, ?_⟩
  intro c hc
  rcases OrderedMap.mem_values_set hc with rfl | hc
  · exact hhash
  · exact h.hex.settled c hc

theorem RelayCall.stretches_adds {call : RelayCall} (hfirst : first.AddsTransaction)
    (hsecond : second.AddsTransaction) (h : entry ∈ call.stretches first second) :
    entry.1.AddsTransaction := by
  cases call <;>
    simp only [RelayCall.stretches, List.mem_cons, List.not_mem_nil, or_false] at h
  case acceptEvent | submitCheckpoint =>
    rcases h with rfl | rfl
    · exact hfirst
    · exact hsecond
  all_goals
    rw [h]
    exact hfirst

/-- One call, whatever it does. -/
theorem ServingInvariant.serve {call : RelayCall} (h : ServingInvariant R events s)
    (hR : R.Operable) (hd : Digest32 R.noble)
    (hi : Set.InjOn R.noble.sha256 {m | ∃ e ∈ events, m ∈ commitmentMessages R.noble e})
    (he : ∀ event, call = .acceptEvent event → event ∈ events)
    (hfirst : first.AddsTransaction) (hsecond : second.AddsTransaction) :
    ServingInvariant R events (s.serve R (first, second, call)) := by
  have hs : SettlementInvariant R (s.serve R (first, second, call)) := by
    refine h.settlement.run hR.numbers ?_ (h.orderly hd hi he)
    intro entry hm
    exact RelayCall.stretches_adds hfirst hsecond hm
  cases call with
  | upsertIdentity identity =>
    rw [serve_whole R s first second (.upsertIdentity identity) rfl] at hs ⊢
    exact h.act first rfl hs
  | acceptReceipt receipt =>
    rw [serve_whole R s first second (.acceptReceipt receipt) rfl] at hs ⊢
    exact h.act first rfl hs
  | acceptAttestation attestation =>
    rw [serve_whole R s first second (.acceptAttestation attestation) rfl] at hs ⊢
    exact h.act first rfl hs
  | acceptRevocation revocation =>
    rw [serve_whole R s first second (.acceptRevocation revocation) rfl] at hs ⊢
    exact h.act first rfl hs
  | acceptEvent event =>
    rcases serve_acceptEvent R first second event h.pending with hsame | ⟨pending, accepted, store, hb, hf, hlogged⟩
    · rw [hsame]
      exact h
    · rw [hlogged] at hs ⊢
      exact h.logged hR (he event rfl) hb hf hs
  | submitCheckpoint epoch shard =>
    rcases serve_submitCheckpoint R first second epoch shard h.submitting with hsame | ⟨pending, checkpoint, store, hb, hf, hclosed⟩
    · rw [hsame]
      exact h
    · rw [hclosed] at hs ⊢
      exact h.closed hfirst hb hf hs

theorem ServingInvariant.serve_closed {call : RelayCall} (h : ServingInvariant R events s)
    (hR : R.Operable) (hd : Digest32 R.noble)
    (hi : Set.InjOn R.noble.sha256 {m | ∃ e ∈ events, m ∈ commitmentMessages R.noble e})
    (he : ∀ event, call = .acceptEvent event → event ∈ events)
    (hfirst : first.AddsTransaction) (hsecond : second.AddsTransaction)
    (hL : s.store.closedSegments.get? (checkpointStoreKey R.host epoch shard) = some L) :
    (s.serve R (first, second, call)).store.closedSegments.get?
      (checkpointStoreKey R.host epoch shard) = some L := by
  refine h.settlement.run_closed hR.numbers ?_ (h.orderly hd hi he) hL
  intro entry hm
  exact RelayCall.stretches_adds hfirst hsecond hm

theorem ServingInvariant.init (R : Relay) (events : List EventCommitmentV1)
    (resolver : MemoryTrustResolver) : ServingInvariant R events (.idle (.blank resolver)) := by
  refine ⟨.init R resolver, ⟨?_, ?_, ?_, ?_, ?_⟩, ?_, ?_, rfl, rfl⟩
  all_goals
    intro _ hm
    cases hm

/-- What is asked of the entries of a run of calls. -/
def ServedEntry (events : List EventCommitmentV1) (entry : Moment × Moment × RelayCall) : Prop :=
  entry.1.AddsTransaction ∧ entry.2.1.AddsTransaction ∧
    ∀ event, entry.2.2 = .acceptEvent event → event ∈ events

theorem ServingInvariant.run (h : ServingInvariant R events s) (hR : R.Operable)
    (hd : Digest32 R.noble)
    (hi : Set.InjOn R.noble.sha256 {m | ∃ e ∈ events, m ∈ commitmentMessages R.noble e})
    (ha : ∀ entry ∈ calls, ServedEntry events entry) :
    ServingInvariant R events (run (RelaySystem.serve R) s calls) :=
  run_guarded (fun _ _ hg ht => ht.serve hR hd hi hg.1.2.2 hg.1.1 hg.1.2.1)
    ((Guarded.trivial _ s calls).with_all ha) h

theorem ServingInvariant.run_closed (h : ServingInvariant R events s) (hR : R.Operable)
    (hd : Digest32 R.noble)
    (hi : Set.InjOn R.noble.sha256 {m | ∃ e ∈ events, m ∈ commitmentMessages R.noble e})
    (ha : ∀ entry ∈ calls, ServedEntry events entry)
    (hL : s.store.closedSegments.get? (checkpointStoreKey R.host epoch shard) = some L) :
    (Frames.run (RelaySystem.serve R) s calls).store.closedSegments.get?
      (checkpointStoreKey R.host epoch shard) = some L := by
  refine (run_guarded (I := fun t => ServingInvariant R events t ∧ t.store.closedSegments.get?
    (checkpointStoreKey R.host epoch shard) = some L) ?_
    ((Guarded.trivial _ s calls).with_all ha) ⟨h, hL⟩).2
  rintro t entry ⟨⟨hfirst, hsecond, he⟩, -⟩ ⟨ht, hc⟩
  exact ⟨ht.serve hR hd hi he hfirst hsecond, ht.serve_closed hR hd hi he hfirst hsecond hc⟩

end Serving

theorem submittedEvents_mem {calls : List (Moment × Moment × RelayCall)} (h : entry ∈ calls)
    (he : entry.2.2 = .acceptEvent event) : event ∈ submittedEvents calls := by
  simp only [submittedEvents, List.mem_filterMap]
  exact ⟨entry, h, by rw [he]⟩

/-- After every sequence of calls that do not overlap, each accepted event has a valid proof under
the checkpoint of its segment, and a closed segment has kept its root. -/
theorem proofFor_served (hR : R.Operable) (hd : Digest32 R.noble)
    (hi : Set.InjOn R.noble.sha256
      {m | ∃ e ∈ submittedEvents calls, m ∈ commitmentMessages R.noble e})
    (h : InMemoryRelayStore.create R = .ok store)
    (ha : ∀ entry ∈ calls, entry.1.AddsTransaction ∧ entry.2.1.AddsTransaction)
    (hf : (run (RelaySystem.serve R) (.idle store) calls).store.FitsArrays) :
    let s := run (RelaySystem.serve R) (.idle store) calls
    (∀ a ∈ s.accepted, ∃ proof checkpoint,
      s.store.proofFor R a.commitment_hash = .ok (some (proof, checkpoint)) ∧
      verifyInclusion R.noble proof = .ok true ∧ proof.commitment = a.commitment_hash ∧
      proof.root = checkpoint.event_root ∧
      checkpointHash R.noble checkpoint = .ok proof.checkpoint_hash) ∧
    ∀ n epoch shard checkpoint,
      let t := run (RelaySystem.serve R) (.idle store) (calls.take n)
      t.store.segmentClosed R epoch shard = true →
      t.store.checkpointFor R epoch shard = .ok checkpoint →
      ∃ later, s.store.checkpointFor R epoch shard = .ok later ∧
        later.event_root = checkpoint.event_root := by
  have hstore := h
  obtain ⟨resolver, rfl⟩ := create_ok h
  have hall : ∀ entry ∈ calls, ServedEntry (submittedEvents calls) entry :=
    fun entry hm => ⟨(ha entry hm).1, (ha entry hm).2, fun event => submittedEvents_mem hm⟩
  have hinit := ServingInvariant.init R (submittedEvents calls) resolver
  intro s
  have hs : ServingInvariant R (submittedEvents calls) s := hinit.run hR hd hi hall
  refine ⟨?_, ?_⟩
  · intro a hacc
    obtain ⟨checkpoint, hc⟩ := checkpointFor_total hR hstore hs.hex hf (hs.epochs a hacc) a.shard
    obtain ⟨proof, hp⟩ := hs.settlement.proofFor hacc hc
    exact ⟨proof, checkpoint, hp⟩
  · intro n epoch shard checkpoint t hclosed hc
    have htake : ∀ entry ∈ calls.take n, ServedEntry (submittedEvents calls) entry :=
      fun entry hm => hall entry (List.mem_of_mem_take hm)
    have hdrop : ∀ entry ∈ calls.drop n, ServedEntry (submittedEvents calls) entry :=
      fun entry hm => hall entry (List.mem_of_mem_drop hm)
    have ht : ServingInvariant R (submittedEvents calls) t := hinit.run hR hd hi htake
    obtain ⟨L, hL⟩ := Option.isSome_iff_exists.mp hclosed
    have hrun : s = run (RelaySystem.serve R) t (calls.drop n) := by
      rw [← run_append, List.take_append_drop]
    have hLs := ht.run_closed hR hd hi hdrop hL
    rw [← hrun] at hLs
    obtain ⟨before, hb, hsettles⟩ := ht.settlement.closed_settled hL
    obtain ⟨later, hl, hsettles'⟩ := hs.settlement.closed_settled hLs
    rw [hc, Except.ok.injEq] at hb
    subst hb
    exact ⟨later, hl, hsettles.event_root_eq hsettles'⟩

/-- The epochs of times in the range of the language have a canonical text unless they are
thousands of years long. -/
theorem Relay.epochStart_safe {R : Relay}
    (hh : ∀ s t, R.host.dateHeuristics s = some t → t.natAbs ≤ 8640000000000000)
    (hd : (R.epoch_duration_ms : Nat) ≤ 367199254740991) (h : R.host.parse text = some time) :
    (R.epochStart (some time)).isSafeInteger = true := by
  have ht := dateParse_bounded hh h
  have hpos := R.epoch_duration_ms.pos
  have hdiv := Int.mul_ediv_add_emod time R.epoch_duration_ms
  have hmod := Int.emod_nonneg time (b := R.epoch_duration_ms) (by omega)
  have hlt := Int.emod_lt_of_pos time (b := R.epoch_duration_ms) (by omega)
  simp only [Relay.epochStart, JsNumber.isSafeInteger, JsNumber.toInt?_ofInt, decide_eq_true_eq]
  rw [Int.mul_comm]
  omega

def servedNoble : Noble :=
  recorded settlementDigests sampleSignatures fun _ => List.replicate 32 255

theorem servedNoble_digest32 : Digest32 servedNoble :=
  recorded_digest32 (by decide +kernel) fun _ => rfl

theorem settlingRelay_operable : (settlingRelay servedNoble).Operable where
  numbers := numberText_ratText rfl
  duration := by decide
  epochs _ _ := Relay.epochStart_safe nofun (by decide)
  signs _ _ h := by cases h

/-- An event, and then the settlement of its segment. -/
def servedCalls : List (Moment × Moment × RelayCall) :=
  [.upsertIdentity aliceIdentity, .acceptEvent sampleEnvelope,
    .submitCheckpoint (.ofNat 1779667200000) (js "0daa")].map fun call =>
      (sampleMoment, sampleMoment, call)

def servedState : RelaySystem :=
  run (RelaySystem.serve (settlingRelay servedNoble)) (.idle (.blank ⟨.empty⟩)) servedCalls

theorem servedCalls_addTransaction :
    ∀ entry ∈ servedCalls, entry.1.AddsTransaction ∧ entry.2.1.AddsTransaction := by
  intro entry hm
  simp only [servedCalls, List.map_cons, List.map_nil, List.mem_cons, List.not_mem_nil,
    or_false] at hm
  rcases hm with rfl | rfl | rfl
  all_goals exact ⟨sampleMoment_addsTransaction, sampleMoment_addsTransaction⟩

theorem servedCalls_injOn : Set.InjOn servedNoble.sha256
    {m | ∃ e ∈ submittedEvents servedCalls, m ∈ commitmentMessages servedNoble e} := by
  have hnodup : ((commitmentMessages servedNoble sampleEnvelope).map servedNoble.sha256).Nodup := by
    decide +kernel
  rintro m ⟨e, he, hm⟩ m' ⟨e', he', hm'⟩ hsha
  have hone : submittedEvents servedCalls = [sampleEnvelope] := rfl
  rw [hone, List.mem_singleton] at he he'
  subst he he'
  exact List.inj_on_of_nodup_map hnodup hm hm' hsha

/-- The sizes of the logs of a store. -/
def InMemoryRelayStore.sizes (S : InMemoryRelayStore) : List Nat :=
  [S.events.values.length, S.receipts.values.length, S.attestations.values.length,
    S.revocations.values.length]

theorem InMemoryRelayStore.fitsArrays_of_sizes {S : InMemoryRelayStore} (h : S.sizes = lengths)
    (hs : ∀ n ∈ lengths, n < 2 ^ 32) : S.FitsArrays := by
  subst h
  simp only [InMemoryRelayStore.sizes, List.mem_cons, List.not_mem_nil, or_false,
    forall_eq_or_imp, forall_eq] at hs
  exact ⟨hs.1, hs.2.1, hs.2.2.1, hs.2.2.2⟩

theorem servedState_sizes :
    (servedState.store.sizes, servedState.store.closedSegments.keys.length,
      servedState.accepted.length) = ([1, 0, 0, 0], 1, 1) := by
  decide +kernel

theorem servedState_fitsArrays : servedState.store.FitsArrays :=
  InMemoryRelayStore.fitsArrays_of_sizes (congrArg Prod.fst servedState_sizes) (by decide)

theorem servedState_create : InMemoryRelayStore.create (settlingRelay servedNoble) =
    .ok (.blank ⟨.empty⟩) := rfl

theorem proofFor_served_sample :
    (servedState.store.closedSegments.keys.length, servedState.accepted.length) = (1, 1) ∧
      ∀ a ∈ servedState.accepted, ∃ proof checkpoint,
        servedState.store.proofFor (settlingRelay servedNoble) a.commitment_hash =
          .ok (some (proof, checkpoint)) ∧
        verifyInclusion servedNoble proof = .ok true ∧ proof.commitment = a.commitment_hash ∧
        proof.root = checkpoint.event_root ∧
        checkpointHash servedNoble checkpoint = .ok proof.checkpoint_hash := by
  refine ⟨?_, ?_⟩
  · have h := servedState_sizes
    simp only [Prod.mk.injEq] at h ⊢
    exact h.2
  · have h := proofFor_served settlingRelay_operable servedNoble_digest32 servedCalls_injOn
      servedState_create servedCalls_addTransaction servedState_fitsArrays
    exact h.1

end Continuity
