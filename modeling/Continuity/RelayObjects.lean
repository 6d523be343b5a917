import Continuity.RelayProofs

namespace Continuity
open Collections Frames
set_option autoImplicit true

inductive LogKind where
  | receipt
  | attestation
  | revocation
  deriving DecidableEq

/-- What the three logs beside the one of the events take. -/
inductive LogObject where
  | receipt (receipt : ReceiptCommitmentV1)
  | attestation (attestation : AttestationV1)
  | revocation (revocation : RevocationV1)

namespace LogObject

def kind : LogObject → LogKind
  | .receipt _ => .receipt
  | .attestation _ => .attestation
  | .revocation _ => .revocation

def commitment (N : Noble) : LogObject → Js Hex32
  | .receipt object => receiptHash N object
  | .attestation object => attestationHash N object
  | .revocation object => revocationHash N object

def time (H : Host) : LogObject → Option Int
  | .receipt object => H.parse object.timestamp
  | .attestation object => H.parse object.issued_at
  | .revocation object => H.parse object.effective_at

/-- Whose shard the object goes to. -/
def owner : LogObject → TrustID
  | .receipt object => object.receiver
  | .attestation object => object.issuer
  | .revocation object => object.trust_id

end LogObject

def BatchCheckpointV1.logRoot (checkpoint : BatchCheckpointV1) : LogKind → Hex32
  | .receipt => checkpoint.receipt_root
  | .attestation => checkpoint.attestation_root
  | .revocation => checkpoint.revocation_root

namespace InMemoryRelayStore

def log (S : InMemoryRelayStore) : LogKind → OrderedMap Hex32 AcceptedLogObject
  | .receipt => S.receipts
  | .attestation => S.attestations
  | .revocation => S.revocations

/-- The leaves of one of the trees of a segment. -/
def leaves (S : InMemoryRelayStore) (kind : LogKind) (epoch : JsNumber) (shard : JsString) :
    List Hex32 :=
  commitmentsOf (objectsFor (S.log kind) epoch shard)

def acceptObject (R : Relay) (S : InMemoryRelayStore) :
    LogObject → Js (AcceptedLogObject × InMemoryRelayStore)
  | .receipt receipt => S.acceptReceipt R receipt
  | .attestation attestation => S.acceptAttestation R attestation
  | .revocation revocation => S.acceptRevocation R revocation

/-- One call; a failed one changes nothing. -/
def takeObject (R : Relay) (S : InMemoryRelayStore) (entry : Clock × LogObject) :
    InMemoryRelayStore :=
  match S.acceptObject (R.at entry.1) entry.2 with
  | .ok (_, S') => S'
  | .error _ => S

end InMemoryRelayStore

/-- The time of the object can be read, and its commitment is not in its log yet. -/
def FreshObject (R : Relay) (S : InMemoryRelayStore) (entry : Clock × LogObject) : Prop :=
  (∃ time, entry.2.time R.host = some time) ∧
    ∀ c, entry.2.commitment R.noble = .ok c → (S.log entry.2.kind).has c = false

/-- What the acceptance of an object does to a store. -/
structure Logged (R : Relay) (S : InMemoryRelayStore) (object : LogObject) (commitment : Hex32)
    (accepted : AcceptedLogObject) (S' : InMemoryRelayStore) : Prop where
  hash : object.commitment R.noble = .ok commitment
  next : NextEntry R S (S.log object.kind) commitment (object.time R.host)
    (shardForTrustID R.noble object.owner) accepted
  log : S'.log object.kind = (S.log object.kind).set commitment accepted
  others : ∀ kind, kind ≠ object.kind → S'.log kind = S.log kind
  events : S'.events = S.events
  closed : S'.closedSegments = S.closedSegments
  settled : S'.settledCheckpoints = S.settledCheckpoints

/-- A log in which every entry can be found again. -/
structure DenseLog (R : Relay) (items : OrderedMap Hex32 AcceptedLogObject) : Prop where
  keyed : ∀ c item, items.get? c = some item → item.commitment_hash = c
  hex : HexLog items
  dated : ∀ item ∈ items.values, ∃ text time, R.host.parse text = some time ∧
    item.epoch_start_ms = R.epochStart (some time)
  dense : DenseIndices id items.values

/-- A store in which only objects were accepted, each of them once. -/
structure ObjectsInvariant (R : Relay) (S : InMemoryRelayStore) : Prop where
  logs : ∀ kind, DenseLog R (S.log kind)
  events : S.events.values = []
  closed : S.closedSegments.entries = []
  settled : S.settledCheckpoints.entries = []

section Acceptance

variable {R : Relay} {S S' : InMemoryRelayStore} {object : LogObject}

theorem acceptObject_ok (h : S.acceptObject R object = .ok (accepted, S')) :
    ∃ commitment, Logged R S object commitment accepted S' := by
  cases object with
  | receipt receipt =>
    obtain ⟨commitment, hc, hn, rfl⟩ := acceptReceipt_ok h
    refine ⟨commitment, hc, hn, rfl, ?_, rfl, rfl, rfl⟩
    intro kind hk
    cases kind <;> first | rfl | exact absurd rfl hk
  | attestation attestation =>
    obtain ⟨commitment, hc, hn, rfl⟩ := acceptAttestation_ok h
    refine ⟨commitment, hc, hn, rfl, ?_, rfl, rfl, rfl⟩
    intro kind hk
    cases kind <;> first | rfl | exact absurd rfl hk
  | revocation revocation =>
    obtain ⟨commitment, hc, hn, rfl⟩ := acceptRevocation_ok h
    refine ⟨commitment, hc, hn, rfl, ?_, rfl, rfl, rfl⟩
    intro kind hk
    cases kind <;> first | rfl | exact absurd rfl hk

/-- In an open segment an object with a commitment is accepted. -/
theorem acceptObject_total (hc : object.commitment R.noble = .ok c)
    (ho : ∀ epoch shard, S.segmentClosed R epoch shard = false) :
    ∃ accepted S', S.acceptObject R object = .ok (accepted, S') := by
  have hlog : ∀ items epoch shard,
      ∃ accepted, S.acceptLogObject R items c epoch shard = .ok accepted := by
    intro items epoch shard
    rw [InMemoryRelayStore.acceptLogObject, ho epoch shard]
    exact ⟨_, rfl⟩
  cases object with
  | receipt receipt =>
    obtain ⟨accepted, ha⟩ := hlog S.receipts (R.epochStart (R.host.parse receipt.timestamp))
      (shardForTrustID R.noble receipt.receiver)
    exact ⟨accepted, _, bind_eq_ok.mpr ⟨c, hc, bind_eq_ok.mpr ⟨accepted, ha, rfl⟩⟩⟩
  | attestation attestation =>
    obtain ⟨accepted, ha⟩ := hlog S.attestations (R.epochStart (R.host.parse attestation.issued_at))
      (shardForTrustID R.noble attestation.issuer)
    exact ⟨accepted, _, bind_eq_ok.mpr ⟨c, hc, bind_eq_ok.mpr ⟨accepted, ha, rfl⟩⟩⟩
  | revocation revocation =>
    obtain ⟨accepted, ha⟩ := hlog S.revocations
      (R.epochStart (R.host.parse revocation.effective_at))
      (shardForTrustID R.noble revocation.trust_id)
    exact ⟨accepted, _, bind_eq_ok.mpr ⟨c, hc, bind_eq_ok.mpr ⟨accepted, ha, rfl⟩⟩⟩

theorem LogObject.commitment_hex (h : object.commitment N = .ok c) :
    ∃ bytes, c = bytesToHex bytes := by
  cases object <;> exact hashSignedObject_hex h

theorem LogObject.time_text {t : Int} (h : object.time H = some t) :
    ∃ text, H.parse text = some t := by
  cases object <;> exact ⟨_, h⟩

theorem Logged.of_at (h : Logged (R.at clock) S object c accepted S') :
    Logged R S object c accepted S' :=
  ⟨h.hash, ⟨h.next.commitment_hash, h.next.epoch, h.next.shard, h.next.index,
    h.next.segment_open⟩, h.log, h.others, h.events, h.closed, h.settled⟩

theorem takeObject_cases (R : Relay) (S : InMemoryRelayStore) (entry : Clock × LogObject) :
    S.takeObject R entry = S ∨
      ∃ c accepted, Logged R S entry.2 c accepted (S.takeObject R entry) := by
  unfold InMemoryRelayStore.takeObject
  split
  · next hok =>
    obtain ⟨c, hl⟩ := acceptObject_ok hok
    exact .inr ⟨c, _, hl.of_at⟩
  · exact .inl rfl

end Acceptance

section Logs

variable {R : Relay} {S S' : InMemoryRelayStore} {items : OrderedMap Hex32 AcceptedLogObject}
  {object : LogObject}

theorem objectsFor_length_eq (items : OrderedMap Hex32 AcceptedLogObject) (epoch : JsNumber)
    (shard : JsString) :
    (objectsFor items epoch shard).length = (segmentOf id items.values epoch shard).length :=
  List.length_insertionSort ..

theorem DenseLog.objectsFor_eq (h : DenseLog R items) (epoch : JsNumber) (shard : JsString) :
    objectsFor items epoch shard = segmentOf id items.values epoch shard :=
  h.dense.insertionSort_eq epoch shard

theorem DenseLog.nodup (h : DenseLog R items) :
    (items.values.map AcceptedLogObject.commitment_hash).Nodup := by
  have hkeys : items.values.map AcceptedLogObject.commitment_hash = items.entries.map Prod.fst := by
    rw [OrderedMap.values, List.map_map]
    apply List.map_congr_left
    intro entry hm
    exact h.keyed entry.1 entry.2 (OrderedMap.mem_entries.mp hm)
  rw [hkeys]
  exact items.nodup

/-- A new entry with a time keeps a log dense. -/
theorem DenseLog.set (h : DenseLog R items) (hn : NextEntry R S items c (some time) shard accepted)
    (ht : R.host.parse text = some time) (hc : c = bytesToHex bytes) (hf : items.has c = false) :
    DenseLog R (items.set c accepted) where
  keyed := by
    intro c' item hget
    rw [OrderedMap.get?_set] at hget
    split at hget
    · next he =>
      cases hget
      rw [hn.commitment_hash, he]
    · exact h.keyed c' item hget
  hex := h.hex.set (hn.commitment_hash.trans hc) c
  dated := by
    intro item hm
    rcases OrderedMap.mem_values_set hm with rfl | hm
    · exact ⟨text, time, ht, hn.epoch⟩
    · exact h.dated item hm
  dense := by
    rw [OrderedMap.values_set_of_has items hf]
    apply h.dense.append
    rw [← objectsFor_length_eq]
    exact hn.index

theorem ObjectsInvariant.segmentClosed (h : ObjectsInvariant R S) (R' : Relay) (epoch : JsNumber)
    (shard : JsString) : S.segmentClosed R' epoch shard = false := by
  simp [InMemoryRelayStore.segmentClosed, OrderedMap.has, OrderedMap.get?, h.closed, getEntry]

theorem ObjectsInvariant.init (R : Relay) (resolver : MemoryTrustResolver) :
    ObjectsInvariant R (.blank resolver) := by
  refine ⟨?_, rfl, rfl, rfl⟩
  intro kind
  have hempty : (InMemoryRelayStore.blank resolver).log kind = .empty := by cases kind <;> rfl
  rw [hempty]
  refine ⟨nofun, ?_, ?_, fun _ _ => rfl⟩
  · intro item hm
    cases hm
  · intro item hm
    cases hm

theorem ObjectsInvariant.logged (h : ObjectsInvariant R S)
    (hl : Logged R S object c accepted S') (ht : object.time R.host = some time)
    (hf : (S.log object.kind).has c = false) : ObjectsInvariant R S' := by
  refine ⟨?_, by rw [hl.events]; exact h.events, by rw [hl.closed]; exact h.closed,
    by rw [hl.settled]; exact h.settled⟩
  intro kind
  by_cases hk : kind = object.kind
  · obtain ⟨text, hp⟩ := LogObject.time_text ht
    obtain ⟨bytes, hb⟩ := LogObject.commitment_hex hl.hash
    have hn := hl.next
    rw [ht] at hn
    rw [hk, hl.log]
    exact (h.logs object.kind).set hn hp hb hf
  · rw [hl.others kind hk]
    exact h.logs kind

/-- One call with a fresh object. -/
theorem ObjectsInvariant.step (h : ObjectsInvariant R S) (hf : FreshObject R S entry) :
    ObjectsInvariant R (S.takeObject R entry) := by
  obtain ⟨⟨time, ht⟩, hfresh⟩ := hf
  rcases takeObject_cases R S entry with he | ⟨c, accepted, hl⟩
  · rw [he]
    exact h
  · exact h.logged hl ht (hfresh c hl.hash)

/-- A fresh object leaves the entries of the logs alone. -/
theorem takeObject_kept (hf : FreshObject R S entry) (hg : (S.log kind).get? c = some item) :
    ((S.takeObject R entry).log kind).get? c = some item := by
  rcases takeObject_cases R S entry with he | ⟨c', accepted, hl⟩
  · rw [he]
    exact hg
  · by_cases hk : kind = entry.2.kind
    · subst hk
      have hne : c ≠ c' := by
        rintro rfl
        have hnone := hf.2 c hl.hash
        rw [OrderedMap.has, hg] at hnone
        cases hnone
      rw [hl.log, OrderedMap.get?_set_of_ne _ hne]
      exact hg
    · rw [hl.others kind hk]
      exact hg

/-- Where the entry of an object stands. -/
structure EntryOf (R : Relay) (S : InMemoryRelayStore) (object : LogObject) (c : Hex32)
    (item : AcceptedLogObject) : Prop where
  stored : (S.log object.kind).get? c = some item
  epoch : item.epoch_start_ms = R.epochStart (object.time R.host)
  shard : item.shard = shardForTrustID R.noble object.owner

theorem run_kept (hg : Guarded (InMemoryRelayStore.takeObject R) (FreshObject R) S calls)
    (h : EntryOf R S object c item) :
    EntryOf R (run (InMemoryRelayStore.takeObject R) S calls) object c item := by
  refine ⟨?_, h.epoch, h.shard⟩
  exact run_guarded (I := fun T => (T.log object.kind).get? c = some item)
    (fun T entry hf hT => takeObject_kept hf hT) hg h.stored

/-- Every object of a run without resubmissions is in its log at the end. -/
theorem run_entry (h : ObjectsInvariant R S)
    (hg : Guarded (InMemoryRelayStore.takeObject R) (FreshObject R) S calls)
    (hm : (clock, object) ∈ calls) (hc : object.commitment R.noble = .ok c) :
    ∃ item, EntryOf R (run (InMemoryRelayStore.takeObject R) S calls) object c item := by
  induction calls generalizing S with
  | nil => cases hm
  | cons entry rest ih =>
    obtain ⟨hf, hrest⟩ := hg
    rcases List.mem_cons.mp hm with rfl | hm
    · obtain ⟨accepted, S', hok⟩ := acceptObject_total (R := R.at clock) hc (h.segmentClosed _)
      have htake : S.takeObject R (clock, object) = S' := by
        rw [InMemoryRelayStore.takeObject, hok]
      obtain ⟨c', hl⟩ := acceptObject_ok hok
      obtain rfl : c = c' := Except.ok.inj (hc.symm.trans hl.hash)
      rw [htake] at hrest
      rw [show run (InMemoryRelayStore.takeObject R) S ((clock, object) :: rest) =
        run (InMemoryRelayStore.takeObject R) S' rest by rw [← htake]; rfl]
      refine ⟨accepted, run_kept hrest ⟨?_, hl.next.epoch, hl.next.shard⟩⟩
      rw [hl.log, OrderedMap.get?_set_self]
    · exact ih (h.step hf) hrest hm

/-- The checkpoints of a store are made of its events, its leaves and its settlements. -/
theorem checkpointFor_congr (he : S'.events = S.events)
    (hs : S'.settledCheckpoints = S.settledCheckpoints)
    (hl : ∀ kind epoch shard, S'.leaves kind epoch shard = S.leaves kind epoch shard)
    (epoch : JsNumber) (shard : JsString) :
    S'.checkpointFor R epoch shard = S.checkpointFor R epoch shard := by
  have hr := hl .receipt epoch shard
  have ha := hl .attestation epoch shard
  have hv := hl .revocation epoch shard
  simp only [InMemoryRelayStore.leaves, InMemoryRelayStore.log] at hr ha hv
  simp only [InMemoryRelayStore.checkpointFor, InMemoryRelayStore.unsignedCheckpoint,
    InMemoryRelayStore.eventCommitments, InMemoryRelayStore.eventsFor,
    InMemoryRelayStore.previousCheckpointHash, he, hs, hr, ha, hv]

/-- An entry that is written again moves to the end of its segment. -/
theorem DenseLog.rewritten (h : DenseLog R items) (hold : items.get? c = some old)
    (hc : accepted.commitment_hash = c) (he : accepted.epoch_start_ms = old.epoch_start_ms)
    (hs : accepted.shard = old.shard)
    (hi : accepted.log_index = (objectsFor items accepted.epoch_start_ms accepted.shard).length)
    (hself : inSegment old.epoch_start_ms old.shard old = true) :
    (∀ epoch shard, commitmentsOf (objectsFor (items.set c accepted) epoch shard) =
        commitmentsOf (objectsFor items epoch shard)) ↔
      old.log_index + 1 = (objectsFor items old.epoch_start_ms old.shard).length := by
  obtain ⟨before, after, hv, hv'⟩ := OrderedMap.values_set_of_get? hold accepted
  have hd := h.dense
  have hnodup := h.nodup
  rw [objectsFor_length_eq] at hi
  rw [hv] at hd hi hnodup
  have hold' := h.keyed c old hold
  -- In each segment of the old entry the new one comes last.
  have hmoved : ∀ epoch shard, inSegment epoch shard old = true →
      objectsFor items epoch shard =
        segmentOf id before epoch shard ++ old :: segmentOf id after epoch shard ∧
      objectsFor (items.set c accepted) epoch shard =
        segmentOf id before epoch shard ++ segmentOf id after epoch shard ++ [accepted] := by
    intro epoch shard hseg
    refine ⟨?_, ?_⟩
    · rw [h.objectsFor_eq, hv]
      simp [segmentOf, List.filter_append, hseg]
    · rw [objectsFor, segmentItems, hv']
      exact hd.reindexed he hs hi hseg
  have hother : ∀ epoch shard, inSegment epoch shard old = false →
      objectsFor (items.set c accepted) epoch shard = objectsFor items epoch shard := by
    intro epoch shard hseg
    have hnew : inSegment epoch shard accepted = false := by
      rw [inSegment, he, hs]
      exact hseg
    simp [objectsFor, segmentItems, hv, hv', List.filter_append, hseg, hnew]
  obtain ⟨hfirst, hthen⟩ := hmoved _ _ hself
  have hplace : old.log_index = (segmentOf id before old.epoch_start_ms old.shard).length := by
    have hrange := h.dense old.epoch_start_ms old.shard
    rw [← h.objectsFor_eq, hfirst] at hrange
    have hat := congrArg
      (·[(segmentOf id before old.epoch_start_ms old.shard).length]?) hrange
    simpa [List.getElem?_range] using hat
  constructor
  · intro hall
    have hlist := hall old.epoch_start_ms old.shard
    rw [hfirst, hthen] at hlist
    have hpost : segmentOf id after old.epoch_start_ms old.shard = [] := by
      cases hpost : segmentOf id after old.epoch_start_ms old.shard with
      | nil => rfl
      | cons item rest =>
        rw [hpost] at hlist
        simp only [commitmentsOf, List.map_append, List.map_cons, List.append_assoc,
          List.append_cancel_left_eq, List.cons_append, List.cons.injEq] at hlist
        have hmem : item ∈ after := by
          have hin : item ∈ segmentOf id after old.epoch_start_ms old.shard := by
            rw [hpost]
            exact List.mem_cons_self
          exact List.mem_of_mem_filter hin
        simp only [List.map_append, List.map_cons, List.nodup_append, List.nodup_cons] at hnodup
        exact absurd (hlist.1 ▸ List.mem_map_of_mem hmem) hnodup.2.1.1
    rw [hfirst, hpost, hplace]
    simp
  · intro hlast
    rw [hfirst, hplace] at hlast
    have hpost : segmentOf id after old.epoch_start_ms old.shard = [] := by
      rw [← List.length_eq_zero_iff]
      simp only [List.length_append, List.length_cons] at hlast
      omega
    intro epoch shard
    cases hseg : inSegment epoch shard old with
    | false => rw [hother epoch shard hseg]
    | true =>
      obtain ⟨hfirst', hthen'⟩ := hmoved epoch shard hseg
      rw [segmentOf_own hseg] at hpost
      rw [hfirst', hthen', hpost]
      simp [commitmentsOf, hc, hold']

theorem DenseLog.inSegment (h : DenseLog R items) (hm : item ∈ items.values) :
    inSegment item.epoch_start_ms item.shard item = true := by
  obtain ⟨text, time, -, he⟩ := h.dated item hm
  simp [Continuity.inSegment, he, Relay.epochStart]

theorem DenseLog.encodable (h : DenseLog R items) (hR : R.Operable) (hm : item ∈ items.values) :
    Encodable (.num item.epoch_start_ms) := by
  obtain ⟨text, time, ht, he⟩ := h.dated item hm
  rw [he]
  exact ⟨hR.epochs text time ht, by simp [Relay.epochStart, JsNumber.ofInt]⟩

theorem DenseLog.leaf (h : DenseLog R items) (hm : item ∈ items.values) :
    (commitmentsOf (objectsFor items item.epoch_start_ms item.shard))[item.log_index]? =
      some item.commitment_hash := by
  have hin : item ∈ segmentOf id items.values item.epoch_start_ms item.shard :=
    List.mem_filter.mpr ⟨hm, h.inSegment hm⟩
  have hget : (segmentOf id items.values item.epoch_start_ms item.shard)[item.log_index]? =
      some item := h.dense.indexed hin
  rw [h.objectsFor_eq, commitmentsOf, List.getElem?_map, hget, Option.map_some]

/-- An object that is accepted again keeps the leaves when it is the last of its segment. -/
theorem ObjectsInvariant.rewritten (h : ObjectsInvariant R S)
    (hl : Logged R S object c accepted S') (hi : EntryOf R S object c item) :
    (∀ kind epoch shard, S'.leaves kind epoch shard = S.leaves kind epoch shard) ↔
      item.log_index + 1 =
        (objectsFor (S.log object.kind) item.epoch_start_ms item.shard).length := by
  have hd := h.logs object.kind
  have hmem : item ∈ (S.log object.kind).values := OrderedMap.mem_values.mpr ⟨c, hi.stored⟩
  rw [← hd.rewritten hi.stored hl.next.commitment_hash (hl.next.epoch.trans hi.epoch.symm)
    (hl.next.shard.trans hi.shard.symm) hl.next.index (hd.inSegment hmem)]
  constructor
  · intro hall epoch shard
    have hkind := hall object.kind epoch shard
    rw [InMemoryRelayStore.leaves, hl.log] at hkind
    exact hkind
  · intro hlog kind epoch shard
    by_cases hk : kind = object.kind
    · rw [hk, InMemoryRelayStore.leaves, hl.log]
      exact hlog epoch shard
    · rw [InMemoryRelayStore.leaves, hl.others kind hk, InMemoryRelayStore.leaves]

theorem ObjectsInvariant.hexStore (h : ObjectsInvariant R S) : HexStore R.noble S where
  events := by
    intro a ha
    rw [h.events] at ha
    cases ha
  receipts := (h.logs .receipt).hex
  attestations := (h.logs .attestation).hex
  revocations := (h.logs .revocation).hex
  settled := by
    intro checkpoint hm
    rw [OrderedMap.values, h.settled] at hm
    cases hm

theorem ObjectsInvariant.root (h : ObjectsInvariant R S)
    (hc : S.checkpointFor R epoch shard = .ok checkpoint) (kind : LogKind) :
    ∃ tree, buildMerkleTree R.noble (S.leaves kind epoch shard) = .ok tree ∧
      checkpoint.logRoot kind = tree.root := by
  rcases checkpointFor_ok hc with hs | ⟨-, unsigned, hu, hsign⟩
  · rw [OrderedMap.get?, h.settled] at hs
    cases hs
  · obtain ⟨relay_signature, rfl⟩ := signCheckpoint_ok hsign
    obtain ⟨events, receipts, attestations, revocations, hash, -, hr, ha, hv, -, hrr, har, hvr, -⟩ :=
      unsignedCheckpoint_ok hu
    cases kind with
    | receipt => exact ⟨receipts, hr, hrr⟩
    | attestation => exact ⟨attestations, ha, har⟩
    | revocation => exact ⟨revocations, hv, hvr⟩

end Logs

section Claims

variable {R : Relay} {store : InMemoryRelayStore} {calls : List (Clock × LogObject)}

/-- As long as no object comes twice and every time can be read, the objects of a segment are
numbered from 0 and are the leaves of its checkpoint. An object that does come again keeps the
checkpoints only when it is the last one of its segment. -/
theorem acceptObject_dense (hR : R.Operable) (h : InMemoryRelayStore.create R = .ok store)
    (hg : Guarded (InMemoryRelayStore.takeObject R) (FreshObject R) store calls)
    (hf : (run (InMemoryRelayStore.takeObject R) store calls).FitsArrays) :
    let S := run (InMemoryRelayStore.takeObject R) store calls
    (∀ kind epoch shard, (objectsFor (S.log kind) epoch shard).map (·.log_index) =
        List.range (objectsFor (S.log kind) epoch shard).length) ∧
      (∀ kind, ∀ item ∈ (S.log kind).values, ∃ checkpoint tree,
        S.checkpointFor R item.epoch_start_ms item.shard = .ok checkpoint ∧
        buildMerkleTree R.noble (S.leaves kind item.epoch_start_ms item.shard) = .ok tree ∧
        checkpoint.logRoot kind = tree.root ∧
        (S.leaves kind item.epoch_start_ms item.shard)[item.log_index]? =
          some item.commitment_hash) ∧
      ∀ entry ∈ calls, ∀ clock accepted S',
        S.acceptObject (R.at clock) entry.2 = .ok (accepted, S') →
        ∃ item, EntryOf R S entry.2 accepted.commitment_hash item ∧
          ((∀ kind epoch shard, S'.leaves kind epoch shard = S.leaves kind epoch shard) ↔
            item.log_index + 1 =
              (objectsFor (S.log entry.2.kind) item.epoch_start_ms item.shard).length) ∧
          (item.log_index + 1 =
              (objectsFor (S.log entry.2.kind) item.epoch_start_ms item.shard).length →
            ∀ epoch shard, S'.checkpointFor R epoch shard = S.checkpointFor R epoch shard) := by
  have hstore := h
  obtain ⟨resolver, rfl⟩ := create_ok h
  intro S
  have hinit := ObjectsInvariant.init R resolver
  have hS : ObjectsInvariant R S := run_guarded (fun T entry hf hT => hT.step hf) hg hinit
  refine ⟨?_, ?_, ?_⟩
  · intro kind epoch shard
    rw [(hS.logs kind).objectsFor_eq]
    exact (hS.logs kind).dense epoch shard
  · intro kind item hm
    obtain ⟨checkpoint, hc⟩ := checkpointFor_total hR hstore hS.hexStore hf
      ((hS.logs kind).encodable hR hm) item.shard
    obtain ⟨tree, ht, hroot⟩ := hS.root hc kind
    exact ⟨checkpoint, tree, hc, ht, hroot, (hS.logs kind).leaf hm⟩
  · intro entry hm clock accepted S' hok
    obtain ⟨c, hl⟩ := acceptObject_ok hok
    have hl := hl.of_at
    obtain ⟨item, hi⟩ := run_entry hinit hg hm hl.hash
    have hc := hl.next.commitment_hash
    have hiff := hS.rewritten hl hi
    rw [← hc] at hi
    exact ⟨item, hi, hiff, fun hlast =>
      checkpointFor_congr hl.events hl.settled (hiff.mpr hlast)⟩

/-- A receipt of alice for the sample event. -/
def receiptAt (timestamp : RFC3339) : ReceiptCommitmentV1 where
  event_commitment := sampleCommitment
  receiver := js "did:tsl:alice"
  signing_key_id := js "#a"
  receipt_class := .received
  timestamp
  metadata_commitment := none
  signature := js "0x00"

def receiptDigest (timestamp : RFC3339) (digest : Nat) : Bytes × Bytes :=
  (domainMessage DOMAIN_TAGS.RECEIPT_V1 (valueBytes (.obj (withoutSignature
    (receiptAt timestamp).toFields))), bigEndian 32 digest)

def receiptDigests : List (Bytes × Bytes) :=
  [receiptDigest (js "2026-05-25T00:00:00Z")
      0x1c36620ca3069daaac1bcc5af0e53f9204ac713b04bb9938aca98338cbb939f2,
    receiptDigest (js "2016-12-31T23:59:60Z")
      0x76884e57b3709896d24b3c6e6ad1dfb20c4baf4607e99d88d1e9e95408b3ca75]

/-- The relay of the settlements, which knows the digests of the receipts too. -/
def receiptRelay : Relay :=
  settlingRelay (recorded (receiptDigests ++ settlementDigests) sampleSignatures
    fun _ => List.replicate 32 255)

/-- A receipt that is sent twice has index 1 and nothing has index 0; a receipt in a leap second
goes to the log, but its segment has no checkpoint. -/
theorem acceptObject_dense_resubmitted :
    let R := receiptRelay
    let receipt := LogObject.receipt (receiptAt (js "2026-05-25T00:00:00Z"))
    let leap := LogObject.receipt (receiptAt (js "2016-12-31T23:59:60Z"))
    let S := run (InMemoryRelayStore.takeObject R) (.blank ⟨.empty⟩)
      [(sampleClock, receipt), (sampleClock, receipt)]
    let T := run (InMemoryRelayStore.takeObject R) (.blank ⟨.empty⟩) [(sampleClock, leap)]
    InMemoryRelayStore.create R = .ok (.blank ⟨.empty⟩) ∧
      ((objectsFor (S.log .receipt) (.ofNat 1779667200000) (js "0daa")).map (·.log_index)) = [1] ∧
      ((T.log .receipt).values.map fun item => (item.epoch_start_ms, item.shard)) =
        [(.nan, js "0daa")] ∧
      (T.checkpointFor R .nan (js "0daa")).toOption.isNone = true := by
  refine ⟨rfl, ?_⟩
  decide +kernel

/-- One receipt, once. -/
def receiptCalls : List (Clock × LogObject) :=
  [(sampleClock, .receipt (receiptAt (js "2026-05-25T00:00:00Z")))]

def receiptState : InMemoryRelayStore :=
  run (InMemoryRelayStore.takeObject receiptRelay) (.blank ⟨.empty⟩) receiptCalls

theorem receiptRelay_operable : receiptRelay.Operable where
  numbers := numberText_ratText rfl
  duration := by decide
  epochs _ _ := Relay.epochStart_safe nofun (by decide)
  signs _ _ h := by cases h

theorem receiptState_sizes : receiptState.sizes = [0, 1, 0, 0] := by
  decide

theorem receiptState_fitsArrays : receiptState.FitsArrays :=
  InMemoryRelayStore.fitsArrays_of_sizes receiptState_sizes (by decide)

theorem receiptCalls_fresh : Guarded (InMemoryRelayStore.takeObject receiptRelay)
    (FreshObject receiptRelay) (.blank ⟨.empty⟩) receiptCalls := by
  refine ⟨⟨⟨1779667200000, by decide⟩, ?_⟩, True.intro⟩
  intro c _
  rfl

theorem acceptObject_dense_sample :
    receiptState.sizes = [0, 1, 0, 0] ∧
      ∀ item ∈ (receiptState.log .receipt).values, ∃ checkpoint tree,
        receiptState.checkpointFor receiptRelay item.epoch_start_ms item.shard = .ok checkpoint ∧
        buildMerkleTree receiptRelay.noble
          (receiptState.leaves .receipt item.epoch_start_ms item.shard) = .ok tree ∧
        checkpoint.logRoot .receipt = tree.root ∧
        (receiptState.leaves .receipt item.epoch_start_ms item.shard)[item.log_index]? =
          some item.commitment_hash := by
  refine ⟨receiptState_sizes, ?_⟩
  have h := acceptObject_dense receiptRelay_operable
    (show InMemoryRelayStore.create receiptRelay = .ok (.blank ⟨.empty⟩) from rfl)
    receiptCalls_fresh receiptState_fitsArrays
  exact h.2.1 .receipt

end Claims

end Continuity
